import Dialogue.Proofs.Json.Regular
import Dialogue.Proofs.Tool.Format
import Mathlib.Data.List.Forall2

/-!
# Dialogue.Proofs.Tool.OlderForm — calls in the older form, all of them or none

A reply without a block may still be an object that lists calls. `Lists` and `Describes` say which
replies do and what an entry calls, without reading anything in an order. `OlderForm` asks it of every
entry, and of at least one.

* `oldCall?_eq_some_iff` — an entry is read as the call that it describes;
* `oldCalls_of_olderForm`, `oldCalls_of_not_olderForm` — a reply in the older form gives a call for
  each entry, and any other reply gives none;
* `extract_olderForm` — the statement for whole replies, with ids and arguments.
-/

namespace Dialogue.Tool

open Dialogue.Json (Regular FloatFree)

/-! ## The form -/

/-- A text that is an object with an array of entries. -/
def Lists (text : String) (entries : List Json) : Prop :=
  ∃ members, Json.read text = .ok (.obj members) ∧ members.lookup "tool_calls" = some (.arr entries)

/-- The arguments that a function entry gives: none, a value, or a value as a text. -/
inductive GivesArguments (function : Json.Members) : Json → Prop where
  | absent (h : function.lookup "arguments" = none) : GivesArguments function (.obj [])
  | value {j : Json} (h : function.lookup "arguments" = some j) (htext : ∀ text, j ≠ .str text) :
      GivesArguments function j
  | text {text : String} {j : Json} (h : function.lookup "arguments" = some (.str text))
      (hread : Json.read text = .ok j) : GivesArguments function j

/-- An entry with a function that has a name and gives arguments. -/
inductive Describes : Json → String → Json → Prop where
  | entry {members function : Json.Members} {name : String} {arguments : Json}
      (hfunction : members.lookup "function" = some (.obj function))
      (hname : function.lookup "name" = some (.str name)) (hne : name ≠ "")
      (harguments : GivesArguments function arguments) : Describes (.obj members) name arguments

/-- A text that lists at least one entry, and in which every entry describes a call. -/
def OlderForm (text : String) (entries : List Json) : Prop :=
  Lists text entries ∧ entries ≠ [] ∧ ∀ entry ∈ entries, ∃ name arguments, Describes entry name arguments

/-- The id that an entry brings with it, as a text. -/
def ownId? (entry : Json) : Option String := ((entry.get? "id").bind Json.given?).map Json.shown

/-- How many of the entries bring no id. -/
def idsMissing (entries : List Json) : Nat := entries.countP fun entry => (ownId? entry).isNone

/-! ## Reading entries -/

theorem toOption_eq_some_iff {ε α : Type} {x : Except ε α} {a : α} :
    x.toOption = some a ↔ x = .ok a := by
  cases x <;> simp [Except.toOption]

theorem oldEntries?_eq_some_iff {text : String} {entries : List Json} :
    oldEntries? text = some entries ↔ Lists text entries := by
  simp only [oldEntries?, Option.bind_eq_bind, Option.bind_eq_some_iff, toOption_eq_some_iff]
  constructor
  · rintro ⟨j, hread, found, hfound, hentries⟩
    cases j with
    | obj members =>
      cases found with
      | arr elements =>
        obtain rfl := Option.some.inj hentries
        exact ⟨members, hread, hfound⟩
      | _ => simp [Json.elements?] at hentries
    | _ => simp [Json.get?] at hfound
  · rintro ⟨members, hread, hlookup⟩
    exact ⟨.obj members, hread, .arr entries, hlookup, rfl⟩

theorem oldArguments?_eq_some_iff {function : Json.Members} {arguments : Json} :
    oldArguments? function = some arguments ↔ GivesArguments function arguments := by
  unfold oldArguments?
  constructor
  · intro h
    split at h
    · rename_i hnone
      obtain rfl := Option.some.inj h
      exact .absent hnone
    · rename_i text hsome
      exact .text hsome (toOption_eq_some_iff.1 h)
    · rename_i j htext hsome
      obtain rfl := Option.some.inj h
      exact .value hsome htext
  · intro h
    cases h with
    | absent h => rw [h]
    | value h htext =>
      rw [h]
      split
      · contradiction
      · rename_i text heq
        exact absurd (Option.some.inj heq) (htext text)
      · rename_i heq
        exact heq.symm
    | text h hread =>
      rw [h]
      exact toOption_eq_some_iff.2 hread

/-- An entry is read as the call that it describes, with the id that it brings. -/
theorem oldCall?_eq_some_iff {entry : Json} {c : OldCall} :
    oldCall? entry = some c ↔ Describes entry c.name c.arguments ∧ c.id = ownId? entry := by
  unfold oldCall?
  simp only [Option.bind_eq_bind, Option.bind_eq_some_iff]
  constructor
  · rintro ⟨found, hfound, function, hfunction, named, hnamed, name, hname, h⟩
    split at h
    · contradiction
    · rename_i hne
      obtain ⟨arguments, harguments, hc⟩ := Option.bind_eq_some_iff.1 h
      obtain rfl := Option.some.inj hc
      cases entry with
      | obj members =>
        cases found with
        | obj entries =>
          obtain rfl := Option.some.inj hfunction
          cases named with
          | str text =>
            obtain rfl := Option.some.inj hname
            exact ⟨.entry hfound hnamed hne (oldArguments?_eq_some_iff.1 harguments), rfl⟩
          | _ => simp [Json.text?] at hname
        | _ => simp [Json.members?] at hfunction
      | _ => simp [Json.get?] at hfound
  · rintro ⟨hdescribes, hid⟩
    obtain ⟨id, name, arguments⟩ := c
    simp only at hdescribes hid
    cases hdescribes with
    | @entry members function name arguments hfunction hname hne harguments =>
      refine ⟨.obj function, hfunction, function, rfl, .str name, hname, name, rfl, ?_⟩
      rw [if_neg hne, oldArguments?_eq_some_iff.2 harguments, hid]
      rfl

/-! ## All or none -/

theorem readable_cons_some {entry : Json} {c : OldCall} (h : oldCall? entry = some c)
    (entries : List Json) : readable (entry :: entries) = c :: readable entries := by
  simp [readable, h]

theorem readable_cons_none {entry : Json} (h : oldCall? entry = none) (entries : List Json) :
    readable (entry :: entries) = [] := by
  simp [readable, h]

/-- When every entry is a call, all of them are read. -/
theorem readable_all {entries : List Json} (h : ∀ entry ∈ entries, ∃ c, oldCall? entry = some c) :
    List.Forall₂ (fun entry c => oldCall? entry = some c) entries (readable entries) := by
  induction entries with
  | nil => exact .nil
  | cons first rest ih =>
    obtain ⟨c, hc⟩ := h first List.mem_cons_self
    rw [readable_cons_some hc]
    exact .cons hc (ih fun entry hentry => h entry (List.mem_cons_of_mem first hentry))

/-- When some entry is no call, fewer calls are read than there are entries. -/
theorem length_readable_lt {entries : List Json} {entry : Json} (hmem : entry ∈ entries)
    (hnone : oldCall? entry = none) : (readable entries).length < entries.length := by
  induction entries with
  | nil => contradiction
  | cons first rest ih =>
    cases hfirst : oldCall? first with
    | none =>
      rw [readable_cons_none hfirst, List.length_cons]
      exact Nat.succ_pos _
    | some c =>
      rcases List.mem_cons.1 hmem with rfl | hrest
      · rw [hfirst] at hnone
        contradiction
      · rw [readable_cons_some hfirst, List.length_cons, List.length_cons]
        exact Nat.succ_lt_succ (ih hrest)

/-- A call keeps its own id, or it gets the next fresh one. -/
theorem identify_eq (ids : IdSource) (next : Nat) (cs : List OldCall) :
    (identify ids next cs).1 = cs.mapIdx fun i c =>
      ⟨c.id.getD (ids (next + (cs.take i).countP (·.id.isNone))), c.name, c.arguments.compact⟩ := by
  induction cs generalizing next with
  | nil => rfl
  | cons c rest ih =>
    rw [identify, List.mapIdx_cons]
    cases hid : c.id with
    | some id => simp [ih, hid]
    | none => simp [ih, hid, Nat.add_assoc, Nat.add_comm 1]

/-- Entries that are read bring as few ids as the calls that they are read as. -/
theorem countP_isNone_id {entries : List Json} {cs : List OldCall}
    (h : List.Forall₂ (fun entry c => oldCall? entry = some c) entries cs) :
    cs.countP (·.id.isNone) = idsMissing entries := by
  induction h with
  | nil => rfl
  | cons hc _ ih =>
    have hid := (oldCall?_eq_some_iff.1 hc).2
    simp only [idsMissing, List.countP_cons, hid] at ih ⊢
    rw [ih]

/-- The call of an entry behind `earlier` ones: the entry describes its name and its arguments, which
are printed, and its id is the entry's own or the next fresh one. -/
def CallOf (ids : IdSource) (next : Nat) (earlier : List Json) (entry : Json) (call : ToolCall) :
    Prop :=
  ∃ arguments, Describes entry call.name arguments ∧ call.arguments = arguments.compact ∧
    call.id = (ownId? entry).getD (ids (next + idsMissing earlier))

/-- Calls that are entries read in order, with their ids. -/
theorem callOf_identify (ids : IdSource) (next : Nat) {entries : List Json} {cs : List OldCall}
    (h : List.Forall₂ (fun entry c => oldCall? entry = some c) entries cs) {i : Nat} {entry : Json}
    {call : ToolCall} (hentry : entries[i]? = some entry)
    (hcall : (identify ids next cs).1[i]? = some call) :
    CallOf ids next (entries.take i) entry call := by
  rw [identify_eq, List.getElem?_mapIdx, Option.map_eq_some_iff] at hcall
  obtain ⟨c, hc, rfl⟩ := hcall
  obtain ⟨hi, rfl⟩ := List.getElem?_eq_some_iff.1 hentry
  obtain ⟨hi', rfl⟩ := List.getElem?_eq_some_iff.1 hc
  obtain ⟨hdescribes, hid⟩ := oldCall?_eq_some_iff.1 (h.get hi hi')
  refine ⟨_, hdescribes, rfl, ?_⟩
  have hown : cs[i].id = ownId? entries[i] := hid
  rw [countP_isNone_id (List.forall₂_take i h)]
  show cs[i].id.getD _ = _
  rw [hown]

/-- A reply in the older form gives one call for each entry, in order. -/
theorem oldCalls_of_olderForm (ids : IdSource) (next : Nat) {text : String} {entries : List Json}
    (h : OlderForm text entries) :
    (oldCalls ids next text).1.length = entries.length ∧
      ∀ i entry call, entries[i]? = some entry → (oldCalls ids next text).1[i]? = some call →
        CallOf ids next (entries.take i) entry call := by
  obtain ⟨hlists, -, hall⟩ := h
  have hread : List.Forall₂ (fun entry c => oldCall? entry = some c) entries (readable entries) := by
    apply readable_all
    intro entry hentry
    obtain ⟨name, arguments, hdescribes⟩ := hall entry hentry
    exact ⟨⟨ownId? entry, name, arguments⟩, oldCall?_eq_some_iff.2 ⟨hdescribes, rfl⟩⟩
  have hlength : (identify ids next (readable entries)).1.length = entries.length := by
    rw [identify_eq, List.length_mapIdx, hread.length_eq]
  have hcalls : (oldCalls ids next text).1 = (identify ids next (readable entries)).1 := by
    simp [oldCalls, oldEntries?_eq_some_iff.2 hlists, hlength]
  rw [hcalls]
  refine ⟨hlength, ?_⟩
  intro i entry call hentry hcall
  exact callOf_identify ids next hread hentry hcall

/-- A reply that is not in the older form gives no calls. -/
theorem oldCalls_of_not_olderForm (ids : IdSource) (next : Nat) {text : String}
    (h : ∀ entries, ¬ OlderForm text entries) : (oldCalls ids next text).1 = [] := by
  unfold oldCalls
  split
  · rfl
  · rename_i entries hentries
    have hlists : Lists text entries := oldEntries?_eq_some_iff.1 hentries
    simp only
    split
    · rename_i hlength
      rw [identify_eq, List.length_mapIdx] at hlength
      by_cases hempty : entries = []
      · rw [hempty] at hlength ⊢
        rfl
      · -- some entry describes no call, so that not all of them are read
        exfalso
        apply h entries
        refine ⟨hlists, hempty, ?_⟩
        intro entry hentry
        cases hcall : oldCall? entry with
        | none =>
          have hlt := length_readable_lt hentry hcall
          omega
        | some c => exact ⟨c.name, c.arguments, (oldCall?_eq_some_iff.1 hcall).1⟩
    · rfl

/-- A text that starts with no blank and no character of a value has nothing in the older form, and
uses up no id. -/
theorem oldCalls_of_start (ids : IdSource) (next : Nat) {text : String} {c : Char}
    {rest : List Char} (htext : text.toList = c :: rest) (hmark : c ≠ '\uFEFF')
    (hblank : Json.isJsonBlank c = false) (hvalue : Json.startsValue c = false) :
    oldCalls ids next text = ([], next) := by
  have hread := Json.read_error htext hmark hblank hvalue
  simp [oldCalls, oldEntries?, hread, Except.toOption]

/-! ## Whole replies -/

theorem blockless_of_unmarked {cs : List Char} (h : ¬ callMarker <:+: cs) : Blockless cs := by
  intro after hafter hstart
  exact h ((callMarker_prefix_of_startsBlock hstart).isInfix.trans hafter.isInfix)

/-- A text without the marker of a call has no block. -/
theorem blocks_of_unmarked {cs : List Char} (h : ¬ callMarker <:+: cs) : blocks cs = [] :=
  blocks_of_blockless (blockless_of_unmarked h)

/-- What a reply in the older form calls comes from a text that was read, so that its arguments are
read back. -/
theorem regular_arguments {text : String} {entries : List Json} (h : Lists text entries)
    {entry : Json} (hentry : entry ∈ entries) {name : String} {arguments : Json}
    (hdescribes : Describes entry name arguments) : Regular arguments := by
  obtain ⟨members, hread, hlookup⟩ := h
  have hentries : Regular entry :=
    ((Json.regular_of_read hread).lookup hlookup).element entry hentry
  cases hdescribes with
  | entry hfunction hname hne harguments =>
    cases harguments with
    | absent h => exact Json.regular_obj (by simp) (by simp)
    | value h htext => exact (hentries.lookup hfunction).lookup h
    | text h hread => exact Json.regular_of_read hread

/-- Without a block, a reply is its calls in the older form, or it is its text. -/
theorem extract_of_no_blocks (ids : IdSource) (next : Nat) {text : String} {tools : List ToolSpec}
    (htools : tools ≠ []) (hblocks : blocks text.toList = []) :
    (extract ids next text tools).1 =
      if (oldCalls ids next text).1 = [] then ⟨some text, []⟩
      else ⟨none, (oldCalls ids next text).1⟩ := by
  have hsome : tools.isEmpty = false := by simpa using htools
  unfold extract
  rw [hsome, hblocks]
  simp only [Bool.false_eq_true, if_false, List.isEmpty_iff]
  split <;> rfl

/-- A reply without a block is its text, unchanged and without calls, unless it has the older form.
Then it has no text and one call for each entry of the list, in order. Each call has the name and the
arguments that its entry describes, and the id that the entry brings or the next fresh one. The
arguments are printed, and read back when they have no doubles. -/
theorem extract_olderForm (ids : IdSource) (next : Nat) {text : String} {tools : List ToolSpec}
    (htools : tools ≠ []) (hblocks : blocks text.toList = []) :
    ((extract ids next text tools).1.text = none ↔ ∃ entries, OlderForm text entries) ∧
    ((∀ entries, ¬ OlderForm text entries) → (extract ids next text tools).1 = ⟨some text, []⟩) ∧
    ∀ entries, OlderForm text entries →
      ∃ calls, (extract ids next text tools).1 = ⟨none, calls⟩ ∧ calls.length = entries.length ∧
        ∀ i entry call, entries[i]? = some entry → calls[i]? = some call →
          ∃ arguments, Describes entry call.name arguments ∧
            call.id = (ownId? entry).getD (ids (next + idsMissing (entries.take i))) ∧
            call.arguments = arguments.compact ∧
            (FloatFree arguments → Json.read call.arguments = .ok arguments) := by
  have hextract := extract_of_no_blocks ids next htools hblocks
  have hnot : (∀ entries, ¬ OlderForm text entries) →
      (extract ids next text tools).1 = ⟨some text, []⟩ := by
    intro hnone
    rw [hextract, if_pos (oldCalls_of_not_olderForm ids next hnone)]
  have hform : ∀ entries, OlderForm text entries →
      (extract ids next text tools).1 = ⟨none, (oldCalls ids next text).1⟩ := by
    intro entries h
    rw [hextract, if_neg]
    intro hnone
    have hlength := (oldCalls_of_olderForm ids next h).1
    rw [hnone] at hlength
    exact h.2.1 (List.length_eq_zero_iff.1 hlength.symm)
  refine ⟨?_, hnot, ?_⟩
  · constructor
    · intro htext
      by_contra hnone
      rw [hnot fun entries h => hnone ⟨entries, h⟩] at htext
      contradiction
    · rintro ⟨entries, h⟩
      rw [hform entries h]
  · intro entries h
    obtain ⟨hlength, hcalls⟩ := oldCalls_of_olderForm ids next h
    refine ⟨(oldCalls ids next text).1, hform entries h, hlength, ?_⟩
    intro i entry call hentry hcall
    obtain ⟨arguments, hdescribes, hprinted, hid⟩ := hcalls i entry call hentry hcall
    refine ⟨arguments, hdescribes, hid, hprinted, ?_⟩
    intro hfree
    rw [hprinted]
    apply Json.read_compact
    exact Json.faithful_of_regular
      (regular_arguments h.1 (List.mem_of_getElem? hentry) hdescribes) hfree

/-- An entry with an id, and with its arguments as a text. -/
def namedEntry : Json :=
  .obj [("id", .str "a"), ("function", .obj [("name", .str "find"), ("arguments", .str "[]")])]

/-- An entry without an id and without arguments. -/
def bareEntry : Json := .obj [("function", .obj [("name", .str "find")])]

/-- A reply in the older form. -/
def olderReply : Json := .obj [("tool_calls", .arr [namedEntry, bareEntry])]

theorem faithful_olderReply : Json.Faithful olderReply := by
  have htexts : ∀ ms : List (String × String), (ms.map (·.1)).Nodup →
      Json.Faithful (.obj (ms.map fun m => (m.1, .str m.2))) := by
    intro ms hkeys
    apply Json.faithful_obj
    · rw [List.map_map]
      exact hkeys
    · intro m hm
      obtain ⟨text, -, rfl⟩ := List.mem_map.1 hm
      exact Json.faithful_str _
  have hnamed := htexts [("name", "find"), ("arguments", "[]")] (by decide)
  have hbare := htexts [("name", "find")] (by decide)
  apply Json.faithful_obj (by decide)
  intro m hm
  obtain rfl := List.mem_singleton.1 hm
  apply Json.faithful_arr
  intro entry hentry
  rcases List.mem_pair.1 hentry with rfl | rfl
  · apply Json.faithful_obj (by decide)
    intro m hm
    rcases List.mem_pair.1 hm with rfl | rfl
    · exact Json.faithful_str "a"
    · exact hnamed
  · apply Json.faithful_obj (by decide)
    intro m hm
    obtain rfl := List.mem_singleton.1 hm
    exact hbare

theorem olderForm_olderReply : OlderForm olderReply.compact [namedEntry, bareEntry] := by
  refine ⟨⟨_, Json.read_compact faithful_olderReply, rfl⟩, by simp, ?_⟩
  intro entry hentry
  rcases List.mem_pair.1 hentry with rfl | rfl
  · exact ⟨"find", .arr [], .entry rfl rfl (by decide) (.text rfl rfl)⟩
  · exact ⟨"find", .obj [], .entry rfl rfl (by decide) (.absent rfl)⟩

theorem extract_olderForm_olderReply :
    [findTool] ≠ [] ∧ blocks olderReply.compact.toList = [] ∧
      ∃ calls, (extract (.numbered "call") 0 olderReply.compact [findTool]).1 = ⟨none, calls⟩ ∧
        calls.map (·.id) = ["a", "call1"] := by
  have htools : [findTool] ≠ [] := by simp
  have hblocks : blocks olderReply.compact.toList = [] := by
    apply blocks_of_unmarked
    intro hmarker
    have hletter : 'T' ∈ olderReply.compact.toList := hmarker.subset (by decide)
    have hnone : 'T' ∉ olderReply.compact.toList := by decide +kernel
    exact hnone hletter
  obtain ⟨calls, hextract, hlength, hcalls⟩ :=
    (extract_olderForm (.numbered "call") 0 htools hblocks).2.2 _ olderForm_olderReply
  refine ⟨htools, hblocks, calls, hextract, ?_⟩
  obtain ⟨first, second, rfl⟩ : ∃ first second, calls = [first, second] :=
    List.length_eq_two.1 hlength
  obtain ⟨-, -, hfirst, -⟩ := hcalls 0 namedEntry first rfl rfl
  obtain ⟨-, -, hsecond, -⟩ := hcalls 1 bareEntry second rfl rfl
  rw [List.map_cons, List.map_cons, List.map_nil, hfirst, hsecond]
  rfl

end Dialogue.Tool
