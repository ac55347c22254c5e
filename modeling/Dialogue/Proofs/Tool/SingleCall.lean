import Dialogue.Proofs.Json.Indented
import Dialogue.Proofs.Tool.OlderForm
import Mathlib.Data.List.Infix

/-!
# Dialogue.Proofs.Tool.SingleCall — replies that are one call

A reply that is nothing but a call, in the two lines that the model was taught, is not always read as
that call.

* `extract_callText_compact` — with arguments on one line, the call of an offered tool is read just
  when the name of the tool consists of word characters; a tool with another name cannot be called.
* `extract_callText_indented` — with indented arguments, the call is read just when no object is the
  last element or the last value of its container; otherwise the brace that closes it ends a line and
  with it the arguments, and what follows is left over as text.
-/

namespace Dialogue.Tool

open Dialogue.Text (isBlank isWord)
open Dialogue.Json (BraceEndsLine Faithful Occurs braceEndsLine_append braceEndsLine_cons
  braceEndsLine_write)

/-! ## The calls of a text -/

/-- A text that is one block has no prose and one call. -/
theorem extract_of_whole_block (ids : IdSource) (next : Nat) {text : String} {tools : List ToolSpec}
    (htools : tools ≠ []) {b : Block} (h : block? text.toList = some (b, [])) :
    extract ids next text tools =
      (⟨none, [⟨ids next, .ofList b.name, .ofList b.arguments⟩]⟩, next + 1) := by
  have hscan : scan text.toList = [.call b] := by rw [scan_of_block h, scan_nil]
  have hblocks : blocks text.toList = [b] := by simp [blocks, hscan, Piece.block?]
  have hprose : prose text.toList = [] := by simp [prose, hscan, Piece.char?]
  rw [extract_of_blocks ids next htools (by simp [hblocks]), hblocks, hprose]
  rfl

/-- Two lines with a name of word characters and the shortest argument text are one block. -/
theorem block?_callText_of_shortest {name arguments : String} (hne : name ≠ "")
    (hname : ∀ c ∈ name.toList, isWord c = true) (h : ShortestArguments arguments.toList []) :
    block? (callText name arguments).toList = some (⟨name.toList, arguments.toList⟩, []) := by
  have hwritten := written_callText hne hname (Or.inr ⟨rfl, rfl⟩) h
  rw [List.append_nil] at hwritten
  exact block?_eq_some_iff.2 ⟨_, (List.append_nil _).symm, hwritten⟩

/-- A text without a block is all prose. -/
theorem prose_of_no_blocks {cs : List Char} (h : blocks cs = []) : prose cs = cs := by
  obtain ⟨gap, parts, hcut⟩ := exists_cut cs
  have hparts : parts = [] := by simpa [blocks_of_cut hcut] using h
  subst hparts
  rw [prose_of_cut hcut]
  cases hcut with
  | last hgap => simp

/-- The blocks of a text are written in it. -/
theorem Cut.written {cs gap : List Char} {parts : List (Block × List Char)} (h : Cut cs gap parts) :
    ∀ p ∈ parts, ∃ written rest, Written p.1 written rest := by
  induction h with
  | last hgap => simp
  | block hcs hgap hwritten hrest ih =>
    intro p hp
    rcases List.mem_cons.1 hp with rfl | hp
    · exact ⟨_, _, hwritten⟩
    · exact ih p hp

theorem isWord_of_mem_blocks {cs : List Char} {b : Block} (h : b ∈ blocks cs) :
    ∀ c ∈ b.name, isWord c = true := by
  obtain ⟨gap, parts, hcut⟩ := exists_cut cs
  rw [blocks_of_cut hcut] at h
  obtain ⟨p, hp, rfl⟩ := List.mem_map.1 h
  obtain ⟨written, rest, l, -, hfits⟩ := hcut.written p hp
  exact hfits.name

theorem exists_block_of_mem_calls {ids : IdSource} {next : Nat} {bs : List Block} {call : ToolCall}
    (h : call ∈ callsOfBlocks ids next bs) : ∃ b ∈ bs, call.name = .ofList b.name := by
  induction bs generalizing next with
  | nil => contradiction
  | cons b bs ih =>
    rcases List.mem_cons.1 h with rfl | h
    · exact ⟨b, List.mem_cons_self, rfl⟩
    · obtain ⟨b', hb', hname⟩ := ih h
      exact ⟨b', List.mem_cons_of_mem b hb', hname⟩

/-- A text that starts like a call has nothing in the older form. -/
theorem oldCalls_callText (ids : IdSource) (next : Nat) (name arguments : String) :
    oldCalls ids next (callText name arguments) = ([], next) := by
  obtain ⟨rest, hrest⟩ : ∃ rest, (callText name arguments).toList = 'T' :: rest :=
    ⟨_, by rw [callText, String.append_assoc, String.append_assoc, String.toList_append]; rfl⟩
  exact oldCalls_of_start ids next hrest (by decide) (by decide) (by decide)

/-- Names that are called in a text that starts like a call consist of word characters. -/
theorem isWord_of_called {ids : IdSource} {next : Nat} {name arguments : String}
    {tools : List ToolSpec} (htools : tools ≠ []) {call : ToolCall}
    (h : call ∈ (extract ids next (callText name arguments) tools).1.calls) :
    ∀ c ∈ call.name.toList, isWord c = true := by
  by_cases hblocks : blocks (callText name arguments).toList = []
  · rw [calls_of_no_blocks ids next htools hblocks, oldCalls_callText] at h
    contradiction
  · rw [extract_of_blocks ids next htools hblocks] at h
    obtain ⟨b, hb, hname⟩ := exists_block_of_mem_calls h
    rw [hname, String.toList_ofList]
    exact isWord_of_mem_blocks hb

/-! ## Arguments on one line -/

/-- For every tool that is offered and every object of arguments: a reply that calls the tool with the
arguments on one line is read as that call and nothing else when the name of the tool consists of word
characters, and otherwise no call of the tool is read from it. -/
theorem extract_callText_compact (ids : IdSource) (next : Nat) {tools : List ToolSpec} {t : ToolSpec}
    (ht : t ∈ tools) (a : Json.Members) :
    ((∀ c ∈ t.name.toList, isWord c = true) →
      extract ids next (callText t.name (Json.obj a).compact) tools =
        (⟨none, [⟨ids next, t.name, (Json.obj a).compact⟩]⟩, next + 1)) ∧
    ((∃ call ∈ (extract ids next (callText t.name (Json.obj a).compact) tools).1.calls,
      call.name = t.name) → ∀ c ∈ t.name.toList, isWord c = true) := by
  have htools : tools ≠ [] := List.ne_nil_of_mem ht
  constructor
  · intro hword
    have hblock := block?_callText_of_shortest t.name_ne hword
      (shortestArguments_compact a (Or.inl rfl))
    have hextract := extract_of_whole_block ids next htools hblock
    simpa using hextract
  · rintro ⟨call, hcall, hname⟩
    rw [← hname]
    exact isWord_of_called htools hcall

theorem isWord_find : ∀ c ∈ "find".toList, isWord c = true := List.all_eq_true.1 (by decide +kernel)

/-- Arguments with a brace and a line break in a text. -/
def brokenText : Json.Members := [("text", .str "\x7d\n")]

theorem extract_callText_compact_findTool :
    findTool ∈ [findTool] ∧
      extract (.numbered "call") 0 (callText findTool.name (Json.obj brokenText).compact) [findTool] =
        (⟨none, [⟨"call1", "find", "\x7b\"text\": \"\x7d\\n\"\x7d"⟩]⟩, 1) := by
  have hmem : findTool ∈ [findTool] := List.mem_singleton_self _
  have hcompact : (Json.obj brokenText).compact = "\x7b\"text\": \"\x7d\\n\"\x7d" := by decide +kernel
  refine ⟨hmem, ?_⟩
  rw [(extract_callText_compact (.numbered "call") 0 hmem brokenText).1 isWord_find, hcompact]
  rfl

/-- A tool with a hyphen in its name. -/
def weatherTool : ToolSpec := ⟨"get-weather", "Get weather", [("type", .str "object")], by decide⟩

def weatherText : String := callText "get-weather" (Json.obj [("city", .str "Paris")]).compact

/-- The call of a tool with a hyphen in its name is taken for text. -/
theorem extract_callText_compact_weatherTool :
    weatherTool ∈ [weatherTool] ∧
      extract (.numbered "c") 0 weatherText [weatherTool] = (⟨some weatherText, []⟩, 0) := by
  have hnowhere : ∀ after ∈ weatherText.toList.tails, block? after = none := by decide +kernel
  obtain ⟨gap, parts, hcut⟩ := exists_cut weatherText.toList
  have hparts : parts = [] := by
    refine hcut.nil_iff.2 ?_
    intro before after heq
    have hsuffix : after ∈ weatherText.toList.tails := (List.mem_tails _ _).2 ⟨before, heq.symm⟩
    exact block?_eq_none_iff.1 (hnowhere after hsuffix)
  have hblocks : blocks weatherText.toList = [] := by rw [blocks_of_cut hcut, hparts]; rfl
  have hold : oldCalls (.numbered "c") 0 weatherText = ([], 0) := oldCalls_callText _ _ _ _
  refine ⟨List.mem_singleton_self _, ?_⟩
  simp [extract, hblocks, hold]

/-! ## Indented arguments -/

/-- A text that ends with a brace has a first brace at the end of a line or of the text. -/
theorem exists_closing {body : List Char} (h : body.getLast? = some '}') :
    ∃ found rest, closing? body = some (found, rest) := by
  induction body with
  | nil => contradiction
  | cons c body ih =>
    by_cases hc : Closed [c] body
    · obtain ⟨rfl, rest, hends⟩ := closed_singleton.1 hc
      exact ⟨_, rest, closing?_of_ends hends⟩
    · rw [closing?_of_not_closed hc]
      have hne : body ≠ [] := by
        rintro rfl
        exact hc ⟨h, Or.inl rfl⟩
      rw [List.getLast?_cons_of_ne_nil hne] at h
      obtain ⟨found, rest, hfound⟩ := ih h
      exact ⟨c :: found, rest, by rw [hfound]; rfl⟩

/-- A text that ends with a brace is the shortest closed one just when no brace ends a line in it. -/
theorem shortestClosed_iff {body : List Char} (h : body.getLast? = some '}') :
    ShortestClosed body [] ↔ ¬ BraceEndsLine body := by
  constructor
  · rintro ⟨-, hshortest⟩ ⟨before, after, rfl⟩
    -- the text up to the brace would be closed
    have hclosed : Closed (before ++ ['}']) ('\n' :: after ++ []) := by
      exact ⟨by simp, Or.inr rfl⟩
    have hnil := hshortest (before ++ ['}']) ('\n' :: after) (by simp) hclosed
    contradiction
  · intro hnone
    refine ⟨⟨h, Or.inl rfl⟩, ?_⟩
    rintro first second rfl ⟨hbrace, hafter⟩
    rw [List.append_nil] at hafter
    rcases hafter with hnil | hbreak
    · exact hnil
    · exact absurd (braceEndsLine_append.2 (Or.inr (Or.inr ⟨hbrace, hbreak⟩))) hnone

/-- The block at the start of a call goes as far as the first brace that ends a line. -/
theorem block?_callText {name arguments : String} (hne : name ≠ "")
    (hname : ∀ c ∈ name.toList, isWord c = true) {body found rest : List Char}
    (harguments : arguments.toList = '{' :: body) (h : closing? body = some (found, rest)) :
    block? (callText name arguments).toList = some (⟨name.toList, '{' :: found⟩, rest) := by
  obtain ⟨after, rfl, hshortest, hends⟩ := closing?_eq_some_iff.1 h
  obtain ⟨ending, rfl, hending⟩ := ends_iff.1 hends
  have hcut : ShortestArguments (String.ofList ('{' :: found)).toList (ending ++ rest) :=
    ⟨found, String.toList_ofList, hshortest⟩
  have hwritten := written_callText hne hname hending hcut
  rw [String.toList_ofList] at hwritten
  refine block?_eq_some_iff.2 ⟨_, ?_, hwritten⟩
  simp [callText, harguments]

/-- When a text that starts with a block has a single call and no prose, blanks follow the block. -/
theorem isBlank_of_single_call {ids : IdSource} {next : Nat} {text : String} {tools : List ToolSpec}
    (htools : tools ≠ []) {b : Block} {rest : List Char}
    (hblock : block? text.toList = some (b, rest)) {call : ToolCall}
    (h : (extract ids next text tools).1 = ⟨none, [call]⟩) :
    ∀ c ∈ rest, isBlank c = true := by
  have hblocks : blocks text.toList = b :: blocks rest := by
    rw [blocks, scan_of_block hblock]
    rfl
  have hprose : prose text.toList = prose rest := by
    rw [prose, scan_of_block hblock]
    rfl
  rw [extract_of_blocks ids next htools (by simp [hblocks]), hblocks, hprose] at h
  obtain ⟨htext, hcalls⟩ := Extraction.mk.inj h
  have hnone : blocks rest = [] := by
    cases hrest : blocks rest with
    | nil => rfl
    | cons b' bs => simp [hrest, callsOfBlocks] at hcalls
  rw [prose_of_no_blocks hnone] at htext
  rw [← Text.stripChars_eq_nil_iff]
  simpa [nonEmpty?] using htext

/-- For every name of word characters and every object whose indented text is read back to it: a reply
that calls the name with the indented text gives that call, with arguments that are read back to the
object, and nothing else, just when no object is the last element or the last value of a container in
it. -/
theorem extract_callText_indented (ids : IdSource) (next : Nat) {name : String} (hne : name ≠ "")
    (hname : ∀ c ∈ name.toList, isWord c = true) {tools : List ToolSpec} (htools : tools ≠ [])
    {a : Json.Members} (ha : Faithful (.obj a)) :
    (∃ call, extract ids next (callText name (Json.obj a).indented) tools =
        (⟨none, [call]⟩, next + 1) ∧ call.name = name ∧ Json.read call.arguments = .ok (.obj a)) ↔
      ∀ part, Occurs part (.obj a) → part.endsWithObject = false := by
  obtain ⟨body, hbody, hbrace⟩ := Json.indented_obj a
  have hlines : (∀ part, Occurs part (.obj a) → part.endsWithObject = false) ↔
      ¬ BraceEndsLine body := by
    have hwhole : BraceEndsLine body ↔ BraceEndsLine (Json.obj a).indented.toList := by
      simp [hbody, braceEndsLine_cons]
    rw [hwhole, Json.indented, String.toList_ofList, braceEndsLine_write 0 ha]
    simp
  rw [hlines]
  constructor
  · rintro ⟨call, hextract, -, -⟩
    obtain ⟨found, rest, hclosing⟩ := exists_closing hbrace
    have hblank := isBlank_of_single_call htools (block?_callText hne hname hbody hclosing)
      (congrArg Prod.fst hextract)
    obtain ⟨after, rfl, hshortest, hends⟩ := closing?_eq_some_iff.1 hclosing
    rcases hends with rfl | ⟨rfl, -⟩
    · -- the last brace would be left over
      rw [List.getLast?_append_of_ne_nil _ (by simp)] at hbrace
      have hleft : '}' ∈ rest := by simpa using List.mem_of_getLast? hbrace
      have hnot : isBlank '}' = false := by decide
      rw [hblank '}' hleft] at hnot
      contradiction
    · rw [List.append_nil] at hbrace ⊢
      exact (shortestClosed_iff hbrace).1 hshortest
  · intro hnone
    have hshortest : ShortestArguments (Json.obj a).indented.toList [] :=
      ⟨body, hbody, (shortestClosed_iff hbrace).2 hnone⟩
    have hblock := block?_callText_of_shortest hne hname hshortest
    rw [extract_of_whole_block ids next htools hblock]
    refine ⟨_, rfl, String.ofList_toList, ?_⟩
    simp only [String.ofList_toList]
    exact Json.read_indented ha

/-- An object in an object, with another value after it. -/
def nestedFirst : Json.Members := [("a", .obj [("b", .str "c")]), ("d", .arr [.obj [], .str "e"])]

theorem faithful_nestedFirst : Faithful (.obj nestedFirst) := by
  have hinner : Faithful (.obj [("b", .str "c")]) :=
    Json.faithful_obj (by decide) (by simp [Json.faithful_str])
  have hempty : Faithful (.obj []) := Json.faithful_obj (by decide) (by simp)
  have hlist : Faithful (.arr [.obj [], .str "e"]) :=
    Json.faithful_arr (by simp [hempty, Json.faithful_str])
  exact Json.faithful_obj (by decide) (by simp [nestedFirst, hinner, hlist])

theorem extract_callText_indented_nestedFirst :
    "find" ≠ "" ∧ (∀ c ∈ "find".toList, isWord c = true) ∧ [findTool] ≠ [] ∧
      Faithful (.obj nestedFirst) ∧
      ∃ call, extract (.numbered "call") 0 (callText "find" (Json.obj nestedFirst).indented)
          [findTool] = (⟨none, [call]⟩, 0 + 1) ∧ call.name = "find" ∧
        Json.read call.arguments = .ok (.obj nestedFirst) := by
  have hne : "find" ≠ "" := by decide
  have htools : [findTool] ≠ [] := by simp
  have hparts : ∀ part, Occurs part (.obj nestedFirst) → part.endsWithObject = false := by
    have hnone : ¬ BraceEndsLine (Json.write .indented 0 (.obj nestedFirst)) := by
      unfold BraceEndsLine
      decide +kernel
    rw [braceEndsLine_write 0 faithful_nestedFirst] at hnone
    simpa using hnone
  have hiff := extract_callText_indented (.numbered "call") 0 hne isWord_find htools
    faithful_nestedFirst
  exact ⟨hne, isWord_find, htools, faithful_nestedFirst, hiff.2 hparts⟩

/-- An object in an object, with nothing after it. -/
def nestedLast : Json.Members := [("a", .obj [("b", .int 1)])]

def nestedText : String := callText "find" (Json.obj nestedLast).indented

theorem faithful_nestedLast : Faithful (.obj nestedLast) := by
  have hone : Faithful (.int 1) := Json.faithful_int (by decide)
  have hinner : Faithful (.obj [("b", .int 1)]) := Json.faithful_obj (by decide) (by simp [hone])
  exact Json.faithful_obj (by decide) (by simp [nestedLast, hinner])

/-- The block that is read from the text: the arguments go as far as the inner object. -/
def cutOff : Block :=
  ⟨"find".toList, "\x7b\n  \"a\": \x7b\n    \"b\": 1\n  \x7d".toList⟩

/-- The arguments are cut off after the inner object, and the last brace is taken for text. -/
theorem extract_callText_indented_nestedLast :
    (∀ c ∈ "find".toList, isWord c = true) ∧ Faithful (.obj nestedLast) ∧
      extract (.numbered "c") 0 nestedText [findTool] =
        (⟨some "\x7d", [⟨"c1", "find", "\x7b\n  \"a\": \x7b\n    \"b\": 1\n  \x7d"⟩]⟩, 1) := by
  have hblock : block? nestedText.toList = some (cutOff, ['}']) := by decide +kernel
  have hbrace : ¬ StartsBlock ['}'] := block?_eq_none_iff.1 (by decide +kernel)
  have hscan : scan nestedText.toList = [.call cutOff, .prose '}'] := by
    rw [scan_of_block hblock, scan_of_no_block hbrace, scan_nil]
  have hblocks : blocks nestedText.toList = [cutOff] := by rw [blocks, hscan]; rfl
  have hprose : prose nestedText.toList = ['}'] := by rw [prose, hscan]; rfl
  refine ⟨isWord_find, faithful_nestedLast, ?_⟩
  rw [extract_of_blocks (.numbered "c") 0 (by simp) (by simp [hblocks]), hblocks, hprose]
  decide +kernel

end Dialogue.Tool
