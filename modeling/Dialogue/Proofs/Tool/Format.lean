import Dialogue.Proofs.Tool.Extraction
import Dialogue.Proofs.Json.Printer

/-!
# Dialogue.Proofs.Tool.Format — calls written in the plain format are found again

A model is told to write a call as two lines, the name and the compact text of the arguments. When a
text is prose with such calls in it, and the prose announces no call, extraction gives back the calls
and the prose.

* `PlainCall` and `Prose` — what a text is put together from, and `formatted`, the text itself; the
  line break after its very last call may be left out;
* `written_callText`, `written_plain` — a call so written is a block of the grammar: its arguments
  stand on one line, so the first brace that ends a line is their last;
* `not_startsBlock_of_unmarked` — no block starts in prose: the marker of a call does not overlap
  itself, so none arises where prose meets a call;
* `cut_formatted`, `extract_formatted` — the text is cut where it was put together.
-/

namespace Dialogue.Tool

open Dialogue.Text (Stops isBlank isWord)

/-! ## Formatted texts -/

/-- A call to be written: a name of word characters, and an object of arguments. -/
structure PlainCall where
  name : String
  arguments : Json.Members
  name_ne : name ≠ ""
  name_word : ∀ c ∈ name.toList, isWord c = true

/-- A text in which no call is announced. -/
structure Prose where
  text : String
  unmarked : ¬ callMarker <:+: text.toList

namespace PlainCall

/-- The text of the arguments. -/
def argumentText (c : PlainCall) : String := (Json.obj c.arguments).compact

/-- The two lines of a call, without the line break at their end. -/
def write (c : PlainCall) : String :=
  "TOOL_CALL: " ++ c.name ++ "\nARGUMENTS: " ++ c.argumentText

/-- The block that is read from a written call. -/
def block (c : PlainCall) : Block := ⟨c.name.toList, c.argumentText.toList⟩

end PlainCall

/-- Calls as they follow each other in a text, each with the prose after it. An open text has no line
break after its last call, unless there is prose. -/
def writeCalls (isOpen : Bool) : List (PlainCall × Prose) → String
  | [] => ""
  | [(c, gap)] => c.write ++ (if isOpen ∧ gap.text = "" then "" else "\n") ++ gap.text
  | (c, gap) :: rest => c.write ++ "\n" ++ gap.text ++ writeCalls isOpen rest

/-- A text of prose and calls. -/
def formatted (isOpen : Bool) (lead : Prose) (parts : List (PlainCall × Prose)) : String :=
  lead.text ++ writeCalls isOpen parts

/-- The prose of a text. -/
def spoken (lead : Prose) (parts : List (PlainCall × Prose)) : String :=
  lead.text ++ String.join (parts.map (·.2.text))

/-! ## Written calls are blocks -/

/-- The two lines of a call with the given name and argument text. -/
def callText (name arguments : String) : String :=
  "TOOL_CALL: " ++ name ++ "\nARGUMENTS: " ++ arguments

/-- The layout of a call in the plain format. -/
def plainLayout (ending : List Char) : Layout := ⟨[' '], [], [], [' '], ending⟩

theorem toList_callText (name arguments : String) (ending : List Char) :
    (callText name arguments).toList ++ ending =
      (plainLayout ending).write ⟨name.toList, arguments.toList⟩ := by
  have hcall : "TOOL_CALL: ".toList = callMarker ++ [' '] := by decide
  have harguments : "\nARGUMENTS: ".toList = '\n' :: argumentsMarker ++ [' '] := by decide
  simp [callText, Layout.write, plainLayout, hcall, harguments]

/-- Two lines with a name of word characters and the shortest argument text are a block before what
follows them, with its line break or at the end. -/
theorem written_callText {name arguments : String} (hne : name ≠ "")
    (hname : ∀ c ∈ name.toList, isWord c = true) {ending rest : List Char}
    (hending : ending = ['\n'] ∨ ending = [] ∧ rest = [])
    (harguments : ShortestArguments arguments.toList (ending ++ rest)) :
    Written ⟨name.toList, arguments.toList⟩ ((callText name arguments).toList ++ ending) rest := by
  have hblank : ∀ c ∈ [' '], isBlank c = true := List.forall_mem_singleton.2 (by decide)
  have hbreak : isWord '\n' = false := by decide +kernel
  refine ⟨plainLayout ending, toList_callText name arguments ending, ?_⟩
  exact
    { blanks := hblank
      name_ne := by simpa using hne
      name := hname
      maximal := Text.stops_cons.2 hbreak
      spaces := by simp [plainLayout]
      indent := by simp [plainLayout]
      gap := hblank
      arguments := harguments
      ending := hending }

/-- An argument text on one line is the shortest before a line break or the end. -/
theorem shortestArguments_of_line {body after : List Char} (hline : '\n' ∉ body)
    (hbrace : body.getLast? = some '}') (hafter : after = [] ∨ after.head? = some '\n') :
    ShortestArguments ('{' :: body) after := by
  refine ⟨body, rfl, ⟨hbrace, hafter⟩, ?_⟩
  rintro first second rfl ⟨-, hclosed⟩
  cases second with
  | nil => rfl
  | cons c second =>
    -- what follows a shorter text is in the line, so it is no line break
    rcases hclosed with hclosed | hclosed
    · contradiction
    · obtain rfl : c = '\n' := by simpa using hclosed
      exact absurd (List.mem_append_right first List.mem_cons_self) hline

/-- The compact text of an object is the shortest argument text before a line break or the end. -/
theorem shortestArguments_compact (a : Json.Members) {after : List Char}
    (hafter : after = [] ∨ after.head? = some '\n') :
    ShortestArguments (Json.obj a).compact.toList after := by
  obtain ⟨body, hbody, hbrace⟩ := Json.compact_obj a
  have hline := Json.newline_not_mem_compact (.obj a)
  rw [hbody] at hline ⊢
  exact shortestArguments_of_line (fun hmem => hline (List.mem_cons_of_mem _ hmem)) hbrace hafter

theorem PlainCall.toList_write (c : PlainCall) (ending : List Char) :
    c.write.toList ++ ending = (plainLayout ending).write c.block :=
  toList_callText c.name c.argumentText ending

/-- A written call is a block before what follows it, with its line break or at the end. -/
theorem written_plain (c : PlainCall) {ending rest : List Char}
    (hending : ending = ['\n'] ∨ ending = [] ∧ rest = []) :
    Written c.block (c.write.toList ++ ending) rest := by
  have hafter : ending ++ rest = [] ∨ (ending ++ rest).head? = some '\n' := by
    rcases hending with rfl | ⟨rfl, rfl⟩
    · exact Or.inr rfl
    · exact Or.inl rfl
  exact written_callText c.name_ne c.name_word hending (shortestArguments_compact c.arguments hafter)

/-! ## No block starts in prose -/

theorem callMarker_prefix_write (l : Layout) (b : Block) : callMarker <+: l.write b := by
  unfold Layout.write
  simp only [List.append_assoc]
  exact List.prefix_append _ _

theorem callMarker_prefix_of_startsBlock {cs : List Char} (h : StartsBlock cs) :
    callMarker <+: cs := by
  obtain ⟨b, written, rest, rfl, l, rfl, -⟩ := h
  exact (callMarker_prefix_write l b).trans (List.prefix_append _ _)

theorem drop_callMarker : ∀ n ≤ callMarker.length, callMarker.drop n <+: callMarker →
    n = 0 ∨ callMarker.drop n = [] := by
  decide

/-- The marker of a call does not overlap itself: its colon is its last character only. -/
theorem callMarker_overlap {head tail : List Char} (h : callMarker = head ++ tail)
    (htail : tail <+: callMarker) : head = [] ∨ tail = [] := by
  have hlength : head.length ≤ callMarker.length := by
    rw [h, List.length_append]
    omega
  have hdrop : callMarker.drop head.length = tail := by
    rw [h, List.drop_left]
  rw [← hdrop] at htail ⊢
  exact (drop_callMarker _ hlength htail).imp_left List.eq_nil_of_length_eq_zero

theorem marked_of_start {before after : List Char} (h : callMarker <+: after) :
    callMarker <:+: before ++ after :=
  h.isInfix.trans (List.suffix_append before after).isInfix

/-- No block starts in prose, at the end of a text or before a call. -/
theorem not_startsBlock_of_unmarked {before after rest : List Char}
    (h : ¬ callMarker <:+: before ++ after) (hne : after ≠ [])
    (hrest : rest = [] ∨ callMarker <+: rest) : ¬ StartsBlock (after ++ rest) := by
  intro hblock
  have hmarker := callMarker_prefix_of_startsBlock hblock
  rcases List.prefix_or_prefix_of_prefix hmarker (List.prefix_append after rest) with hin | hover
  · -- the marker would stand in the prose
    exact h (marked_of_start hin)
  · -- the marker would end in what follows, so it would overlap the marker there
    obtain ⟨tail, htail⟩ := hover
    have htailRest : tail <+: rest := by
      rwa [← htail, List.prefix_append_right_inj] at hmarker
    have htailMarker : tail <+: callMarker := by
      rcases hrest with rfl | hrest
      · rw [List.prefix_nil.1 htailRest]
        exact List.nil_prefix
      · refine List.prefix_of_prefix_length_le htailRest hrest ?_
        rw [← htail, List.length_append]
        omega
    rcases callMarker_overlap htail.symm htailMarker with hnil | rfl
    · exact hne hnil
    · rw [List.append_nil] at htail
      exact h (marked_of_start (htail ▸ List.prefix_rfl))

/-! ## The cut of a formatted text -/

/-- The parts into which a formatted text is cut. -/
def plainParts (parts : List (PlainCall × Prose)) : List (Block × List Char) :=
  parts.map fun p => (p.1.block, p.2.text.toList)

/-- The first call, with its line break or at the end of the text, and what follows it. -/
theorem writeCalls_cons (isOpen : Bool) (c : PlainCall) (gap : Prose)
    (rest : List (PlainCall × Prose)) :
    ∃ ending, (writeCalls isOpen ((c, gap) :: rest)).toList =
        (c.write.toList ++ ending) ++ (gap.text.toList ++ (writeCalls isOpen rest).toList) ∧
      (ending = ['\n'] ∨ ending = [] ∧ gap.text.toList ++ (writeCalls isOpen rest).toList = []) := by
  cases rest with
  | nil =>
    by_cases hopen : isOpen ∧ gap.text = ""
    · exact ⟨[], by simp [writeCalls, hopen], Or.inr ⟨rfl, by simp [writeCalls, hopen]⟩⟩
    · exact ⟨['\n'], by simp [writeCalls, hopen], Or.inl rfl⟩
  | cons p rest => exact ⟨['\n'], by simp [writeCalls], Or.inl rfl⟩

theorem callMarker_prefix_writeCalls (isOpen : Bool) (parts : List (PlainCall × Prose)) :
    (writeCalls isOpen parts).toList = [] ∨ callMarker <+: (writeCalls isOpen parts).toList := by
  cases parts with
  | nil => exact Or.inl rfl
  | cons p rest =>
    obtain ⟨c, gap⟩ := p
    obtain ⟨ending, htext, -⟩ := writeCalls_cons isOpen c gap rest
    rw [htext, c.toList_write]
    exact Or.inr ((callMarker_prefix_write _ _).trans (List.prefix_append _ _))

/-- A formatted text is cut where it was put together. -/
theorem cut_formatted (isOpen : Bool) (lead : Prose) (parts : List (PlainCall × Prose)) :
    Cut (formatted isOpen lead parts).toList lead.text.toList (plainParts parts) := by
  rw [formatted, String.toList_append]
  induction parts generalizing lead with
  | nil =>
    have hend : (writeCalls isOpen []).toList = [] := rfl
    rw [hend, List.append_nil]
    refine .last ?_
    intro before after heq hblock
    -- a block would bring its marker into the prose
    exact lead.unmarked (heq ▸ marked_of_start (callMarker_prefix_of_startsBlock hblock))
  | cons p rest ih =>
    obtain ⟨c, gap⟩ := p
    obtain ⟨ending, htext, hending⟩ := writeCalls_cons isOpen c gap rest
    have hstart := callMarker_prefix_writeCalls isOpen ((c, gap) :: rest)
    rw [htext] at hstart ⊢
    refine .block rfl ?_ (written_plain c hending) (ih gap)
    intro before after heq hne
    exact not_startsBlock_of_unmarked (heq ▸ lead.unmarked) hne hstart

/-! ## Extraction -/

/-- The text of an extraction is the stripped prose, or none when the prose is blank. -/
theorem nonEmpty?_stripChars (s : String) :
    nonEmpty? (.ofList (Text.stripChars s.toList)) =
      if Text.isBlankText s then none else some (Text.strip s) := by
  have hblank : Text.isBlankText s = true ↔ Text.stripChars s.toList = [] := by
    rw [Text.stripChars_eq_nil_iff, Text.isBlankText, List.all_eq_true]
  unfold nonEmpty?
  simp only [String.ofList_eq_empty_iff, hblank]
  rfl

theorem toList_spoken (lead : Prose) (parts : List (PlainCall × Prose)) :
    (spoken lead parts).toList = lead.text.toList ++ (plainParts parts).flatMap (·.2) := by
  rw [spoken, String.toList_append, String.toList_join, plainParts, List.flatMap_map,
    List.flatMap_map]

/-- For every text of prose and calls in the plain format, whatever the arguments say: extraction
gives back the calls, in order and with their argument texts as they were written, and the prose,
stripped, unless it is blank. -/
theorem extract_formatted (ids : IdSource) (next : Nat) (isOpen : Bool) (lead : Prose)
    {parts : List (PlainCall × Prose)} {tools : List ToolSpec} (htools : tools ≠ [])
    (hparts : parts ≠ []) :
    extract ids next (formatted isOpen lead parts) tools =
      (⟨if Text.isBlankText (spoken lead parts) then none else some (Text.strip (spoken lead parts)),
        parts.mapIdx fun i p => ⟨ids (next + i), p.1.name, p.1.argumentText⟩⟩,
        next + parts.length) := by
  have hcut := cut_formatted isOpen lead parts
  have hblocks := blocks_of_cut hcut
  have hsome : blocks (formatted isOpen lead parts).toList ≠ [] := by
    rw [hblocks, plainParts]
    simpa using hparts
  rw [extract_of_blocks ids next htools hsome, hblocks, prose_of_cut hcut, ← toList_spoken,
    nonEmpty?_stripChars, callsOfBlocks_map, plainParts]
  simp [List.mapIdx_eq_zipIdx_map, List.zipIdx_map, PlainCall.block]

/-- A call whose argument is itself the text of a call. -/
def quotingCall : PlainCall :=
  ⟨"find", [("text", .str "TOOL_CALL: find\nARGUMENTS: \x7b\x7d\n")], by simp,
    List.all_eq_true.1 (by decide +kernel)⟩

/-- A call without arguments. -/
def bareCall : PlainCall := ⟨"list", [], by simp, List.all_eq_true.1 (by decide +kernel)⟩

def lookFirst : Prose := ⟨"Let me look.\n", by decide +kernel⟩

/-- Two calls with prose between them and none at the end. -/
def twoCalls : List (PlainCall × Prose) :=
  [(quotingCall, ⟨"Now all.\n", by decide +kernel⟩), (bareCall, ⟨"", by decide +kernel⟩)]

theorem extract_formatted_twoCalls :
    [findTool] ≠ [] ∧ twoCalls ≠ [] ∧
      extract (.numbered "call") 0 (formatted true lookFirst twoCalls) [findTool] =
        (⟨some "Let me look.\nNow all.",
          [⟨"call1", "find", "\x7b\"text\": \"TOOL_CALL: find\\nARGUMENTS: \x7b\x7d\\n\"\x7d"⟩,
            ⟨"call2", "list", "\x7b\x7d"⟩]⟩, 2) := by
  have htools : [findTool] ≠ [] := by simp
  have hparts : twoCalls ≠ [] := by simp [twoCalls]
  refine ⟨htools, hparts, ?_⟩
  rw [extract_formatted (.numbered "call") 0 true lookFirst htools hparts]
  decide +kernel

end Dialogue.Tool
