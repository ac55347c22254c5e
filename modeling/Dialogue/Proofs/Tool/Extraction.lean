import Dialogue.Proofs.Tool.Grammar
import Dialogue.Tool.Extraction

/-!
# Dialogue.Proofs.Tool.Extraction — the calls of a text are its blocks from the left

`Cut cs gap parts` says how a text falls into blocks and the gaps between them when no block starts
inside a gap. Every text falls in one such way, and it is the way that the scan cuts it
(`scan_of_cut`), so the calls and the text of an extraction come from the same cut:
`extract_of_cut`.
-/

namespace Dialogue.Tool

/-! ## Cutting a text -/

/-- A text is a gap, then blocks, each with the gap after it; no block starts inside a gap. -/
inductive Cut : List Char → List Char → List (Block × List Char) → Prop where
  /-- The last gap, which reaches to the end of the text. -/
  | last {gap : List Char}
      (hgap : ∀ before after, gap = before ++ after → ¬ StartsBlock after) : Cut gap gap []
  | block {cs gap written rest next : List Char} {b : Block} {parts : List (Block × List Char)}
      (hcs : cs = gap ++ (written ++ rest))
      (hgap : ∀ before after, gap = before ++ after → after ≠ [] →
        ¬ StartsBlock (after ++ (written ++ rest)))
      (hwritten : Written b written rest) (hrest : Cut rest next parts) :
      Cut cs gap ((b, next) :: parts)

/-- A character at which no block starts belongs to the gap. -/
theorem Cut.cons {c : Char} {cs gap : List Char} {parts : List (Block × List Char)}
    (hnot : ¬ StartsBlock (c :: cs)) (h : Cut cs gap parts) : Cut (c :: cs) (c :: gap) parts := by
  cases h with
  | last hgap =>
    refine .last ?_
    intro before after heq
    cases before with
    | nil =>
      obtain rfl : c :: cs = after := heq
      exact hnot
    | cons d before => exact hgap before after (List.cons.inj heq).2
  | block hcs hgap hwritten hrest =>
    subst hcs
    refine .block rfl ?_ hwritten hrest
    intro before after heq hne
    cases before with
    | nil =>
      obtain rfl : c :: gap = after := heq
      exact hnot
    | cons d before => exact hgap before after (List.cons.inj heq).2 hne

/-- Every text can be cut. -/
theorem exists_cut (cs : List Char) : ∃ gap parts, Cut cs gap parts := by
  induction cs using scan.induct with
  | case1 cs b rest hblock ih =>
    -- a block starts here: the gap before it is empty
    obtain ⟨next, parts, hrest⟩ := ih
    obtain ⟨written, rfl, hwritten⟩ := block?_eq_some_iff.1 hblock
    refine ⟨[], (b, next) :: parts, .block rfl ?_ hwritten hrest⟩
    intro before after heq hne
    exact absurd (List.append_eq_nil_iff.1 heq.symm).2 hne
  | case2 hblock =>
    refine ⟨[], [], .last ?_⟩
    intro before after heq
    obtain ⟨-, rfl⟩ := List.append_eq_nil_iff.1 heq.symm
    exact block?_eq_none_iff.1 hblock
  | case3 c rest hblock ih =>
    -- no block starts here: the character belongs to the gap of the rest
    obtain ⟨gap, parts, hrest⟩ := ih
    exact ⟨c :: gap, parts, hrest.cons (block?_eq_none_iff.1 hblock)⟩

/-! ## Scanning -/

theorem scan_of_block {cs rest : List Char} {b : Block} (h : block? cs = some (b, rest)) :
    scan cs = .call b :: scan rest := by
  rw [scan]
  split
  · rename_i heq
    obtain ⟨rfl, rfl⟩ := Prod.mk.inj (Option.some.inj (h.symm.trans heq))
    rfl
  · rename_i heq
    rw [h] at heq
    contradiction

theorem scan_of_no_block {c : Char} {cs : List Char} (h : ¬ StartsBlock (c :: cs)) :
    scan (c :: cs) = .prose c :: scan cs := by
  rw [scan]
  split
  · rename_i heq
    rw [block?_eq_none_iff.2 h] at heq
    contradiction
  · rfl

/-- The scan passes over the characters of a gap. -/
theorem scan_gap {gap rest : List Char}
    (hgap : ∀ before after, gap = before ++ after → after ≠ [] → ¬ StartsBlock (after ++ rest)) :
    scan (gap ++ rest) = gap.map .prose ++ scan rest := by
  induction gap with
  | nil => rfl
  | cons c gap ih =>
    have hrest := ih fun before after heq hne => hgap (c :: before) after (by rw [heq]; rfl) hne
    have hnot : ¬ StartsBlock (c :: (gap ++ rest)) := hgap [] (c :: gap) rfl (by simp)
    rw [List.cons_append, scan_of_no_block hnot, hrest]
    rfl

theorem scan_nil : scan [] = [] := by
  rw [scan]
  rfl

/-- The scan cuts a text in the only way in which it can be cut. -/
theorem scan_of_cut {cs gap : List Char} {parts : List (Block × List Char)}
    (h : Cut cs gap parts) :
    scan cs = gap.map .prose ++ parts.flatMap fun p => .call p.1 :: p.2.map .prose := by
  induction h with
  | @last gap hgap =>
    have hscan : scan (gap ++ []) = gap.map .prose ++ scan [] := by
      refine scan_gap ?_
      intro before after heq _
      rw [List.append_nil]
      exact hgap before after heq
    rw [List.append_nil, scan_nil] at hscan
    exact hscan
  | block hcs hgap hwritten hrest ih =>
    subst hcs
    rw [scan_gap hgap, scan_of_block (block?_eq_some_iff.2 ⟨_, rfl, hwritten⟩), ih]
    simp

theorem filterMap_block?_map_prose (gap : List Char) :
    (gap.map Piece.prose).filterMap Piece.block? = [] := by
  simp [Piece.block?]

theorem filterMap_char?_map_prose (gap : List Char) :
    (gap.map Piece.prose).filterMap Piece.char? = gap := by
  simp [List.filterMap_map, Function.comp_def, Piece.char?]

theorem blocks_of_cut {cs gap : List Char} {parts : List (Block × List Char)}
    (h : Cut cs gap parts) : blocks cs = parts.map (·.1) := by
  unfold blocks
  rw [scan_of_cut h, List.filterMap_append, filterMap_block?_map_prose, List.nil_append]
  clear h
  induction parts with
  | nil => rfl
  | cons p parts ih =>
    rw [List.flatMap_cons, List.filterMap_append, ih, List.filterMap_cons,
      filterMap_block?_map_prose]
    rfl

theorem prose_of_cut {cs gap : List Char} {parts : List (Block × List Char)}
    (h : Cut cs gap parts) : prose cs = gap ++ parts.flatMap (·.2) := by
  unfold prose
  rw [scan_of_cut h, List.filterMap_append, filterMap_char?_map_prose]
  congr 1
  clear h
  induction parts with
  | nil => rfl
  | cons p parts ih =>
    rw [List.flatMap_cons, List.filterMap_append, ih, List.filterMap_cons,
      filterMap_char?_map_prose]
    rfl

/-- A text in which no block starts is all gap. -/
theorem Cut.nil_iff {cs gap : List Char} {parts : List (Block × List Char)}
    (h : Cut cs gap parts) :
    parts = [] ↔ ∀ before after, cs = before ++ after → ¬ StartsBlock after := by
  cases h with
  | last hgap => exact iff_of_true rfl hgap
  | block hcs hgap hwritten hrest =>
    -- the first block starts where the first gap ends
    refine iff_of_false (by simp) ?_
    intro hnot
    exact hnot _ _ hcs ⟨_, _, _, rfl, hwritten⟩

/-- No block starts anywhere in a text. -/
def Blockless (cs : List Char) : Prop := ∀ after, after <:+ cs → ¬ StartsBlock after

theorem blocks_of_blockless {cs : List Char} (h : Blockless cs) : blocks cs = [] := by
  obtain ⟨gap, parts, hcut⟩ := exists_cut cs
  rw [blocks_of_cut hcut, List.map_eq_nil_iff, hcut.nil_iff]
  intro before after heq
  exact h after ⟨before, heq.symm⟩

/-! ## Extraction -/

theorem callsOfBlocks_map (ids : IdSource) (next : Nat) (parts : List (Block × List Char)) :
    callsOfBlocks ids next (parts.map (·.1)) =
      parts.mapIdx fun i p => ⟨ids (next + i), .ofList p.1.name, .ofList p.1.arguments⟩ := by
  induction parts generalizing next with
  | nil => rfl
  | cons p parts ih =>
    rw [List.map_cons, callsOfBlocks, ih, List.mapIdx_cons]
    simp [Nat.add_assoc, Nat.add_comm 1]

theorem extract_of_blocks (ids : IdSource) (next : Nat) {text : String} {tools : List ToolSpec}
    (htools : tools ≠ []) (hblocks : blocks text.toList ≠ []) :
    extract ids next text tools =
      (⟨nonEmpty? (.ofList (Text.stripChars (prose text.toList))),
        callsOfBlocks ids next (blocks text.toList)⟩, next + (blocks text.toList).length) := by
  have hsome : tools.isEmpty = false := by simpa using htools
  unfold extract
  rw [hsome]
  cases hfound : blocks text.toList with
  | nil => contradiction
  | cons b bs => rfl

/-- Without a block, only the older form gives calls. -/
theorem calls_of_no_blocks (ids : IdSource) (next : Nat) {text : String} {tools : List ToolSpec}
    (htools : tools ≠ []) (hblocks : blocks text.toList = []) :
    (extract ids next text tools).1.calls = (oldCalls ids next text).1 := by
  have hsome : tools.isEmpty = false := by simpa using htools
  unfold extract
  rw [hsome, hblocks]
  simp only [Bool.false_eq_true, if_false]
  split
  · rename_i hempty
    exact (List.isEmpty_iff.1 hempty).symm
  · rfl

/-- The calls of an extraction are the blocks of the text from the left, and its text is the gaps
between them; a text without a block is left to the older form. -/
theorem extract_of_cut (ids : IdSource) (next : Nat) (text : String) {tools : List ToolSpec}
    (htools : tools ≠ []) :
    (∃ gap parts, Cut text.toList gap parts) ∧
    ∀ gap parts, Cut text.toList gap parts →
      (parts ≠ [] ↔ ∃ before after, text.toList = before ++ after ∧ StartsBlock after) ∧
      (parts ≠ [] → extract ids next text tools =
        (⟨nonEmpty? (.ofList (Text.stripChars (gap ++ parts.flatMap (·.2)))),
          parts.mapIdx fun i p => ⟨ids (next + i), .ofList p.1.name, .ofList p.1.arguments⟩⟩,
          next + parts.length)) ∧
      (parts = [] → blocks text.toList = [] ∧
        (extract ids next text tools).1.calls = (oldCalls ids next text).1) := by
  refine ⟨exists_cut text.toList, ?_⟩
  intro gap parts h
  refine ⟨?_, ?_, ?_⟩
  · rw [ne_eq, h.nil_iff]
    simp
  · intro hne
    rw [extract_of_blocks ids next htools (by rw [blocks_of_cut h]; simpa using hne),
      blocks_of_cut h, prose_of_cut h, callsOfBlocks_map, List.length_map]
  · rintro rfl
    have hnone : blocks text.toList = [] := blocks_of_cut h
    exact ⟨hnone, calls_of_no_blocks ids next htools hnone⟩

/-- A tool. -/
def findTool : ToolSpec := ⟨"find", "", [("type", .str "object")], by decide⟩

/-- A text with a block between other lines. -/
def oneCallText : String := "Wait.\nTOOL_CALL: find\nARGUMENTS: \x7b\x7d\nDone."

theorem extract_of_cut_oneCallText :
    [findTool] ≠ [] ∧ ∃ gap parts, Cut oneCallText.toList gap parts ∧ parts ≠ [] ∧
      extract (.numbered "call") 0 oneCallText [findTool] =
        (⟨nonEmpty? (.ofList (Text.stripChars (gap ++ parts.flatMap (·.2)))),
          parts.mapIdx fun i p =>
            ⟨IdSource.numbered "call" (0 + i), .ofList p.1.name, .ofList p.1.arguments⟩⟩,
          0 + parts.length) := by
  have htools : [findTool] ≠ [] := by simp
  have hblock : block? "TOOL_CALL: find\nARGUMENTS: \x7b\x7d\nDone.".toList =
      some (⟨"find".toList, "\x7b\x7d".toList⟩, "Done.".toList) := by decide +kernel
  obtain ⟨written, hwritten⟩ := block?_eq_some_iff.1 hblock
  obtain ⟨⟨gap, parts, hcut⟩, hall⟩ :=
    extract_of_cut (.numbered "call") 0 oneCallText htools
  obtain ⟨hstarts, hextract, -⟩ := hall gap parts hcut
  have hne : parts ≠ [] :=
    hstarts.2 ⟨"Wait.\n".toList, _, rfl, _, written, _, hwritten⟩
  exact ⟨htools, gap, parts, hcut, hne, hextract hne⟩

end Dialogue.Tool
