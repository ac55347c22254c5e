import Dialogue.Proofs.Number.Layout
import Dialogue.Text.Lines
import Dialogue.Yaml.Printer
import Mathlib.Data.List.SplitBy

/-!
# Dialogue.Proofs.Yaml.Printer — documents hold no carriage return

A carriage return is not among the characters that stand plain or in single quotes, and double
quotes escape it. What the printer adds on its own — spaces, line feeds, marks, digits — is none
either. So a document that was written to a file is read as it was written: nothing in it is taken
for another end of a line.

* `return_not_mem_write` — no text is written with a carriage return;
* `unifyLines_write` — the ends of the lines of a written document are what they are.
-/

namespace Dialogue

theorem Text.unifyChars_eq_self {cs : List Char} (h : '\r' ∉ cs) : unifyChars cs = cs := by
  induction cs using unifyChars.induct with
  | case1 rest => simp at h
  | case2 rest => simp at h
  | case3 c rest hpair hreturn ih =>
    rw [unifyChars]
    · rw [ih (List.not_mem_of_not_mem_cons h)]
    · exact hpair
    · exact hreturn
  | case4 => rfl

namespace Yaml

/-! ## Texts -/

namespace Style

theorem return_not_mem_of_visible {cs : List Char} (h : cs.all isVisible = true) : '\r' ∉ cs := by
  intro hmem
  exact absurd (List.all_eq_true.mp h _ hmem) (by decide)

@[simp] theorem return_not_mem_newLine (m : Margin) : '\r' ∉ m.newLine := by
  simp [Margin.newLine]

theorem return_not_mem_pieces {cs : List Char} (h : '\r' ∉ cs) :
    ∀ piece ∈ pieces cs, '\r' ∉ piece := by
  intro piece hpiece hmem
  apply h
  rw [← List.flatten_splitBy (fun a b => sort a == sort b) cs]
  exact List.mem_flatten.mpr ⟨piece, hpiece, hmem⟩

theorem return_not_mem_writePieces (m : Margin) (isFirst : Bool) (column : Nat)
    {ps : List (List Char)} (h : ∀ piece ∈ ps, '\r' ∉ piece) :
    '\r' ∉ writePieces m isFirst column ps := by
  induction ps generalizing isFirst column with
  | nil => simp [writePieces]
  | cons piece rest ih =>
    have hpiece : '\r' ∉ piece := h piece List.mem_cons_self
    have hrest := fun isFirst column =>
      ih isFirst column fun piece hmem => h piece (List.mem_cons_of_mem _ hmem)
    have hbreaks : '\r' ∉ breaks piece := by
      unfold breaks
      split <;> simp [hpiece]
    unfold writePieces
    split
    · simp [hrest]
    · split <;> simp [hpiece, hbreaks, hrest]

theorem return_not_mem_writeSingle (m : Margin) (column : Nat) {cs : List Char} (h : '\r' ∉ cs) :
    '\r' ∉ writeSingle m column cs := by
  have hdoubled : '\r' ∉ doubleQuotes cs := by
    simp only [doubleQuotes, List.mem_flatMap, not_exists, not_and]
    intro c hc
    have hne : '\r' ≠ c := fun heq => h (heq ▸ hc)
    split <;> simp [hne]
  have hpieces := return_not_mem_writePieces m true (column + 1) (return_not_mem_pieces hdoubled)
  simp [writeSingle, hpieces]

/-- The letters of escapes are letters, and so are the digits of codes. -/
theorem return_not_mem_escape (c : Char) : '\r' ∉ escape c := by
  have hdigits : ∀ width n, '\r' ∉ (Display.hexDigits width n).map Char.toUpper := by
    intro width n
    induction width generalizing n with
    | zero => simp [Display.hexDigits]
    | succ width ih =>
      have hdigit : ∀ d < 16, '\r' ≠ (Nat.digitChar d).toUpper := by decide
      simp only [Display.hexDigits, List.map_append, List.map_cons, List.map_nil, List.mem_append,
        List.mem_singleton, not_or]
      exact ⟨ih _, hdigit _ (Nat.mod_lt n (by omega))⟩
  have hletters : ∀ entry ∈ Quoted.escapes, '\r' ≠ entry.1 := by decide
  unfold escape
  split
  · rename_i letter hletter
    simp only [escapeLetter?, Option.map_eq_some_iff] at hletter
    obtain ⟨entry, hfind, rfl⟩ := hletter
    simp [hletters entry (List.mem_of_find?_eq_some hfind)]
  · unfold escapeCode
    dsimp only
    split
    · simp [hdigits]
    · split <;> simp [hdigits]

theorem return_not_mem_fold (m : Margin) (next : Option Char) : '\r' ∉ fold m next := by
  unfold fold
  split <;> simp

theorem return_not_mem_writeDouble (m : Margin) (isFirst afterEscape : Bool) (column : Nat)
    (cs : List Char) : '\r' ∉ writeDouble m isFirst afterEscape column cs := by
  induction cs generalizing isFirst afterEscape column with
  | nil => simp [writeDouble]
  | cons c rest ih =>
    unfold writeDouble
    dsimp only
    split
    · rename_i hbare
      have hne : '\r' ≠ c := by
        rintro rfl
        exact absurd hbare (by decide)
      split <;> simp [hne, ih, return_not_mem_fold]
    · split <;> simp [ih, return_not_mem_escape, return_not_mem_fold]

/-- A text with a carriage return is written in double quotes. -/
theorem return_not_mem_write (m : Margin) (column : Nat) (text : String) :
    '\r' ∉ write m column text := by
  unfold write
  dsimp only
  cases hstyle : of m.folds text with
  | plain =>
    have hvisible : text.toList.all isVisible = true := by
      unfold of at hstyle
      grind [fitsPlain]
    exact return_not_mem_writePieces m true column
      (return_not_mem_pieces (return_not_mem_of_visible hvisible))
  | single =>
    have hvisible : text.toList.all isVisible = true := by
      unfold of at hstyle
      grind [fitsSingle]
    exact return_not_mem_writeSingle m column (return_not_mem_of_visible hvisible)
  | double => simp [return_not_mem_writeDouble]

end Style

/-! ## Documents -/

theorem return_not_mem_decimalChars (i : Int) : '\r' ∉ decimalChars i :=
  not_mem_decimalChars (by decide) i

theorem return_not_mem_numberLayout (x : Binary64) : '\r' ∉ numberLayout.write x :=
  Layout.not_mem_write (by decide) (by decide) (by decide) x

theorem return_not_mem_lineAt (indent : Nat) : '\r' ∉ lineAt indent := by
  simp [lineAt]

theorem return_not_mem_writeKey (key : String) : '\r' ∉ writeKey key := by
  simp [writeKey, Style.return_not_mem_write]

mutual

theorem return_not_mem_writeBelowKey (indent column : Nat) (j : Json) :
    '\r' ∉ writeBelowKey indent column j := by
  cases j with
  | null => simp [writeBelowKey]
  | bool b => cases b <;> simp [writeBelowKey]
  | int i => simp [writeBelowKey, return_not_mem_decimalChars]
  | float x => simp [writeBelowKey, return_not_mem_numberLayout]
  | str s => simp [writeBelowKey, Style.return_not_mem_write]
  | arr elements =>
    cases elements with
    | nil => simp [writeBelowKey]
    | cons x xs =>
      simp [writeBelowKey, return_not_mem_lineAt, return_not_mem_writeItems indent (x :: xs)]
  | obj members =>
    cases members with
    | nil => simp [writeBelowKey]
    | cons m ms =>
      simp [writeBelowKey, return_not_mem_lineAt, return_not_mem_writeEntries _ (m :: ms)]

theorem return_not_mem_writeItem (indent : Nat) (j : Json) : '\r' ∉ writeItem indent j := by
  cases j with
  | null => simp [writeItem]
  | bool b => cases b <;> simp [writeItem]
  | int i => simp [writeItem, return_not_mem_decimalChars]
  | float x => simp [writeItem, return_not_mem_numberLayout]
  | str s => simp [writeItem, Style.return_not_mem_write]
  | arr elements =>
    cases elements with
    | nil => simp [writeItem]
    | cons x xs => simp [writeItem, return_not_mem_writeItems _ (x :: xs)]
  | obj members =>
    cases members with
    | nil => simp [writeItem]
    | cons m ms => simp [writeItem, return_not_mem_writeEntries _ (m :: ms)]

theorem return_not_mem_writeItems (indent : Nat) (elements : List Json) :
    '\r' ∉ writeItems indent elements := by
  match elements with
  | [] => simp [writeItems]
  | [x] => simp [writeItems, return_not_mem_writeItem indent x]
  | x :: y :: rest =>
    simp [writeItems, return_not_mem_writeItem indent x, return_not_mem_lineAt,
      return_not_mem_writeItems indent (y :: rest)]

theorem return_not_mem_writeEntries (indent : Nat) (members : Json.Members) :
    '\r' ∉ writeEntries indent members := by
  match members with
  | [] => simp [writeEntries]
  | [(key, value)] =>
    simp [writeEntries, return_not_mem_writeKey, return_not_mem_writeBelowKey indent _ value]
  | (key, value) :: m :: rest =>
    simp [writeEntries, return_not_mem_writeKey, return_not_mem_writeBelowKey indent _ value,
      return_not_mem_lineAt, return_not_mem_writeEntries indent (m :: rest)]

end

/-- Reading a written document as lines changes nothing in it. -/
theorem unifyLines_write (members : Json.Members) :
    Text.unifyLines (write members) = write members := by
  have hreturn : '\r' ∉ (write members).toList := by
    unfold write
    split
    · decide
    · simp [return_not_mem_writeEntries]
  rw [Text.unifyLines, Text.unifyChars_eq_self hreturn, String.ofList_toList]

end Yaml

end Dialogue
