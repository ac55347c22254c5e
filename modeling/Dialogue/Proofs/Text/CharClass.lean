import Dialogue.Text.Blank
import Dialogue.Text.Word
import Mathlib.Data.List.TakeWhile

/-!
# Dialogue.Proofs.Text.CharClass — runs of characters of a class

What stands at the start of a text and satisfies a property is cut off in one way only
(`span_unique`), and no character is both blank and a word character (`isBlank_of_isWord`), so a run
of blanks ends where a word begins.
-/

namespace Dialogue.Text

/-! ## Runs -/

/-- What stops a run of characters: the text ends, or it goes on with another character. -/
def Stops (p : Char → Bool) (rest : List Char) : Prop := ∀ c ∈ rest.head?, p c = false

theorem stops_cons {p : Char → Bool} {c : Char} {rest : List Char} :
    Stops p (c :: rest) ↔ p c = false := by
  simp [Stops]

theorem stops_dropWhile (p : Char → Bool) (cs : List Char) : Stops p (cs.dropWhile p) := by
  induction cs with
  | nil => simp [Stops]
  | cons c rest ih =>
    by_cases h : p c = true
    · rwa [List.dropWhile_cons_of_pos h]
    · rw [List.dropWhile_cons_of_neg h, stops_cons]
      simpa using h

theorem dropWhile_append {p : Char → Bool} {run rest : List Char} (hrun : ∀ c ∈ run, p c = true)
    (hrest : Stops p rest) : (run ++ rest).dropWhile p = rest := by
  rw [List.dropWhile_append_of_pos hrun]
  cases rest with
  | nil => rfl
  | cons c rest =>
    have hc : p c = false := stops_cons.1 hrest
    simp [hc]

theorem takeWhile_append {p : Char → Bool} {run rest : List Char} (hrun : ∀ c ∈ run, p c = true)
    (hrest : Stops p rest) : (run ++ rest).takeWhile p = run := by
  rw [List.takeWhile_append_of_pos hrun]
  cases rest with
  | nil => simp
  | cons c rest =>
    have hc : p c = false := stops_cons.1 hrest
    simp [hc]

/-- A text falls into a run of characters and what stops the run in one way. -/
theorem span_eq_iff {p : Char → Bool} {cs run rest : List Char} :
    (cs.takeWhile p = run ∧ cs.dropWhile p = rest) ↔
      cs = run ++ rest ∧ (∀ c ∈ run, p c = true) ∧ Stops p rest := by
  constructor
  · rintro ⟨rfl, rfl⟩
    exact ⟨List.takeWhile_append_dropWhile.symm, List.all_eq_true.1 List.all_takeWhile,
      stops_dropWhile p cs⟩
  · rintro ⟨rfl, hrun, hrest⟩
    exact ⟨takeWhile_append hrun hrest, dropWhile_append hrun hrest⟩

/-! ## Blanks and words -/

/-- The members of a bounded set that changes at each bound. -/
def members : List Nat → List Nat
  | low :: high :: bounds => List.range' low (high - low) ++ members bounds
  | _ => []

theorem mem_members {bounds : List Nat} (hbounded : bounds.length % 2 = 0) {n : Nat}
    (h : togglesAt bounds n = true) : n ∈ members bounds := by
  induction bounds using members.induct with
  | case1 low high bounds ih =>
    have hrest : bounds.length % 2 = 0 := by
      simp only [List.length_cons] at hbounded
      omega
    rw [members, List.mem_append, List.mem_range'_1]
    by_cases hlow : n < low
    · simp [togglesAt, togglesFrom, hlow] at h
    · by_cases hhigh : n < high
      · exact Or.inl (by omega)
      · exact Or.inr (ih hrest (by simpa [togglesAt, togglesFrom, hlow, hhigh] using h))
  | case2 bounds hshort =>
    cases bounds with
    | nil => simp [togglesAt, togglesFrom] at h
    | cons low rest =>
      cases rest with
      | nil => simp at hbounded
      | cons high bounds => exact absurd rfl (hshort low high bounds)

theorem not_isWord_blanks : ∀ n ∈ members blankBounds, togglesAt wordBounds n = false := by
  decide +kernel

/-- No character is both blank and a word character. -/
theorem isBlank_of_isWord {c : Char} (h : isWord c = true) : isBlank c = false := by
  cases hblank : isBlank c with
  | false => rfl
  | true =>
    have hword := not_isWord_blanks _ (mem_members rfl hblank)
    unfold isWord at h
    rw [hword] at h
    contradiction

/-! ## Stripping -/

/-- Stripping leaves nothing just of a blank text. -/
theorem stripChars_eq_nil_iff {cs : List Char} :
    stripChars cs = [] ↔ ∀ c ∈ cs, isBlank c = true := by
  rw [← List.dropWhile_eq_nil_iff, stripChars, dropTrailing, List.reverse_eq_nil_iff]
  cases hrest : cs.dropWhile isBlank with
  | nil => simp
  | cons c rest =>
    -- what is left starts with a character that is not blank
    have hc : isBlank c = false := stops_cons.1 (hrest ▸ stops_dropWhile isBlank cs)
    refine iff_of_false ?_ (by simp)
    intro hblank
    have hall := List.dropWhile_eq_nil_iff.1 hblank c (by simp)
    rw [hc] at hall
    contradiction

end Dialogue.Text
