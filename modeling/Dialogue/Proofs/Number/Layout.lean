import Dialogue.Number.Layout
import Mathlib.Data.Nat.Digits.Defs

/-!
# Dialogue.Proofs.Number.Layout — the characters of numbers

Whatever its layout, a number with digits is written with digits, signs, a point and the letter of
its exponent (`isNumeral`). So a character that is none of these, such as the end of a line, stands
in no number, provided that the texts of the numbers without digits do without it (`not_mem_write`).
-/

namespace Dialogue

/-- The characters of numbers with digits. -/
def isNumeral (c : Char) : Bool := c.isDigit || ['.', '-', '+', 'e'].contains c

theorem isNumeral_toDigits (n : Nat) : ∀ c ∈ Nat.toDigits 10 n, isNumeral c = true := by
  intro c hc
  have hdigit : c.isDigit = true := Nat.isDigit_of_mem_toDigits (by omega) (by omega) hc
  simp [isNumeral, hdigit]

theorem isNumeral_zeros (n : Nat) : ∀ c ∈ List.replicate n '0', isNumeral c = true := by
  intro c hc
  obtain rfl := List.eq_of_mem_replicate hc
  decide

theorem isNumeral_decimalChars (i : Int) : ∀ c ∈ decimalChars i, isNumeral c = true := by
  cases i with
  | ofNat n => exact isNumeral_toDigits n
  | negSucc n => exact List.forall_mem_cons.2 ⟨by decide, isNumeral_toDigits (n + 1)⟩

namespace Layout

theorem isNumeral_padded (width n : Nat) : ∀ c ∈ padded width n, isNumeral c = true :=
  List.forall_mem_append.2 ⟨isNumeral_zeros _, isNumeral_toDigits n⟩

section

variable {digits : List Char} (h : ∀ c ∈ digits, isNumeral c = true)

include h

theorem isNumeral_withPoint (whole : Nat) : ∀ c ∈ withPoint whole digits, isNumeral c = true := by
  unfold withPoint
  split
  · rw [List.forall_mem_append, List.forall_mem_append]
    exact ⟨⟨h, isNumeral_zeros _⟩, by simp [isNumeral]⟩
  · rw [List.forall_mem_append, List.forall_mem_cons]
    refine ⟨?_, by decide, ?_⟩
    · intro c hc
      exact h c (List.mem_of_mem_take hc)
    · intro c hc
      exact h c (List.mem_of_mem_drop hc)

theorem isNumeral_positional (top : Int) : ∀ c ∈ positional digits top, isNumeral c = true := by
  unfold positional
  split
  · exact isNumeral_withPoint h _
  · rw [List.forall_mem_append, List.forall_mem_cons, List.forall_mem_cons]
    exact ⟨⟨by decide, by decide, isNumeral_zeros _⟩, h⟩

theorem isNumeral_scientific (l : Layout) (top : Int) :
    ∀ c ∈ l.scientific digits top, isNumeral c = true := by
  have hsign : isNumeral (if top < 0 then '-' else '+') = true := by split <;> decide
  unfold scientific
  rw [List.forall_mem_append, List.forall_mem_cons, List.forall_mem_cons]
  refine ⟨?_, by decide, hsign, isNumeral_padded _ _⟩
  -- one digit may stand alone before the exponent
  split
  · rename_i d
    have hpoint : ∀ c ∈ ['.', '0'], isNumeral c = true := by simp [isNumeral]
    split
    · exact List.forall_mem_cons.2 ⟨h d List.mem_cons_self, hpoint⟩
    · exact h
  · exact isNumeral_withPoint h 1

end

theorem isNumeral_magnitude (l : Layout) (m : Nat) (e : Int) :
    ∀ c ∈ l.magnitude m e, isNumeral c = true := by
  unfold magnitude
  split
  · simp [isNumeral]
  · dsimp only
    split
    · exact isNumeral_positional (isNumeral_toDigits _) _
    · exact isNumeral_scientific (isNumeral_toDigits _) l _

end Layout

/-! ## Characters that stand in no number -/

section

variable {c : Char} (hc : isNumeral c = false)

include hc

theorem not_mem_decimalChars (i : Int) : c ∉ decimalChars i := by
  intro hmem
  rw [isNumeral_decimalChars i c hmem] at hc
  contradiction

theorem Layout.not_mem_write {l : Layout} (hinfinity : c ∉ l.infinity.toList)
    (hnan : c ∉ l.nan.toList) (x : Binary64) : c ∉ l.write x := by
  have hminus : c ≠ '-' := by
    rintro rfl
    contradiction
  cases x with
  | nan => exact hnan
  | infinite negative => cases negative <;> simp [write, hinfinity, hminus]
  | finite negative m e =>
    have hdigits : c ∉ l.magnitude m e := by
      intro hmem
      rw [isNumeral_magnitude l m e c hmem] at hc
      contradiction
    cases negative <;> simp [write, hdigits, hminus]

end

end Dialogue
