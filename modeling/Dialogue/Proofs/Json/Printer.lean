import Dialogue.Json.Printer
import Dialogue.Proofs.Number.Layout

/-!
# Dialogue.Proofs.Json.Printer — compact text stands on one line

A line break inside a string is escaped, numbers have none, and the compact style puts none between
elements. So the compact text of a value has no line break (`newline_not_mem_compact`), whatever its
strings say.

In both styles the elements of a list and the members of an object are written alike: each but the
first stands behind a separator (`writeElements_eq`, `writeMembers_eq`).
-/

namespace Dialogue

/-! ## Values -/

namespace Json

theorem hexDigit_ne_newline : ∀ n < 16, hexDigit n ≠ '\n' := by
  decide

theorem newline_not_mem_escapeChar (c : Char) : '\n' ∉ escapeChar c := by
  unfold escapeChar
  split
  · decide
  · decide
  · decide
  · decide
  · decide
  · decide
  · decide
  · rename_i hne _ _ _ _
    split
    · have hhigh := hexDigit_ne_newline (c.toNat / 16) (by omega)
      have hlow := hexDigit_ne_newline (c.toNat % 16) (by omega)
      simp [hhigh.symm, hlow.symm]
    · simpa using Ne.symm hne

theorem newline_not_mem_quote (s : String) : '\n' ∉ quote s := by
  simp [quote, newline_not_mem_escapeChar]

mutual

theorem newline_not_mem_write (depth : Nat) (j : Json) : '\n' ∉ write .compact depth j := by
  match j with
  | .null => simp [write]
  | .bool true => simp [write]
  | .bool false => simp [write]
  | .int i => simpa [write] using not_mem_decimalChars (by decide) i
  | .float x =>
    rw [write]
    exact Layout.not_mem_write (by decide) (by decide) (by decide) x
  | .str s => simpa [write] using newline_not_mem_quote s
  | .arr [] => simp [write]
  | .arr (x :: xs) =>
    simp [write, Style.lineBreak, newline_not_mem_write (depth + 1) x,
      newline_not_mem_writeElements (depth + 1) xs]
  | .obj [] => simp [write]
  | .obj ((k, v) :: ms) =>
    simp [write, Style.lineBreak, newline_not_mem_quote, newline_not_mem_write (depth + 1) v,
      newline_not_mem_writeMembers (depth + 1) ms]

theorem newline_not_mem_writeElements (depth : Nat) (xs : List Json) :
    '\n' ∉ writeElements .compact depth xs := by
  match xs with
  | [] => simp [writeElements]
  | x :: xs =>
    simp [writeElements, Style.separator, newline_not_mem_write depth x,
      newline_not_mem_writeElements depth xs]

theorem newline_not_mem_writeMembers (depth : Nat) (ms : Members) :
    '\n' ∉ writeMembers .compact depth ms := by
  match ms with
  | [] => simp [writeMembers]
  | (k, v) :: ms =>
    simp [writeMembers, Style.separator, newline_not_mem_quote, newline_not_mem_write depth v,
      newline_not_mem_writeMembers depth ms]

end

/-- The compact text of a value has no line break. -/
theorem newline_not_mem_compact (j : Json) : '\n' ∉ j.compact.toList := by
  rw [compact, String.toList_ofList]
  exact newline_not_mem_write 0 j

/-! ## Containers -/

/-- The text of a member. -/
def memberText (style : Style) (depth : Nat) (m : String × Json) : List Char :=
  quote m.1 ++ ':' :: ' ' :: write style depth m.2

theorem writeElements_eq (style : Style) (depth : Nat) (xs : List Json) :
    writeElements style depth xs =
      (xs.map (write style depth)).flatMap (style.separator depth ++ ·) := by
  induction xs with
  | nil => rfl
  | cons x xs ih => simp [writeElements, ih]

theorem writeMembers_eq (style : Style) (depth : Nat) (ms : Members) :
    writeMembers style depth ms =
      (ms.map (memberText style depth)).flatMap (style.separator depth ++ ·) := by
  induction ms with
  | nil => rfl
  | cons m ms ih =>
    obtain ⟨k, v⟩ := m
    simp [writeMembers, memberText, ih]

/-- The text of an object starts and ends with a brace. -/
theorem write_obj (style : Style) (depth : Nat) (members : Members) :
    ∃ body, write style depth (.obj members) = '{' :: body ∧ body.getLast? = some '}' := by
  cases members with
  | nil => exact ⟨['}'], by rw [write], rfl⟩
  | cons member rest =>
    obtain ⟨key, value⟩ := member
    exact ⟨_, by rw [write]; rfl, List.getLast?_concat⟩

theorem compact_obj (members : Members) :
    ∃ body, (obj members).compact.toList = '{' :: body ∧ body.getLast? = some '}' := by
  rw [compact, String.toList_ofList]
  exact write_obj .compact 0 members

theorem indented_obj (members : Members) :
    ∃ body, (obj members).indented.toList = '{' :: body ∧ body.getLast? = some '}' := by
  rw [indented, String.toList_ofList]
  exact write_obj .indented 0 members

end Json

end Dialogue
