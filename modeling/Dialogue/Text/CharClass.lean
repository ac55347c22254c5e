/-!
# Dialogue.Text.CharClass — sets of code points as toggles

A property of characters is kept as the sorted list of the code points where it changes: below the
first bound it fails, from the first to the second it holds, and so on.
-/

namespace Dialogue.Text

/-- Whether a set that holds `inside` of the least code points, and changes at each bound, holds
`n`. -/
def togglesFrom (inside : Bool) : List Nat → Nat → Bool
  | [], _ => inside
  | bound :: bounds, n => if n < bound then inside else togglesFrom (!inside) bounds n

/-- Whether the set that changes at each bound holds `n`. -/
def togglesAt (bounds : List Nat) (n : Nat) : Bool :=
  togglesFrom false bounds n

end Dialogue.Text
