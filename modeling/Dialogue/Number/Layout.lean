import Dialogue.Number.Shortest

/-!
# Dialogue.Number.Layout — how a number is written

A `Layout` holds the decisions a format makes about numbers: which powers of ten are written
positionally, how an exponent looks, and the texts of the numbers without digits. The digits
themselves are those of `Binary64.shortest`.
-/

namespace Dialogue

/-- The decisions of one number format. -/
structure Layout where
  /-- The least power of ten of the first digit that is written positionally. -/
  leastPositional : Int
  /-- The first power of ten that is not written positionally any more. -/
  pastPositional : Int
  /-- The least number of digits of an exponent. -/
  exponentDigits : Nat
  /-- Whether a lone digit before an exponent is followed by `.0`. -/
  pointBeforeExponent : Bool
  infinity : String
  nan : String
deriving Repr

namespace Layout

/-- Decimal digits of a number, at least `width` of them. -/
def padded (width n : Nat) : List Char :=
  let digits := Nat.toDigits 10 n
  List.replicate (width - digits.length) '0' ++ digits

/-- Digits with a point after the first `whole` of them, and `.0` when none are left. -/
def withPoint (whole : Nat) (digits : List Char) : List Char :=
  if digits.length ≤ whole then
    digits ++ List.replicate (whole - digits.length) '0' ++ ['.', '0']
  else digits.take whole ++ '.' :: digits.drop whole

/-- A positive decimal whose first digit has the power of ten `top`. -/
def positional (digits : List Char) (top : Int) : List Char :=
  if 0 ≤ top then withPoint (top.toNat + 1) digits
  else '0' :: '.' :: List.replicate ((-top).toNat - 1) '0' ++ digits

/-- One digit, the others after a point, and an exponent with its sign. -/
def scientific (l : Layout) (digits : List Char) (top : Int) : List Char :=
  let lead :=
    match digits with
    | [d] => if l.pointBeforeExponent then [d, '.', '0'] else [d]
    | ds => withPoint 1 ds
  let sign := if top < 0 then '-' else '+'
  lead ++ 'e' :: sign :: padded l.exponentDigits top.natAbs

/-- The magnitude `m · 2^e` in this layout. -/
def magnitude (l : Layout) (m : Nat) (e : Int) : List Char :=
  if m = 0 then ['0', '.', '0']
  else
    let d := (Binary64.shortest m e).trim 17
    let digits := Nat.toDigits 10 d.digits
    let top := d.power + digits.length - 1
    if l.leastPositional ≤ top ∧ top < l.pastPositional then positional digits top
    else l.scientific digits top

/-- A number in this layout. -/
def write (l : Layout) : Binary64 → List Char
  | .nan => l.nan.toList
  | .infinite negative => if negative then '-' :: l.infinity.toList else l.infinity.toList
  | .finite negative m e => if negative then '-' :: l.magnitude m e else l.magnitude m e

end Layout

/-- A whole number in decimal digits. -/
def decimalChars : Int → List Char
  | .ofNat n => Nat.toDigits 10 n
  | .negSucc n => '-' :: Nat.toDigits 10 (n + 1)

end Dialogue
