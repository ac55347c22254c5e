/-!
# Dialogue.Number.Binary64 — double-precision numbers, kept exactly

A finite number is a sign, a whole significand `m` and an exponent `e`; it stands for `± m · 2^e`.
Numbers are built by `ofRatio`, which rounds a ratio of whole numbers to the nearest double, a tie
going to the even significand, so every number built here has

* `e ≥ -1074` and `m < 2^53`;
* `m ≥ 2^52` unless `e = -1074`.

Nothing here goes through machine floating point, so each comparison and conversion is a statement
about whole numbers.
-/

namespace Dialogue

/-- A number in double precision. -/
inductive Binary64 where
  | nan
  | infinite (negative : Bool)
  | finite (negative : Bool) (significand : Nat) (exponent : Int)
deriving DecidableEq, Repr

namespace Binary64

/-! ## Powers -/

/-- The power `2^k`. -/
def twoTo (k : Nat) : Nat := Nat.pow 2 k

/-- The power `10^k`. -/
def tenTo (k : Nat) : Nat := Nat.pow 10 k

/-! ## Rounding -/

/-- The whole number nearest to `n / d`, the even one on a tie. -/
def roundHalfEven (n d : Nat) : Nat :=
  let q := n / d
  let twice := 2 * (n % d)
  if twice < d then q
  else if d < twice then q + 1
  else if q % 2 = 0 then q else q + 1

/-- The exponent `k` with `2^k ≤ n / d < 2^(k+1)`, for positive `n` and `d`. -/
def ratioExponent (n d : Nat) : Int :=
  let k : Int := (Nat.log2 n : Int) - Nat.log2 d
  let reached := if 0 ≤ k then d * twoTo k.toNat ≤ n else d ≤ n * twoTo (-k).toNat
  if reached then k else k - 1

/-- The least exponent of a double. -/
def minExponent : Int := -1074

/-- The greatest exponent of a finite double. -/
def maxExponent : Int := 971

def zero (negative : Bool) : Binary64 :=
  .finite negative 0 minExponent

/-- A rounded significand with its exponent, renormalised when rounding reached `2^53`. -/
def ofRounded (negative : Bool) (m : Nat) (e : Int) : Binary64 :=
  let (m, e) := if m = twoTo 53 then (twoTo 52, e + 1) else (m, e)
  if maxExponent < e then .infinite negative else .finite negative m e

/-- The double nearest to `± n / d`. -/
def ofRatio (negative : Bool) (n d : Nat) : Binary64 :=
  if n = 0 then zero negative
  else
    let e := max (ratioExponent n d - 52) minExponent
    let m :=
      if 0 ≤ e then roundHalfEven n (d * twoTo e.toNat)
      else roundHalfEven (n * twoTo (-e).toNat) d
    ofRounded negative m e

/-- The number of decimal digits of `n`. -/
def decimalLength (n : Nat) : Nat :=
  (Nat.toDigits 10 n).length

/-- The double nearest to `± digits · 10^power`. A magnitude of at least `10^309` is infinite and
one below `10^-324` is zero, so no power beyond that is formed. -/
def ofDecimal (negative : Bool) (digits : Nat) (power : Int) : Binary64 :=
  if digits = 0 then zero negative
  else
    let magnitude := power + decimalLength digits
    if 309 < magnitude then .infinite negative
    else if magnitude < -324 then zero negative
    else if 0 ≤ power then ofRatio negative (digits * tenTo power.toNat) 1
    else ofRatio negative digits (tenTo (-power).toNat)

/-- The double nearest to a whole number. -/
def ofInt (i : Int) : Binary64 :=
  ofRatio (i < 0) i.natAbs 1

/-! ## Order and wholeness -/

def isFinite : Binary64 → Bool
  | .finite .. => true
  | _ => false

/-- Whether the number is a zero of either sign. -/
def isZero : Binary64 → Bool
  | .finite _ m _ => m == 0
  | _ => false

/-- Whether the number is greater than zero. -/
def isPositive : Binary64 → Bool
  | .nan => false
  | .infinite negative => !negative
  | .finite negative m _ => !negative && m != 0

/-- Whether the number is at least zero; a zero of either sign is. -/
def isNonNegative : Binary64 → Bool
  | .nan => false
  | .infinite negative => !negative
  | .finite negative m _ => !negative || m == 0

/-- Whether the number is less than zero; a zero of either sign is not. -/
def isNegative : Binary64 → Bool
  | .nan => false
  | .infinite negative => negative
  | .finite negative m _ => negative && m != 0

/-- Whether the number is at most one. -/
def atMostOne : Binary64 → Bool
  | .nan => false
  | .infinite negative => negative
  | .finite negative m e =>
    negative || if 0 ≤ e then m * twoTo e.toNat ≤ 1 else m ≤ twoTo (-e).toNat

/-- Whether the number is greater than one. -/
def exceedsOne (x : Binary64) : Bool :=
  x != .nan && !x.atMostOne

/-- The whole number that a double equals, if it equals one. -/
def toInt? : Binary64 → Option Int
  | .finite negative m e =>
    let signed (n : Nat) : Int := if negative then -n else n
    if 0 ≤ e then some (signed (m * twoTo e.toNat))
    else if m % twoTo (-e).toNat = 0 then some (signed (m / twoTo (-e).toNat))
    else none
  | _ => none

/-- Numeric equality: the zeros are equal and nothing equals NaN. -/
def sameValue (x y : Binary64) : Bool :=
  match x, y with
  | .nan, _ => false
  | _, .nan => false
  | x, y => (x.isZero && y.isZero) || x == y

end Binary64

end Dialogue
