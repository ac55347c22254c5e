import Dialogue.Number.Binary64

/-!
# Dialogue.Number.Shortest — the fewest digits that read back

The reals that round to a finite double form an interval around it, whose ends belong to it when
the significand is even. `shortest` gives the decimal with the fewest digits inside that interval,
and of those the nearest to the number: for 1, 2, … 17 digits it looks at the two neighbours of the
number on the grid of decimals with that many digits, and the first grid with a neighbour inside
the interval wins.
-/

namespace Dialogue.Binary64

/-- A decimal `digits · 10^power`. -/
structure Decimal where
  digits : Nat
  power : Int
deriving DecidableEq, Repr

/-- A positive ratio `num / den`. -/
structure Ratio where
  num : Nat
  den : Nat
deriving DecidableEq, Repr

/-- The ratio `n · 2^e`. -/
def Ratio.scaled (n : Nat) (e : Int) : Ratio :=
  if 0 ≤ e then ⟨n * twoTo e.toNat, 1⟩ else ⟨n, twoTo (-e).toNat⟩

/-- The value of a decimal as a ratio. -/
def Decimal.toRatio (d : Decimal) : Ratio :=
  if 0 ≤ d.power then ⟨d.digits * tenTo d.power.toNat, 1⟩ else ⟨d.digits, tenTo (-d.power).toNat⟩

def Ratio.le (x y : Ratio) : Bool := x.num * y.den ≤ y.num * x.den

def Ratio.lt (x y : Ratio) : Bool := x.num * y.den < y.num * x.den

/-- The greatest whole number of steps of `10^k` that does not exceed the ratio. -/
def Ratio.floorAt (x : Ratio) (k : Int) : Nat :=
  if 0 ≤ k then x.num / (x.den * tenTo k.toNat) else x.num * tenTo (-k).toNat / x.den

/-- The power `k` with `10^k ≤ x < 10^(k+1)`, for a positive ratio. The estimate from the binary
exponent is off by one at most. -/
def Ratio.decimalExponent (x : Ratio) : Int :=
  let k := ratioExponent x.num x.den * 30103 / 100000
  if x.lt (Decimal.toRatio ⟨1, k⟩) then k - 1
  else if x.lt (Decimal.toRatio ⟨1, k + 1⟩) then k
  else k + 1

/-- The reals that round to one double. -/
structure Interval where
  low : Ratio
  high : Ratio
  closed : Bool
deriving DecidableEq, Repr

/-- The interval of `m · 2^e`. Below a power of two the doubles lie twice as close. -/
def interval (m : Nat) (e : Int) : Interval where
  low :=
    if m = twoTo 52 ∧ minExponent < e then Ratio.scaled (4 * m - 1) (e - 2)
    else Ratio.scaled (4 * m - 2) (e - 2)
  high := Ratio.scaled (4 * m + 2) (e - 2)
  closed := m % 2 = 0

def Interval.contains (i : Interval) (x : Ratio) : Bool :=
  if i.closed then i.low.le x && x.le i.high else i.low.lt x && x.lt i.high

/-- Whether `c` steps of `10^k` lie at least as near to `x` as `c + 1` steps. -/
def lowerIsNearer (x : Ratio) (c : Nat) (k : Int) : Bool :=
  let mid := Decimal.toRatio ⟨10 * c + 5, k - 1⟩
  if x.lt mid then true else if mid.lt x then false else c % 2 == 0

/-- The neighbour of `x` on the grid of `10^k` that lies in the interval, the nearer of two. -/
def neighbour? (i : Interval) (x : Ratio) (k : Int) : Option Decimal :=
  let c := x.floorAt k
  let down : Decimal := ⟨c, k⟩
  let up : Decimal := ⟨c + 1, k⟩
  match i.contains down.toRatio, i.contains up.toRatio with
  | true, true => some (if lowerIsNearer x c k then down else up)
  | true, false => some down
  | false, true => some up
  | false, false => none

/-- The decimal with the fewest digits that rounds to `m · 2^e`, for a positive significand. -/
def shortest (m : Nat) (e : Int) : Decimal :=
  let x := Ratio.scaled m e
  let top := x.decimalExponent
  let found := (List.range 17).findSome? fun (n : Nat) => neighbour? (interval m e) x (top - n)
  found.getD ⟨x.floorAt (top - 16), top - 16⟩

/-- The same value with no zero at the end of the digits, given their number. -/
def Decimal.trim : Nat → Decimal → Decimal
  | 0, d => d
  | n + 1, d =>
    if d.digits ≠ 0 ∧ d.digits % 10 = 0 then trim n ⟨d.digits / 10, d.power + 1⟩ else d

end Dialogue.Binary64
