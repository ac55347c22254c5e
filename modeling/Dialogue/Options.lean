import Dialogue.Display
import Dialogue.Failure

/-!
# Dialogue.Options — sampling options

A temperature lies between zero and one; an absent option leaves the choice to the runtime. What is
sent is normalised: a temperature of zero and a limit that is not positive mean the same as none.
-/

namespace Dialogue

/-- A number as the caller gives it: a truth value counts as zero or one. -/
inductive Numeral where
  | bool (value : Bool)
  | int (value : Int)
  | float (value : Binary64)
deriving DecidableEq, Repr

namespace Numeral

def toJson : Numeral → Json
  | .bool b => .bool b
  | .int i => .int i
  | .float x => .float x

/-- The number that a JSON value is, if it is one. -/
def ofJson? : Json → Option Numeral
  | .bool b => some (.bool b)
  | .int i => some (.int i)
  | .float x => some (.float x)
  | _ => none

/-- The number in double precision. -/
def toBinary64 : Numeral → Binary64
  | .bool b => Binary64.ofInt (if b then 1 else 0)
  | .int i => Binary64.ofInt i
  | .float x => x

/-- Whether a whole number is too large for double precision. -/
def overflows : Numeral → Bool
  | .int i => !(Binary64.ofInt i).isFinite
  | _ => false

def isZero : Numeral → Bool
  | .bool b => !b
  | .int i => i == 0
  | .float x => x.isZero

def isPositive : Numeral → Bool
  | .bool b => b
  | .int i => 0 < i
  | .float x => x.isPositive

end Numeral

/-- Sampling options whose temperature has been checked. -/
structure Options where
  temperature : Option Numeral := none
  maxTokens : Option Numeral := none
deriving DecidableEq, Repr

namespace Options

/-- What is wrong with a temperature. -/
inductive Defect where
  | outOfRange (temperature : Numeral)
  | tooLarge
deriving DecidableEq, Repr

/-- Whether a temperature lies between zero and one. -/
def inRange (temperature : Numeral) : Bool :=
  let x := temperature.toBinary64
  x.isNonNegative && x.atMostOne

/-- Options with the given values; the temperature has to be in range. -/
def make (temperature maxTokens : Option Numeral) : Except Defect Options :=
  match temperature with
  | none => .ok ⟨none, maxTokens⟩
  | some t =>
    if t.overflows then .error .tooLarge
    else if inRange t then .ok ⟨some t, maxTokens⟩
    else .error (.outOfRange t)

/-- The options without the values that mean the same as none. -/
def normalized (o : Options) : Options where
  temperature := o.temperature.filter (!·.isZero)
  maxTokens := o.maxTokens.filter (·.isPositive)

/-- The options as entries of a request. -/
def toRequest (o : Options) : Json.Members :=
  let effective := o.normalized
  (effective.temperature.toList.map fun (t : Numeral) => ("temperature", t.toJson)) ++
    effective.maxTokens.toList.map fun (n : Numeral) => ("max_tokens", n.toJson)

end Options

end Dialogue
