import Dialogue.Number.Binary64

/-!
# Dialogue.Json.Value — JSON values

Objects keep the order of their members, and a whole number and a double are different values even
when they are numerically equal.
-/

namespace Dialogue

/-- A JSON value. -/
inductive Json where
  | null
  | bool (value : Bool)
  | int (value : Int)
  | float (value : Binary64)
  | str (text : String)
  | arr (elements : List Json)
  | obj (members : List (String × Json))
deriving Repr, Inhabited

namespace Json

/-- The members of an object, in order. -/
abbrev Members := List (String × Json)

/-- The members with `key` bound to `value`: in its old place when the key is there, else last. -/
def put (key : String) (value : Json) : Members → Members
  | [] => [(key, value)]
  | (k, v) :: rest => if k = key then (k, value) :: rest else (k, v) :: put key value rest

/-- The value of a member, for an object that has it. -/
def get? (key : String) : Json → Option Json
  | .obj members => members.lookup key
  | _ => none

/-- The text of a string value. -/
def text? : Json → Option String
  | .str text => some text
  | _ => none

/-- The elements of an array. -/
def elements? : Json → Option (List Json)
  | .arr elements => some elements
  | _ => none

/-- The members of an object. -/
def members? : Json → Option Members
  | .obj members => some members
  | _ => none

/-- Whether a value counts as given: null, false, zeros and empty texts and containers do not. -/
def isGiven : Json → Bool
  | .null => false
  | .bool b => b
  | .int i => i != 0
  | .float x => !x.isZero
  | .str s => s != ""
  | .arr elements => !elements.isEmpty
  | .obj members => !members.isEmpty

/-- The value if it counts as given. -/
def given? (j : Json) : Option Json :=
  if j.isGiven then some j else none

/-- The name of a value's kind, as messages give it. -/
def kindName : Json → String
  | .null => "NoneType"
  | .bool _ => "bool"
  | .int _ => "int"
  | .float _ => "float"
  | .str _ => "str"
  | .arr _ => "list"
  | .obj _ => "dict"

/-! ## Deciding equality -/

mutual

/-- Decides whether two values are the same. -/
def decEq (a b : Json) : Decidable (a = b) :=
  if kind : a.ctorIdx = b.ctorIdx then
    match a, b, kind with
    | .null, .null, _ => isTrue rfl
    | .bool x, .bool y, _ => decidable_of_iff (x = y) (by simp)
    | .int x, .int y, _ => decidable_of_iff (x = y) (by simp)
    | .float x, .float y, _ => decidable_of_iff (x = y) (by simp)
    | .str x, .str y, _ => decidable_of_iff (x = y) (by simp)
    | .arr xs, .arr ys, _ => @decidable_of_iff _ (xs = ys) (by simp) (decEqElements xs ys)
    | .obj ms, .obj ns, _ => @decidable_of_iff _ (ms = ns) (by simp) (decEqMembers ms ns)
  else isFalse fun same => kind (congrArg Json.ctorIdx same)

/-- Decides whether two arrays have the same elements. -/
def decEqElements : (xs ys : List Json) → Decidable (xs = ys)
  | [], [] => isTrue rfl
  | [], _ :: _ => isFalse (by simp)
  | _ :: _, [] => isFalse (by simp)
  | x :: xs, y :: ys =>
    @decidable_of_iff _ (x = y ∧ xs = ys) (by simp)
      (@instDecidableAnd _ _ (decEq x y) (decEqElements xs ys))

/-- Decides whether two objects have the same members in the same order. -/
def decEqMembers : (ms ns : List (String × Json)) → Decidable (ms = ns)
  | [], [] => isTrue rfl
  | [], _ :: _ => isFalse (by simp)
  | _ :: _, [] => isFalse (by simp)
  | (k, x) :: ms, (l, y) :: ns =>
    @decidable_of_iff _ (k = l ∧ x = y ∧ ms = ns) (by simp [and_assoc])
      (@instDecidableAnd _ _ _ (@instDecidableAnd _ _ (decEq x y) (decEqMembers ms ns)))

end

instance : DecidableEq Json := decEq

end Json

end Dialogue
