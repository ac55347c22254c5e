import Dialogue.Journal.Defect
import Dialogue.Journal.Level

/-!
# Dialogue.Journal.Thresholds — the loggers of other libraries

Other libraries log through named loggers, which form a tree along the dots of their names. A logger
lets through what reaches its own threshold, or that of the nearest logger above it that has one;
the root has the last word. The journal receives what is let through.
-/

namespace Dialogue.Journal

/-- The thresholds of named loggers. -/
structure Thresholds where
  root : Int := 30
  named : List (String × Int) := []
deriving DecidableEq, Repr

namespace Thresholds

/-- The name of the root. -/
def rootName : String := "root"

def isRoot (name : String) : Bool := name == "" || name == rootName

/-- The numbers of the levels that can be given by name. -/
def levels : List (String × Int) :=
  [("CRITICAL", 50), ("FATAL", 50), ("ERROR", 40), ("WARN", 30), ("WARNING", 30), ("INFO", 20),
    ("DEBUG", 10), ("NOTSET", 0)]

/-- The threshold that a value stands for. -/
def ofJson : Json → Except Defect Int
  | .int i => .ok i
  | .bool b => .ok (if b then 1 else 0)
  | .str name =>
    match levels.lookup name with
    | some n => .ok n
    | none => .error (.unknownThreshold name)
  | j => .error (.thresholdKind j)

/-- Named thresholds with one set. -/
def put (name : String) (value : Int) : List (String × Int) → List (String × Int)
  | [] => [(name, value)]
  | (k, v) :: rest => if k = name then (k, value) :: rest else (k, v) :: put name value rest

/-- The threshold of a logger set. -/
def set (name : String) (value : Int) (t : Thresholds) : Thresholds :=
  if isRoot name then { t with root := value } else { t with named := put name value t.named }

/-- The thresholds of several loggers set in order, up to the first that cannot be. -/
def setAll : List (String × Json) → Thresholds → Thresholds × Option Defect
  | [], t => (t, none)
  | (name, value) :: rest, t =>
    match ofJson value with
    | .ok n => setAll rest (t.set name n)
    | .error d => (t, some d)

/-- The own threshold of a logger; zero when it has none. -/
def own (name : String) (t : Thresholds) : Int :=
  if isRoot name then t.root else (t.named.lookup name).getD 0

/-- The names of a logger and of all above it but the root, the nearest first. -/
def chain (name : List Char) : List String :=
  let above := (List.range name.length).reverse.filterMap fun i =>
    if name[i]? = some '.' then some (String.ofList (name.take i)) else none
  String.ofList name :: above

/-- The threshold that counts for a logger. -/
def effective (name : String) (t : Thresholds) : Int :=
  if isRoot name then t.root
  else (((chain name.toList).map t.own).find? (· != 0)).getD t.root

/-- Whether a logger lets a record of the given severity through. -/
def admits (name : String) (severity : Int) (t : Thresholds) : Bool :=
  0 < severity && t.effective name ≤ severity

end Thresholds

end Dialogue.Journal
