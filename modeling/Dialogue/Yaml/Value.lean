import Dialogue.Yaml.Node
import Dialogue.Yaml.Scalar

/-!
# Dialogue.Yaml.Value — the values of documents

`Yaml.read` gives a document as a JSON value. Keys that are no text are left out, and a mapping may
merge others in: their entries come first, and its own count where both have a key.

* JSON has no dates; the reader is told what stands for a date at which depth.
* Of several flaws the one nearest to the root is reported, and of those the first.
* JSON has no sets, ordered mappings, lists of pairs or bytes either. Nothing stands for them: what
  the tags `!!set`, `!!omap`, `!!pairs` and `!!binary` make of a node is left out, although a
  document may hold it, and a document with one of them is read as malformed.
-/

namespace Dialogue.Yaml

/-- Why a text has no value. -/
inductive Flaw where
  | malformed
  /-- A scalar has the form of a number or of a date, and is none. -/
  | badScalar (message : String)
deriving DecidableEq, Repr

/-- A part of a value, or a flaw and its depth. -/
abbrev Found (α : Type) := Except (Nat × Flaw) α

namespace Found

variable {α β γ : Type}

def malformed (depth : Nat) : Found α := .error (depth, .malformed)

/-- Two parts put together; of two flaws the one nearer to the root counts. -/
def both (join : α → β → γ) : Found α → Found β → Found γ
  | .ok a, .ok b => .ok (join a b)
  | .ok _, .error e => .error e
  | .error e, .ok _ => .error e
  | .error e, .error e' => .error (if e'.1 < e.1 then e' else e)

end Found

/-! ## Scalars -/

/-- The kinds of nodes that a tag may name. -/
def tagHead : String := "tag:yaml.org,2002:"

/-- Whether a tag, if there is one, leaves a collection what it is. The tags that make a set, an
ordered mapping or a list of pairs of one do not. -/
def isTagOf (name : String) : Option String → Bool
  | none => true
  | some tag => tag == "!" || tag == tagHead ++ name

/-- The kinds of scalars by the names of their tags. Bytes are left out. -/
def Scalar.kindNames : List (String × Scalar.Kind) :=
  [("null", .null), ("bool", .bool), ("int", .int), ("float", .float), ("timestamp", .date),
    ("merge", .merge), ("value", .default), ("str", .text)]

/-- Whether a text may be read as a kind that a tag names. -/
def Scalar.suits (text : String) : Scalar.Kind → Bool
  | .null => true
  | .text => true
  | .float => kindOf text == .float || kindOf text == .int
  | kind => kindOf text == kind

/-- The kind of a scalar with a tag. -/
def Scalar.taggedKind? (tag text : String) : Option Scalar.Kind :=
  (kindNames.find? fun (name, _) => tagHead ++ name == tag).bind fun (_, kind) =>
    if suits text kind then some kind else none

/-- The kind of a scalar; one in quotes is a text unless a tag says otherwise. -/
def Scalar.kind? (tag : Option String) (plain : Bool) (text : String) : Option Scalar.Kind :=
  match tag with
  | none => some (if plain then kindOf text else .text)
  | some "!" => some (kindOf text)
  | some tag => taggedKind? tag text

/-- The value of a scalar of some kind. -/
def Scalar.value (date : Json) (text : String) : Scalar.Kind → Except Flaw Json
  | .null => .ok .null
  | .bool => .ok (.bool (trueWords.contains text))
  | .int => (intValue text.toList).map .int |>.mapError .badScalar
  | .float => .ok (.float (floatValue text.toList))
  | .date =>
    match (readDate? text.toList).bind Date.flaw? with
    | some flaw => .error (.badScalar flaw)
    | none => .ok date
  | .text => .ok (.str text)
  | .merge => .error .malformed
  | .default => .error .malformed

namespace Node

/-- The kind of a node that is a scalar. -/
def scalarKind? : Node → Option Scalar.Kind
  | .scalar tag plain text => Scalar.kind? tag plain text
  | _ => none

/-- A scalar's value. -/
def scalarValue (dateAt : Nat → Json) (depth : Nat) (tag : Option String) (plain : Bool)
    (text : String) : Found Json :=
  match Scalar.kind? tag plain text with
  | some kind => (Scalar.value (dateAt depth) text kind).mapError (depth, ·)
  | none => .malformed depth

/-! ## Collections -/

/-- An entry of a mapping; a key that is no text is none. -/
abbrev Pair := Option String × Json

/-- The key that a node is. A collection cannot be a key, and the sign of a default value can. -/
def keyOf (dateAt : Nat → Json) (depth : Nat) : Node → Found (Option String)
  | .scalar tag plain text =>
    if Scalar.kind? tag plain text == some .default then .ok (some text)
    else (scalarValue dateAt depth tag plain text).map Json.text?
  | _ => .malformed depth

/-- Whether a key says that the mapping behind it is merged in. -/
def isMergeKey (key : Node) : Bool := key.scalarKind? == some .merge

/-- The members that entries give: a later entry takes the place of an earlier one. -/
def membersOf (pairs : List Pair) : Json.Members :=
  pairs.foldl (fun members pair =>
    match pair with
    | (some key, value) => Json.put key value members
    | (none, _) => members) []

mutual

/-- The value of a node at a depth. -/
def value (dateAt : Nat → Json) (depth : Nat) : Node → Found Json
  | .scalar tag plain text => scalarValue dateAt depth tag plain text
  | .sequence tag items =>
    if isTagOf "seq" tag then (values dateAt (depth + 1) items).map .arr else .malformed depth
  | .mapping tag entries =>
    if isTagOf "map" tag then
      (pairs dateAt (depth + 1) entries).map fun (merged, own) => .obj (membersOf (merged ++ own))
    else .malformed depth

/-- The values of the elements of a sequence. -/
def values (dateAt : Nat → Json) (depth : Nat) : List Node → Found (List Json)
  | [] => .ok []
  | item :: rest => .both List.cons (value dateAt depth item) (values dateAt depth rest)

/-- The entries of a mapping: those merged in, and its own. -/
def pairs (dateAt : Nat → Json) (depth : Nat) : List (Node × Node) → Found (List Pair × List Pair)
  | [] => .ok ([], [])
  | (key, node) :: rest =>
    if isMergeKey key then
      .both (fun first (merged, own) => (first ++ merged, own)) (mergedFrom dateAt depth node)
        (pairs dateAt depth rest)
    else
      .both (fun pair (merged, own) => (merged, pair :: own))
        (.both Prod.mk (keyOf dateAt depth key) (value dateAt depth node)) (pairs dateAt depth rest)

/-- The entries that a mapping gives to the one it is merged into, or several, the last first. -/
def mergedFrom (dateAt : Nat → Json) (depth : Nat) : Node → Found (List Pair)
  | .mapping _ entries =>
    (pairs dateAt depth entries).map fun (merged, own) => merged ++ own
  | .sequence _ items => mergedFromAll dateAt depth items
  | .scalar .. => .malformed depth

/-- The entries that several mappings give, the last mapping first. -/
def mergedFromAll (dateAt : Nat → Json) (depth : Nat) : List Node → Found (List Pair)
  | [] => .ok []
  | .mapping _ entries :: rest =>
    .both (fun (merged, own) later => later ++ (merged ++ own)) (pairs dateAt depth entries)
      (mergedFromAll dateAt depth rest)
  | _ :: _ => .malformed depth

end

end Node

/-! ## Documents -/

/-- The value of a text; that of an empty one is null. -/
def read (dateAt : Nat → Json) (text : String) : Except Flaw Json :=
  match readDocument text with
  | none => .error .malformed
  | some none => .ok .null
  | some (some root) => (root.value dateAt 0).mapError (·.2)

end Dialogue.Yaml
