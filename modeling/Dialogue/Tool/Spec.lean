import Dialogue.Json.Printer
import Dialogue.Display
import Dialogue.Text.Blank

/-!
# Dialogue.Tool.Spec — tools that a model may call

A tool has a name, a description for the model and a schema for its arguments. A tool is made from
its parts, from a JSON payload (flat, or nested under `function`), or from a record whose schema is
known. No tool is without a name.
-/

namespace Dialogue

/-- A tool offered to the model. -/
structure ToolSpec where
  name : String
  description : String := ""
  parameters : Json.Members := [("type", .str "object")]
  name_ne : name ≠ "" := by decide

namespace ToolSpec

/-- Why something is not a tool. -/
inductive Defect where
  | unnamed
  /-- The payload has no members to read. -/
  | noMembers (kind : String)
  /-- The parameters are not a collection. -/
  | notIterable (kind : String)
  /-- An entry of a list of parameters is no pair. -/
  | entryLength (position length : Nat)
  | entryKind (position : Nat)
  /-- A container cannot name a parameter. -/
  | unusableKey (kind : String)
deriving DecidableEq, Repr

/-- The wording of a defect. -/
def Defect.message : Defect → String
  | .unnamed => "tool.name is required"
  | .noMembers kind => s!"'{kind}' object has no attribute 'get'"
  | .notIterable kind => s!"'{kind}' object is not iterable"
  | .entryLength position length =>
    s!"dictionary update sequence element #{position} has length {length}; 2 is required"
  | .entryKind position =>
    s!"cannot convert dictionary update sequence element #{position} to a sequence"
  | .unusableKey kind => s!"unhashable type: '{kind}'"

/-- The parameters of a tool that says nothing about them. -/
def defaultParameters : Json.Members := [("type", .str "object")]

/-- A tool with the given name, which must not be empty. -/
def make (name : String) (description : String := "")
    (parameters : Json.Members := defaultParameters) : Except Defect ToolSpec :=
  if h : name = "" then .error .unnamed else .ok ⟨name, description, parameters, h⟩

/-! ## Parameters from a payload -/

/-- The number that a value is as a key: a whole number, as false, true and a whole double are too,
or any other double. -/
def keyNumber? : Json → Option (Int ⊕ Binary64)
  | .bool b => some (.inl (if b then 1 else 0))
  | .int i => some (.inl i)
  | .float x =>
    match x.toInt? with
    | some i => some (.inl i)
    | none => some (.inr x)
  | _ => none

/-- Whether two values name the same parameter: numbers count by their exact value, whatever their
kind. -/
def sameKey (a b : Json) : Bool :=
  match a, b with
  | .str s, .str t => s == t
  | .null, .null => true
  | a, b =>
    match keyNumber? a, keyNumber? b with
    | some (.inl i), some (.inl j) => i == j
    | some (.inr x), some (.inr y) => x.sameValue y
    | _, _ => false

/-- The elements of a value that can be walked through. -/
def walk? : Json → Option (List Json)
  | .arr elements => some elements
  | .str text => some (text.toList.map fun c => .str (String.ofList [c]))
  | .obj members => some (members.map fun (key, _) => .str key)
  | _ => none

/-- Entries with `key` bound to `value`: in its old place when the key is there, else last. -/
def putEntry (key value : Json) : List (Json × Json) → List (Json × Json)
  | [] => [(key, value)]
  | (k, v) :: rest =>
    if sameKey k key then (k, value) :: rest else (k, v) :: putEntry key value rest

/-- The entries that pairs write, from the given position on. -/
def collectPairs (position : Nat) (done : List (Json × Json)) :
    List Json → Except Defect (List (Json × Json))
  | [] => .ok done
  | item :: rest =>
    match walk? item with
    | none => .error (.entryKind position)
    | some [.arr _, _] => .error (.unusableKey "list")
    | some [.obj _, _] => .error (.unusableKey "dict")
    | some [key, value] => collectPairs (position + 1) (putEntry key value done) rest
    | some items => .error (.entryLength position items.length)

/-- The text that a key has as the name of a member. -/
def keyText : Json → String
  | .str text => text
  | j => j.compact

/-- The parameters that a payload gives: an object, or pairs of a key and a value. -/
def parametersOf (payload : Option Json) : Except Defect Json.Members :=
  match payload.bind Json.given? with
  | none => .ok defaultParameters
  | some (.obj members) => .ok members
  | some j =>
    match walk? j with
    | none => .error (.notIterable j.kindName)
    | some items => do
      let entries ← collectPairs 0 [] items
      return entries.map fun (key, value) => (keyText key, value)

/-! ## Tools from payloads and records -/

/-- The text of a member, empty when it is not given. -/
def textOf (payload : Option Json) : String :=
  match payload.bind Json.given? with
  | some j => j.shown
  | none => ""

/-- The tool that the members of a payload describe. -/
def ofMembers (members : Json.Members) : Except Defect ToolSpec := do
  let name := textOf (members.lookup "name")
  let description := textOf (members.lookup "description")
  make name description (← parametersOf (members.lookup "parameters"))

/-- The tool that a payload describes, directly or under `function`. -/
def ofJson : Json → Except Defect ToolSpec
  | .obj members =>
    match members.lookup "function" with
    | some (.obj inner) => ofMembers inner
    | _ => ofMembers members
  | j => .error (.noMembers j.kindName)

/-- A tool as a caller passes it: made, or described by a payload. -/
inductive Input where
  | made (t : ToolSpec)
  | described (payload : Json)

/-- The tool that a caller passed. -/
def Input.read : Input → Except Defect ToolSpec
  | .made t => .ok t
  | .described payload => ofJson payload

/-- The tools that a caller passed. -/
def readInputs (inputs : List Input) : Except Defect (List ToolSpec) :=
  inputs.mapM Input.read

/-- A schema closed to undeclared properties, unless it says something about them itself. -/
def strict (schema : Json.Members) : Json.Members :=
  if (schema.lookup "additionalProperties").isSome then schema
  else schema ++ [("additionalProperties", .bool false)]

/-- The tool whose arguments are a record with the given schema. Without a description of its own it
takes the record's. -/
def ofRecord (name : String) (description doc : Option String) (schema : Json.Members) :
    Except Defect ToolSpec :=
  let own := description.getD ""
  make name (if own = "" then Text.strip (doc.getD "") else own) (strict schema)

/-! ## Texts of a tool -/

/-- The paragraph that tells the model about a tool. -/
def describe (t : ToolSpec) : String :=
  let description := if t.description = "" then "No description provided" else t.description
  s!"Tool: {t.name}\nDescription: {description}\nParameters: " ++ (Json.obj t.parameters).indented

/-- The tool as a chat server takes it. -/
def toJson (t : ToolSpec) : Json :=
  .obj [("type", .str "function"),
    ("function", .obj [("name", .str t.name), ("description", .str t.description),
      ("parameters", .obj t.parameters)])]

end ToolSpec

end Dialogue
