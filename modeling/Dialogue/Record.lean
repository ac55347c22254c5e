import Dialogue.Lenient
import Dialogue.Text.Case

/-!
# Dialogue.Record — records that structured results are checked against

A `RecordType` either lists its fields, or comes with a schema document of its own and no fields.
It has a schema, which a model can be held to, and a check, which turns a JSON object into the
record's value with every field in the order of declaration.
-/

namespace Dialogue

/-- The type of a field's values. -/
inductive RecordType.FieldKind where
  | text
  | whole
  | number
  | flag
deriving DecidableEq, Repr

/-- One field of a record; an optional field may be null and is null when it is left out. -/
structure RecordType.Field where
  name : String
  kind : RecordType.FieldKind
  optional : Bool
deriving DecidableEq, Repr

/-- What a record is made of. -/
inductive RecordType.Form where
  | document (schema : Json)
  | fields (fields : List RecordType.Field)
deriving Repr

/-- A type of records. -/
structure RecordType where
  name : String
  doc : Option String
  form : RecordType.Form
deriving Repr

namespace RecordType

/-! ## The schema of a record -/

/-- The type of a field in a schema. -/
def FieldKind.schemaType : FieldKind → String
  | .text => "string"
  | .whole => "integer"
  | .number => "number"
  | .flag => "boolean"

/-- The title of a field: its name in words. -/
def Field.title (f : Field) : String :=
  Text.title (f.name.map fun c => if c = '_' then ' ' else c)

/-- The schema of a field. -/
def Field.schema (f : Field) : Json :=
  let type : Json := .str f.kind.schemaType
  if f.optional then
    .obj [("anyOf", .arr [.obj [("type", type)], .obj [("type", .str "null")]]),
      ("default", .null), ("title", .str f.title)]
  else .obj [("title", .str f.title), ("type", type)]

/-- The schema of a record. -/
def schema (r : RecordType) : Json :=
  match r.form with
  | .document schema => schema
  | .fields fields =>
    let description : Json.Members :=
      (r.doc.filter (· != "")).toList.map fun doc => ("description", .str doc)
    let required := (fields.filter (!·.optional)).map (·.name)
    let requiredEntry : Json.Members :=
      if required.isEmpty then [] else [("required", .arr (required.map .str))]
    .obj (description ++ [("properties", .obj (fields.map fun f => (f.name, f.schema)))] ++
      requiredEntry ++ [("title", .str r.name), ("type", .str "object")])

/-! ## Checking a value -/

/-- The value of a field of the given kind. -/
def FieldKind.convert : FieldKind → Lenient.Conversion Json
  | .text => fun j => (Lenient.text j).map .str
  | .whole => fun j => (Lenient.int j).map .int
  | .number => fun j => (Lenient.float j).map .float
  | .flag => fun j => (Lenient.bool j).map .bool

/-- The value that the members give to a field. -/
def Field.check (members : Json.Members) (f : Field) : Lenient.Checked (String × Json) :=
  match members.lookup f.name with
  | some j =>
    if f.optional && j matches .null then .ok (f.name, .null)
    else (Lenient.placed [.key f.name] f.kind.convert j).map fun v => (f.name, v)
  | none => if f.optional then .ok (f.name, .null) else .error [⟨[.key f.name], .missing⟩]

/-- The values of all fields, or everything that is wrong with them. -/
def checkFields (members : Json.Members) : List Field → Lenient.Checked Json.Members
  | [] => .ok []
  | f :: rest =>
    (Lenient.both (f.check members) (checkFields members rest)).map fun (v, vs) => v :: vs

/-- The record that a value describes. -/
def check (r : RecordType) : Json → Lenient.Checked Json
  | .obj members =>
    match r.form with
    | .document _ => .ok (.obj [])
    | .fields fields => (checkFields members fields).map .obj
  | _ => .error [⟨[], .modelType⟩]

end RecordType

end Dialogue
