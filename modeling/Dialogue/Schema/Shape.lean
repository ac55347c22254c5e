import Dialogue.Json.Value

/-!
# Dialogue.Schema.Shape — what a model may be held to

A `Shape` is a tree of constraints on a JSON value. The same tree is used before and after its
parts have been named: `ν` is what an object, an enumeration or a union carries as its label, and
`ρ` is what a reference points with.

* `Draft` — as a document gives it: labels are optional titles, references are unread values.
* `Node` — as a runtime uses it: every label and every reference is a name.

`render` writes a shape as a schema document. It looks at no label, so how parts are named cannot
show in a rendered schema.
-/

namespace Dialogue.Schema

/-- The types that constrain a value by its kind alone. -/
inductive Scalar where
  | string
  | number
  | integer
  | boolean
deriving DecidableEq, Repr

/-- The name of a scalar type in a schema document. -/
def Scalar.name : Scalar → String
  | .string => "string"
  | .number => "number"
  | .integer => "integer"
  | .boolean => "boolean"

/-- One property of an object. -/
structure Property (α : Type) where
  name : String
  shape : α
  description : Option String
  optional : Bool
deriving Repr

/-- A constraint on a JSON value. -/
inductive Shape (ρ ν : Type) where
  | scalar (kind : Scalar)
  | literal (value : String)
  | array (element : Shape ρ ν) (least most : Option Nat)
  | object (label : ν) (properties : List (Property (Shape ρ ν)))
  | enumeration (label : ν) (values : List String)
  | union (label : ν) (variants : List (Shape ρ ν))
  | reference (target : ρ)
deriving Repr

/-- A shape whose parts are still unnamed; a label is the title that the document gives. -/
abbrev Draft := Shape Json (Option String)

/-- A shape whose parts are named. -/
abbrev Node := Shape String String

/-- A string that no document constrains further. -/
def Shape.anyString {ρ ν : Type} : Shape ρ ν := .scalar .string

/-- The property of an object shape with the given name. -/
def Shape.property? {ρ ν : Type} (name : String) : Shape ρ ν → Option (Property (Shape ρ ν))
  | .object _ properties => properties.find? (·.name == name)
  | _ => none

/-- The kind of a shape, in one word. -/
def Shape.kindName {ρ ν : Type} : Shape ρ ν → String
  | .scalar kind => kind.name
  | .literal _ => "literal"
  | .array .. => "array"
  | .object .. => "object"
  | .enumeration .. => "enum"
  | .union .. => "union"
  | .reference _ => "reference"

/-- The name that a node carries: its label, or the name that it refers to. -/
def Shape.name? : Node → Option String
  | .object name _ => some name
  | .enumeration name _ => some name
  | .union name _ => some name
  | .reference name => some name
  | _ => none

/-! ## Rendering -/

/-- The document of a string held to the given values. -/
def renderValues (values : List String) : Json :=
  .obj [("type", .str "string"), ("enum", .arr (values.map .str))]

/-- A bound on the length of an array, if there is one. -/
def renderBound (key : String) (bound : Option Nat) : Json.Members :=
  bound.toList.map fun (n : Nat) => (key, .int n)

/-- A property's document with the property's description, if there is one to show. -/
def describe (description : Option String) (document : Json) : Json :=
  match description, document with
  | some text, .obj members =>
    if text = "" then document else .obj (members ++ [("description", .str text)])
  | _, _ => document

/-- The list of the properties that an object must have, if there are any. -/
def renderRequired (names : List String) : Json.Members :=
  if names.isEmpty then [] else [("required", .arr (names.map .str))]

/-- The names of the properties that are not optional. -/
def requiredNames {α : Type} (properties : List (Property α)) : List String :=
  (properties.filter (!·.optional)).map (·.name)

/-- The document that refers to a definition. -/
def renderReference (name : String) : Json :=
  .obj [("$ref", .str ("#/$defs/" ++ name))]

mutual

/-- The schema document of a shape. -/
def render {ν : Type} : Shape String ν → Json
  | .scalar kind => .obj [("type", .str kind.name)]
  | .literal value => renderValues [value]
  | .array element least most =>
    .obj ([("type", .str "array"), ("items", render element)] ++
      renderBound "minItems" least ++ renderBound "maxItems" most)
  | .object _ properties =>
    .obj ([("type", .str "object"), ("properties", .obj (renderProperties properties)),
      ("additionalProperties", .bool false)] ++ renderRequired (requiredNames properties))
  | .enumeration _ values => renderValues values
  | .union _ variants => .obj [("anyOf", .arr (renderVariants variants))]
  | .reference name => renderReference name

/-- The documents of an object's properties, by name. -/
def renderProperties {ν : Type} : List (Property (Shape String ν)) → Json.Members
  | [] => []
  | ⟨name, shape, description, _⟩ :: rest =>
    (name, describe description (render shape)) :: renderProperties rest

/-- The documents of a union's variants. -/
def renderVariants {ν : Type} : List (Shape String ν) → List Json
  | [] => []
  | shape :: rest => render shape :: renderVariants rest

end

end Dialogue.Schema
