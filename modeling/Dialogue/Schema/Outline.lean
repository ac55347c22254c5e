import Dialogue.Schema.Shape

/-!
# Dialogue.Schema.Outline — compiled schemas as records

The outline of a node is a record that says its kind, its name if it has one, and the outlines of
its parts. It shows the names that a rendered schema does not.
-/

namespace Dialogue.Schema

/-- A value that may be missing. -/
def orNull {α : Type} (f : α → Json) : Option α → Json
  | some a => f a
  | none => .null

/-- A length that an array may be bound by. -/
def outlineBound (bound : Option Nat) : Json := orNull (fun n => .int n) bound

/-- The outline of a property whose node has one. -/
def outlineProperty (p : Property Json) : Json :=
  .obj [("name", .str p.name), ("node", p.shape), ("description", orNull .str p.description),
    ("optional", .bool p.optional)]

mutual

/-- The outline of a node. -/
def outline : Node → Json
  | .scalar kind => .obj [("kind", .str kind.name)]
  | .literal value => .obj [("kind", .str "literal"), ("value", .str value)]
  | .array element least most =>
    .obj [("kind", .str "array"), ("element", outline element), ("min_items", outlineBound least),
      ("max_items", outlineBound most)]
  | .object name properties =>
    .obj [("kind", .str "object"), ("name", .str name),
      ("properties", .arr (outlineProperties properties))]
  | .enumeration name values =>
    .obj [("kind", .str "enum"), ("name", .str name), ("values", .arr (values.map .str))]
  | .union name variants =>
    .obj [("kind", .str "union"), ("name", .str name),
      ("variants", .arr (outlineVariants variants))]
  | .reference name => .obj [("kind", .str "reference"), ("name", .str name)]

/-- The outlines of an object's properties. -/
def outlineProperties : List (Property Node) → List Json
  | [] => []
  | ⟨name, shape, description, optional⟩ :: rest =>
    outlineProperty ⟨name, outline shape, description, optional⟩ :: outlineProperties rest

/-- The outlines of a union's variants. -/
def outlineVariants : List Node → List Json
  | [] => []
  | shape :: rest => outline shape :: outlineVariants rest

end

/-- The outline of one property. -/
def Property.outline (p : Property Node) : Json :=
  outlineProperty { p with shape := Schema.outline p.shape }

end Dialogue.Schema
