import Dialogue.Schema.Fragment
import Dialogue.Failure

/-!
# Dialogue.Schema.Reference — references into a document's definitions

A reference is a text `#/definitions/N` or `#/$defs/N` where `N` is a defined name without a slash.
`Shape.resolve` replaces each reference of a draft by the name it points to, in reading order, and
stops at the first that points nowhere.
-/

namespace Dialogue.Schema

/-- What is wrong with a reference. -/
inductive BadReference where
  | notText (target : Json)
  | outside (target : String)
  | undefined (target : String)
deriving Repr

/-- The failure that a bad reference causes. -/
def BadReference.failure : BadReference → Failure
  | .notText target => .invalidSchema "$ref must be a string" [("ref", .str target.quoted)]
  | .outside target =>
    .invalidSchema s!"$ref must point into #/definitions/: {target}" [("ref", .str target)]
  | .undefined target =>
    .invalidSchema s!"unresolved reference: {target}" [("ref", .str target)]

/-- What a reference to a definition starts with. -/
def referenceHeads : List String := ["#/definitions/", "#/$defs/"]

/-- The text after the first of the heads that the text starts with. -/
def afterHead? (target : String) : Option String :=
  referenceHeads.findSome? fun head =>
    if head.toList.isPrefixOf target.toList then
      some (String.ofList (target.toList.drop head.length))
    else none

/-- The defined name that a reference points to. -/
def referenceName (defined : List String) : Json → Except BadReference String
  | .str target =>
    match afterHead? target with
    | none => .error (.outside target)
    | some name =>
      if name = "" ∨ name.toList.contains '/' then .error (.outside target)
      else if defined.contains name then .ok name
      else .error (.undefined target)
  | target => .error (.notText target)

mutual

/-- The shape with every reference replaced by the name it points to. -/
def Shape.resolve {ν : Type} (defined : List String) :
    Shape Json ν → Except BadReference (Shape String ν)
  | .scalar kind => .ok (.scalar kind)
  | .literal value => .ok (.literal value)
  | .array element least most => do
    return .array (← Shape.resolve defined element) least most
  | .object label properties => do
    return .object label (← resolveProperties defined properties)
  | .enumeration label values => .ok (.enumeration label values)
  | .union label variants => do
    return .union label (← resolveVariants defined variants)
  | .reference target => do
    return .reference (← referenceName defined target)

/-- The properties with every reference resolved. -/
def resolveProperties {ν : Type} (defined : List String) :
    List (Property (Shape Json ν)) → Except BadReference (List (Property (Shape String ν)))
  | [] => .ok []
  | ⟨name, shape, description, optional⟩ :: rest => do
    let shape ← Shape.resolve defined shape
    return ⟨name, shape, description, optional⟩ :: (← resolveProperties defined rest)

/-- The variants with every reference resolved. -/
def resolveVariants {ν : Type} (defined : List String) :
    List (Shape Json ν) → Except BadReference (List (Shape String ν))
  | [] => .ok []
  | shape :: rest => do
    let shape ← Shape.resolve defined shape
    return shape :: (← resolveVariants defined rest)

end

end Dialogue.Schema
