import Dialogue.Schema.Shape

/-!
# Dialogue.Schema.Naming — distinct names for the parts of a schema

Every object, enumeration and union gets a name that no other has. The name wanted is the part's
title, else a hint built from where the part stands, else its kind with a running number; when that
is taken, the first of `base_2`, `base_3`, … that is free is used. An empty hint is none. A
definition keeps the name it has in the document.
-/

namespace Dialogue.Schema

/-- The names given so far, and the number of parts that had to be numbered. -/
structure Names where
  used : List String
  numbered : Nat
deriving Repr

/-- The candidates for a name: the base itself, then the base with a suffix from two on. -/
def candidate (base : String) : Nat → String
  | 0 => base
  | n + 1 => base ++ "_" ++ toString (n + 2)

/-- The first candidate that is not in use. Of one more candidate than there are names in use, one
is free. -/
def firstFree (used : List String) (base : String) : String :=
  (((List.range (used.length + 1)).map (candidate base)).find? (!used.contains ·)).getD base

/-- The name wanted for a part, and the numbering after it. -/
def wanted (title hint : Option String) (kind : String) (names : Names) : String × Names :=
  match title, hint.filter (· ≠ "") with
  | some title, _ => (title, names)
  | none, some hint => (hint, names)
  | none, none =>
    (kind ++ toString (names.numbered + 1), { names with numbered := names.numbered + 1 })

/-- A name for a part, which is in use from then on. -/
def claim (title hint : Option String) (kind : String) (names : Names) : String × Names :=
  let (base, names) := wanted title hint kind names
  let name := firstFree names.used base
  (name, { names with used := name :: names.used })

/-- The name of a part: the one given for it, or a claimed one. -/
def label (given title hint : Option String) (kind : String) (names : Names) : String × Names :=
  match given with
  | some name => (name, names)
  | none => claim title hint kind names

mutual

/-- A shape with all its parts named. -/
def name (given hint : Option String) (names : Names) :
    Shape String (Option String) → Node × Names
  | .scalar kind => (.scalar kind, names)
  | .literal value => (.literal value, names)
  | .array element least most =>
    let (element, names) := name none ((given.or hint).map (· ++ ".items")) names element
    (.array element least most, names)
  | .object title properties =>
    let (label, names) := label given title hint "Object" names
    let (properties, names) := nameProperties label names properties
    (.object label properties, names)
  | .enumeration title values =>
    let (label, names) := label given title hint "Enum" names
    (.enumeration label values, names)
  | .union title variants =>
    let (label, names) := label given title hint "Union" names
    let (variants, names) := nameVariants label 0 names variants
    (.union label variants, names)
  | .reference target => (.reference target, names)

/-- The properties of the object `owner` with all their parts named. -/
def nameProperties (owner : String) (names : Names) :
    List (Property (Shape String (Option String))) → List (Property Node) × Names
  | [] => ([], names)
  | ⟨key, shape, description, optional⟩ :: rest =>
    let (shape, names) := name none (some (owner ++ "." ++ key)) names shape
    let (rest, names) := nameProperties owner names rest
    (⟨key, shape, description, optional⟩ :: rest, names)

/-- The variants of the union `owner`, from the given position on, with all their parts named. -/
def nameVariants (owner : String) (position : Nat) (names : Names) :
    List (Shape String (Option String)) → List Node × Names
  | [] => ([], names)
  | shape :: rest =>
    let (shape, names) := name none (some (owner ++ "." ++ toString position)) names shape
    let (rest, names) := nameVariants owner (position + 1) names rest
    (shape :: rest, names)

end

end Dialogue.Schema
