import Dialogue.Proofs.Schema.Meaning
import Dialogue.Schema.Naming

/-!
# Dialogue.Proofs.Schema.Rendering — a rendered shape means what the shape means

`Shape.Admits` is the meaning of a shape, read off the tree. `admits_render` says that the document
written for a shape means the same when it is read as it stands, and `render_name` that the names of
parts leave no trace in it.
-/

namespace Dialogue.Schema

/-! ## The meaning of a shape -/

mutual

/-- Whether a shape admits a value; `refers` says what the definition of a name admits. -/
def Shape.Admits {ν : Type} (refers : String → Json → Prop) : Shape String ν → Json → Prop
  | .scalar kind, value => hasType kind.name value
  | .literal only, value => value = .str only
  | .array element least most, value =>
    ∃ elements, value = .arr elements ∧ (∀ e ∈ elements, Shape.Admits refers element e) ∧
      (∀ n ∈ least, n ≤ elements.length) ∧ ∀ n ∈ most, elements.length ≤ n
  | .object _ properties, value =>
    ∃ entries, value = .obj entries ∧
      (∀ entry ∈ entries, AdmitsProperty refers properties entry.1 entry.2) ∧
      ∀ name ∈ requiredNames properties, ∃ v, (name, v) ∈ entries
  | .enumeration _ values, value => ∃ text ∈ values, value = .str text
  | .union _ variants, value => AdmitsSome refers variants value
  | .reference name, value => refers name value

/-- Whether the first of the properties with a name admits a value. -/
def AdmitsProperty {ν : Type} (refers : String → Json → Prop) :
    List (Property (Shape String ν)) → String → Json → Prop
  | [], _, _ => False
  | ⟨name, shape, _, _⟩ :: rest, key, value =>
    if name = key then Shape.Admits refers shape value else AdmitsProperty refers rest key value

/-- Whether one of the shapes admits a value. -/
def AdmitsSome {ν : Type} (refers : String → Json → Prop) : List (Shape String ν) → Json → Prop
  | [], _ => False
  | shape :: rest, value => Shape.Admits refers shape value ∨ AdmitsSome refers rest value

end

theorem Scalar.name_ne_object (kind : Scalar) : kind.name ≠ "object" := by
  cases kind <;> simp [Scalar.name]

/-! ## Documents of shapes -/

/-- The keys of a rendered shape that a part of a document may also have. -/
def renderedKeys : List String :=
  ["type", "enum", "items", "minItems", "maxItems", "properties", "additionalProperties", "required",
    "anyOf", "$ref"]

theorem mem_renderBound {key : String} {bound : Option Nat} {entry : String × Json}
    (h : entry ∈ renderBound key bound) : entry.1 = key := by
  cases bound with
  | none => simp [renderBound] at h
  | some n =>
    obtain rfl : entry = (key, .int n) := by simpa [renderBound] using h
    rfl

theorem mem_renderRequired {names : List String} {entry : String × Json}
    (h : entry ∈ renderRequired names) : entry.1 = "required" := by
  unfold renderRequired at h
  split at h
  · simp at h
  · obtain rfl : entry = ("required", .arr (names.map .str)) := by simpa using h
    rfl

/-- A rendered shape is an object with few keys. -/
theorem render_eq_obj {ν : Type} (shape : Shape String ν) :
    ∃ members, render shape = .obj members ∧ ∀ entry ∈ members, entry.1 ∈ renderedKeys := by
  cases shape with
  | scalar kind => exact ⟨_, rfl, by simp [renderedKeys]⟩
  | literal only => exact ⟨_, rfl, by simp [renderedKeys]⟩
  | array element least most =>
    refine ⟨_, by rw [render], ?_⟩
    intro entry h
    simp only [List.mem_append, List.mem_cons, List.not_mem_nil, or_false] at h
    rcases h with ((rfl | rfl) | h) | h
    · simp [renderedKeys]
    · simp [renderedKeys]
    · simp [mem_renderBound h, renderedKeys]
    · simp [mem_renderBound h, renderedKeys]
  | object label properties =>
    refine ⟨_, by rw [render], ?_⟩
    intro entry h
    simp only [List.mem_append, List.mem_cons, List.not_mem_nil, or_false] at h
    rcases h with (rfl | rfl | rfl) | h
    · simp [renderedKeys]
    · simp [renderedKeys]
    · simp [renderedKeys]
    · simp [mem_renderRequired h, renderedKeys]
  | enumeration label values => exact ⟨_, rfl, by simp [renderedKeys]⟩
  | union label variants => exact ⟨_, by rw [render], by simp [renderedKeys]⟩
  | reference name => exact ⟨_, rfl, by simp [renderedKeys]⟩

/-- A key that no member has is not found. -/
theorem lookup_eq_none {key : String} {members : Json.Members}
    (h : ∀ entry ∈ members, entry.1 ≠ key) : members.lookup key = none := by
  rw [List.lookup_eq_none_iff]
  intro entry hentry
  simpa using (h entry hentry).symm

/-- Members added behind a fragment do not change its meaning unless they are keywords. -/
theorem admits_append {members more : Json.Members}
    (h : ∀ entry ∈ more, entry.1 ∉ keywords) (r : Reading) (refers : String → Json → Prop)
    (value : Json) :
    Admits r refers (.obj (members ++ more)) value ↔ Admits r refers (.obj members) value := by
  refine admits_congr ?_ r refers value
  intro key hkey
  have hmore : more.lookup key = none := by
    refine lookup_eq_none ?_
    intro entry hentry heq
    exact h entry hentry (heq ▸ hkey)
  rw [List.lookup_append, hmore, Option.or_none]

/-- A description does not change what a property admits. -/
theorem admits_describe (r : Reading) (refers : String → Json → Prop)
    (description : Option String) (document value : Json) :
    Admits r refers (describe description document) value ↔ Admits r refers document value := by
  unfold describe
  split
  · split
    · exact Iff.rfl
    · exact admits_append (by simp [keywords]) r refers value
  · exact Iff.rfl

/-! ## The meaning of a rendered shape -/

section

variable {ν : Type} {refers : String → Json → Prop}

theorem admits_renderValues (values : List String) (value : Json) :
    Admits .plain refers (renderValues values) value ↔ ∃ text ∈ values, value = .str text := by
  refine admits_values ?_ (Or.inr ?_) ?_
  · simp [Only, keywords, List.lookup_cons]
  · rw [List.lookup_cons_self]
  · rw [lookup_cons_of_ne (by simp), List.lookup_cons_self]

theorem admits_renderReference (name : String) (value : Json) :
    Admits .plain refers (renderReference name) value ↔ refers name value := by
  have htarget : Targets (.str ("#/$defs/" ++ name)) name := Or.inr rfl
  exact admits_reference (only_singleton _ _) List.lookup_cons_self fun _ => targets_unique htarget

/-- The items and the bounds of a rendered array are found again. -/
theorem lookup_bounds (element : Json) (least most : Option Nat) :
    let members := [("type", .str "array"), ("items", element)] ++
      renderBound "minItems" least ++ renderBound "maxItems" most
    Only ["type", "items", "minItems", "maxItems"] members ∧
      members.lookup "type" = some (.str "array") ∧ members.lookup "items" = some element ∧
      members.lookup "minItems" = least.map (fun (n : Nat) => Json.int n) ∧
      members.lookup "maxItems" = most.map fun (n : Nat) => Json.int n := by
  cases least <;> cases most <;> simp [Only, keywords, renderBound, List.lookup_cons]

/-- The properties and the required names of a rendered object are found again. -/
theorem lookup_required (properties : Json.Members) (names : List String) :
    let members := [("type", .str "object"), ("properties", .obj properties),
      ("additionalProperties", .bool false)] ++ renderRequired names
    Only ["type", "properties", "required", "additionalProperties"] members ∧
      members.lookup "type" = some (.str "object") ∧
      members.lookup "properties" = some (.obj properties) ∧
      members.lookup "additionalProperties" = some (.bool false) ∧
      (members.lookup "required" = some (.arr (names.map .str)) ∨
        members.lookup "required" = none ∧ names = []) := by
  cases names <;> simp [Only, keywords, renderRequired, List.lookup_cons]

mutual

/-- A rendered shape, read as it stands, means what the shape means. -/
theorem admits_render (shape : Shape String ν) (value : Json) :
    Admits .plain refers (render shape) value ↔ shape.Admits refers value := by
  match shape with
  | .scalar kind =>
    rw [render, Shape.Admits]
    exact admits_type kind.name_ne_object (only_singleton _ _) List.lookup_cons_self
  | .literal only =>
    rw [render, Shape.Admits, admits_renderValues]
    simp
  | .array element least most =>
    obtain ⟨honly, htype, hitems, hleast, hmost⟩ := lookup_bounds (render element) least most
    rw [render, Shape.Admits, admits_array honly htype hitems hleast hmost]
    simp only [admits_render element]
  | .object label properties =>
    obtain ⟨honly, htype, hlisted, hclosed, hrequired⟩ :=
      lookup_required (renderProperties properties) (requiredNames properties)
    rw [render, Shape.Admits,
      admits_object honly htype (Or.inl hlisted) hrequired (Or.inr hclosed)]
    simp only [admitsProperty_render properties]
  | .enumeration label values => rw [render, Shape.Admits, admits_renderValues]
  | .union label variants =>
    rw [render, Shape.Admits, admits_anyOf (only_singleton _ _) List.lookup_cons_self,
      ← admitsSome_render variants]
    -- read as it stands, every branch counts
    simp [Reading.plain]
  | .reference name => rw [render, Shape.Admits, admits_renderReference]

theorem admitsProperty_render (properties : List (Property (Shape String ν))) (key : String)
    (value : Json) :
    (∃ document, (renderProperties properties).lookup key = some document ∧
      Admits .plain refers document value) ↔ AdmitsProperty refers properties key value := by
  match properties with
  | [] => simp [renderProperties, AdmitsProperty]
  | ⟨name, shape, description, optional⟩ :: rest =>
    rw [renderProperties, AdmitsProperty]
    -- the first property with the name decides, on both sides
    by_cases h : name = key
    · subst h
      simp [admits_describe, admits_render shape]
    · rw [lookup_cons_of_ne h, if_neg h]
      exact admitsProperty_render rest key value

theorem admitsSome_render (variants : List (Shape String ν)) (value : Json) :
    (∃ document ∈ renderVariants variants, Admits .plain refers document value) ↔
      AdmitsSome refers variants value := by
  match variants with
  | [] => simp [renderVariants, AdmitsSome]
  | shape :: rest =>
    rw [renderVariants, AdmitsSome, ← admits_render shape, ← admitsSome_render rest]
    simp

end

end

/-! ## Names leave no trace -/

/-- Naming keeps the names of properties, and which of them are required. -/
theorem requiredNames_nameProperties (owner : String) (names : Names)
    (properties : List (Property (Shape String (Option String)))) :
    requiredNames (nameProperties owner names properties).1 = requiredNames properties := by
  induction properties generalizing names with
  | nil => simp [nameProperties, requiredNames]
  | cons p rest ih =>
    simp only [nameProperties, requiredNames, List.filter_cons] at ih ⊢
    split
    · simp [ih]
    · simp [ih]

mutual

/-- A shape is rendered alike before and after its parts are named. -/
theorem render_name (given hint : Option String) (names : Names)
    (shape : Shape String (Option String)) :
    render (name given hint names shape).1 = render shape := by
  match shape with
  | .scalar kind => simp [name, render]
  | .literal value => simp [name, render]
  | .array element least most => simp [name, render, render_name none _ names element]
  | .object title properties =>
    simp [name, render, render_nameProperties _ _ properties, requiredNames_nameProperties]
  | .enumeration title values => simp [name, render]
  | .union title variants => simp [name, render, render_nameVariants _ _ _ variants]
  | .reference target => simp [name, render]

theorem render_nameProperties (owner : String) (names : Names)
    (properties : List (Property (Shape String (Option String)))) :
    renderProperties (nameProperties owner names properties).1 = renderProperties properties := by
  match properties with
  | [] => simp [nameProperties, renderProperties]
  | ⟨key, shape, description, optional⟩ :: rest =>
    simp [nameProperties, renderProperties, render_name none _ names shape,
      render_nameProperties owner _ rest]

theorem render_nameVariants (owner : String) (position : Nat) (names : Names)
    (variants : List (Shape String (Option String))) :
    renderVariants (nameVariants owner position names variants).1 = renderVariants variants := by
  match variants with
  | [] => simp [nameVariants, renderVariants]
  | shape :: rest =>
    simp [nameVariants, renderVariants, render_name none _ names shape,
      render_nameVariants owner _ _ rest]

end

end Dialogue.Schema
