import Dialogue.Proofs.Schema.Closure

/-!
# Dialogue.Proofs.Schema.NormalForm — a rendered schema compiles to itself

A compiled schema, rendered and compiled again, is rendered alike: rendering is a normal form of
compiling. There is one exception. A choice whose variants are all single texts is written as a choice
between fragments of one text each, and such a choice is read as an enumeration (`Shape.Collapses`).

* `ofMembers_congr` — a fragment is read by a few keys, so what stands beside them, such as a
  description or the definitions, does not matter;
* `Rereads` — a document is read as a shape that is rendered alike just when no part of the given
  shape collapses; one lemma for each kind of shape, put together in `rereads_render`;
* `compile_toJson_iff` — the statement for every document that compiles.
-/

namespace Dialogue.Schema

/-! ## Choices that collapse -/

section

variable {ρ ν : Type}

/-- The text of a shape that allows just one. -/
def Shape.single? : Shape ρ ν → Option String
  | .literal value => some value
  | .enumeration _ [value] => some value
  | _ => none

/-- Whether a shape is a choice whose variants are all single texts. -/
def Shape.Collapses : Shape ρ ν → Prop
  | .union _ variants => ∀ v ∈ variants, v.single?.isSome = true
  | _ => False

/-- Whether no part of a shape is a choice whose variants are all single texts. -/
def Shape.Stable (shape : Shape ρ ν) : Prop :=
  ∀ part : Shape ρ ν, part.Occurs shape → ¬ part.Collapses

theorem stable_scalar (kind : Scalar) : (.scalar kind : Shape ρ ν).Stable := by
  rintro _ ⟨⟩
  exact id

theorem stable_literal (value : String) : (.literal value : Shape ρ ν).Stable := by
  rintro _ ⟨⟩
  exact id

theorem stable_enumeration (label : ν) (values : List String) :
    (.enumeration label values : Shape ρ ν).Stable := by
  rintro _ ⟨⟩
  exact id

theorem stable_reference (target : ρ) : (.reference target : Shape ρ ν).Stable := by
  rintro _ ⟨⟩
  exact id

theorem stable_array {element : Shape ρ ν} {least most : Option Nat} :
    (.array element least most : Shape ρ ν).Stable ↔ element.Stable := by
  constructor
  · intro h part hpart
    exact h part (.element hpart)
  · intro h part hpart
    cases hpart with
    | here => exact id
    | element hpart => exact h part hpart

theorem stable_object {label : ν} {properties : List (Property (Shape ρ ν))} :
    (.object label properties : Shape ρ ν).Stable ↔ ∀ p ∈ properties, p.shape.Stable := by
  constructor
  · intro h p hp part hpart
    exact h part (.property hp hpart)
  · intro h part hpart
    cases hpart with
    | here => exact id
    | property hp hpart => exact h _ hp part hpart

theorem stable_union {label : ν} {variants : List (Shape ρ ν)} :
    (.union label variants : Shape ρ ν).Stable ↔
      (¬ ∀ v ∈ variants, v.single?.isSome = true) ∧ ∀ v ∈ variants, v.Stable := by
  constructor
  · intro h
    exact ⟨h _ .here, fun v hv part hpart => h part (.variant hv hpart)⟩
  · rintro ⟨hnot, hvariants⟩ part hpart
    cases hpart with
    | here => exact hnot
    | variant hv hpart => exact hvariants _ hv part hpart

/-- A single text has no parts that collapse. -/
theorem stable_of_single {shape : Shape ρ ν} (h : shape.single?.isSome = true) : shape.Stable := by
  cases shape with
  | literal value => exact stable_literal value
  | enumeration label values => exact stable_enumeration label values
  | _ => simp [Shape.single?] at h

end

/-! ## What reading looks at -/

/-- The keys that reading a fragment looks at. -/
def readKeys : List String :=
  ["$ref", "anyOf", "enum", "const", "type", "title", "items", "minItems", "maxItems", "properties",
    "required"]

/-- Fragments that agree on these keys are read alike. -/
theorem ofMembers_congr {members others : Json.Members}
    (h : ∀ key ∈ readKeys, members.lookup key = others.lookup key) :
    Fragment.ofMembers members = Fragment.ofMembers others := by
  simp only [readKeys, List.forall_mem_cons, List.not_mem_nil, false_implies, implies_true,
    and_true] at h
  obtain ⟨h1, h2, h3, h4, h5, h6, h7, h8, h9, h10, h11⟩ := h
  simp only [Fragment.ofMembers, Fragment.ofType, title?, primaryType?, bound?, properties, required,
    h1, h2, h3, h4, h5, h6, h7, h8, h9, h10, h11]

/-- Members added behind a fragment do not change how it is read unless they are looked at. -/
theorem draft_append {members more : Json.Members} (h : ∀ entry ∈ more, entry.1 ∉ readKeys) :
    Draft.ofJson (.obj (members ++ more)) = Draft.ofJson (.obj members) := by
  rw [Draft.ofJson_eq, Draft.ofJson_eq, Fragment.ofJson, Fragment.ofJson]
  congr 1
  refine ofMembers_congr ?_
  intro key hkey
  have hmore : more.lookup key = none :=
    lookup_eq_none fun entry hentry heq => h entry hentry (heq ▸ hkey)
  rw [List.lookup_append, hmore, Option.or_none]

/-- A description does not change how a property is read. -/
theorem draft_describe (description : Option String) (document : Json) :
    Draft.ofJson (describe description document) = Draft.ofJson document := by
  unfold describe
  split
  · split
    · rfl
    · exact draft_append (by simp [readKeys])
  · rfl

/-! ## What rendered shapes say at their top -/

section

variable {ν : Type}

theorem title?_render {shape : Shape String ν} {members : Json.Members}
    (h : render shape = .obj members) : title? members = none := by
  rw [title?, lookup_render h (by simp [renderedKeys])]

/-- A rendered shape is a single text just when the shape is. -/
theorem singleValue?_render (shape : Shape String ν) :
    singleValue? (render shape) = shape.single? := by
  cases shape with
  | scalar kind => rfl
  | literal value => rfl
  | array element least most =>
    obtain ⟨honly, -⟩ := lookup_bounds (render element) least most
    rw [render, singleValue?_of_only honly (by simp) (by simp)]
    rfl
  | object label properties =>
    obtain ⟨honly, -⟩ :=
      lookup_required (renderProperties properties) (requiredNames properties)
    rw [render, singleValue?_of_only honly (by simp) (by simp)]
    rfl
  | enumeration label values =>
    match values with
    | [] => rfl
    | [value] => rfl
    | _ :: _ :: _ => rfl
  | union label variants => rfl
  | reference name => rfl

/-- No rendered shape is a null branch. -/
theorem isNullBranch_render (shape : Shape String ν) : isNullBranch (render shape) = false := by
  rw [Bool.eq_false_iff, ne_eq, isNullBranch_iff, nullBranch]
  cases shape with
  | scalar kind => cases kind <;> simp [render, Scalar.name]
  | literal value => simp [render, renderValues]
  | array element least most => simp [render]
  | object label properties => simp [render]
  | enumeration label values => simp [render, renderValues]
  | union label variants => simp [render]
  | reference name => simp [render, renderReference]

theorem draft_renderArray (element : Shape String ν) (least most : Option Nat) :
    Draft.ofJson (render (.array element least most : Shape String ν)) =
      .array (Draft.ofJson (render element)) least most := by
  obtain ⟨members, hmembers, -⟩ := render_eq_obj element
  obtain ⟨honly, htype, hitems, hleast, hmost⟩ := lookup_bounds (.obj members) least most
  have hbound : ∀ {key : String} {members : Json.Members} {bound : Option Nat},
      members.lookup key = bound.map (fun (n : Nat) => Json.int n) → bound? key members = bound := by
    intro key members bound h
    unfold bound?
    rw [h]
    cases bound <;> rfl
  rw [render, hmembers, Draft.ofJson_eq, Fragment.ofJson, ofMembers_array honly htype hitems,
    hbound hleast, hbound hmost, Fragment.draft]

/-- The description that is shown with a property, if any: an empty one is not. -/
def shown : Option String → Option String
  | some text => if text = "" then none else some text
  | none => none

theorem description?_describe (description : Option String) (shape : Shape String ν) :
    description? (describe description (render shape)) = shown description := by
  obtain ⟨members, hmembers, -⟩ := render_eq_obj shape
  have hnone : members.lookup "description" = none :=
    lookup_render hmembers (by simp [renderedKeys])
  rw [hmembers]
  cases description with
  | none => simp [describe, description?, shown, hnone]
  | some text =>
    by_cases hempty : text = ""
    · simp [describe, description?, shown, hempty, hnone]
    · simp [describe, description?, shown, hempty, hnone, List.lookup_append, Json.text?]

theorem describe_shown (description : Option String) (document : Json) :
    describe (shown description) document = describe description document := by
  cases description with
  | none => rfl
  | some text =>
    by_cases hempty : text = ""
    · cases document <;> simp [shown, describe, hempty]
    · cases document <;> simp [shown, hempty]

/-- A description is put behind a rendered shape without hiding any of it. -/
theorem describe_inj {μ : Type} (description : Option String) (shape : Shape String ν)
    (other : Shape String μ) :
    describe description (render shape) = describe description (render other) ↔
      render shape = render other := by
  obtain ⟨members, hmembers, -⟩ := render_eq_obj shape
  obtain ⟨others, hothers, -⟩ := render_eq_obj other
  rw [hmembers, hothers]
  unfold describe
  cases description with
  | none => rfl
  | some text =>
    by_cases hempty : text = ""
    · simp [hempty]
    · simp [hempty]

theorem ofMembers_closedObject {members : Json.Members}
    (honly : Only ["type", "properties", "required", "additionalProperties"] members)
    (htype : members.lookup "type" = some (.str "object")) :
    Fragment.ofMembers members = .object (title? members) (properties members) := by
  simp [Only, keywords, -List.lookup_eq_none_iff] at honly
  simp [Fragment.ofMembers, Fragment.ofType, primaryType?, honly, htype]

theorem draft_renderObject (label : ν) (properties : List (Property (Shape String ν)))
    (hoptional : ∀ p ∈ properties, p.optional = !(requiredNames properties).contains p.name) :
    Draft.ofJson (render (.object label properties)) =
      .object none (properties.map fun p =>
        ⟨p.name, Draft.ofJson (render p.shape), shown p.description, p.optional⟩) := by
  obtain ⟨members, hmembers, -⟩ := render_eq_obj (.object label properties)
  have htitle := title?_render hmembers
  have hfound := lookup_required (renderProperties properties) (requiredNames properties)
  rw [render, Json.obj.injEq] at hmembers
  simp only [hmembers] at hfound
  obtain ⟨honly, htype, hlisted, -, hrequired⟩ := hfound
  rw [render, hmembers, Draft.ofJson_eq, Fragment.ofJson, ofMembers_closedObject honly htype, htitle,
    properties_eq (Or.inl hlisted), required_eq hrequired, Fragment.draft, renderProperties_eq,
    List.map_map, List.map_map]
  congr 1
  refine List.map_congr_left ?_
  intro p hp
  simp only [Function.comp_apply, draft_describe, description?_describe, ← hoptional p hp]

/-! ## Choices -/

/-- A choice without null branches is an enumeration when all branches are single texts. -/
theorem ofBranches_eq (title : Option String) {branches : List Json} (hne : branches ≠ [])
    (hnull : ∀ branch ∈ branches, isNullBranch branch = false) :
    Fragment.ofBranches title branches =
      match branches.mapM singleValue? with
      | some values => .enumeration title values
      | none => .union title (branches.map Branch.ofJson) := by
  have hkept : branches.filter (!isNullBranch ·) = branches :=
    List.filter_eq_self.2 fun branch hbranch => by simp [hnull branch hbranch]
  unfold Fragment.ofBranches
  rw [hkept]
  match branches with
  | [] => contradiction
  | [branch] => cases hsingle : singleValue? branch <;> simp [hsingle, Branch.ofJson]
  | _ :: _ :: _ => rfl

/-- The draft that a rendered variant is read as: a single text is read as no more than the text. -/
def variantDraft (v : Shape String ν) : Draft :=
  match v.single? with
  | some value => .literal value
  | none => Draft.ofJson (render v)

theorem draft_renderUnion (label : ν) {variants : List (Shape String ν)} (hne : variants ≠ []) :
    Draft.ofJson (render (.union label variants)) =
      match variants.mapM Shape.single? with
      | some values => .enumeration none values
      | none => .union none (variants.map variantDraft) := by
  have hnull : ∀ branch ∈ variants.map render, isNullBranch branch = false := by
    intro branch hbranch
    obtain ⟨v, -, rfl⟩ := List.mem_map.1 hbranch
    exact isNullBranch_render v
  have hsingle : (variants.map render).mapM singleValue? = variants.mapM Shape.single? := by
    rw [List.mapM_map]
    congr 1
    funext v
    exact singleValue?_render v
  rw [render, Draft.ofJson_eq, Fragment.ofJson, renderVariants_eq,
    ofMembers_anyOf (by simpa using hne) (only_singleton _ _) List.lookup_cons_self,
    ofBranches_eq _ (by simpa using hne) hnull, hsingle]
  split
  · rfl
  · rw [Fragment.draft, List.map_map, List.map_map]
    congr 1
    refine List.map_congr_left ?_
    intro v _
    rw [Function.comp_apply, Function.comp_apply, Branch.ofJson, singleValue?_render, variantDraft]
    cases v.single? <;> rfl

end

/-! ## Reading a rendered shape again -/

/-- Every element of a list has a partner, so the list has one. -/
theorem exists_forall₂ {α β : Type} {r : α → β → Prop} {xs : List α}
    (h : ∀ x ∈ xs, ∃ y, r x y) : ∃ ys, List.Forall₂ r xs ys := by
  induction xs with
  | nil => exact ⟨[], .nil⟩
  | cons x rest ih =>
    obtain ⟨y, hy⟩ := h x List.mem_cons_self
    obtain ⟨ys, hys⟩ := ih fun z hz => h z (List.mem_cons_of_mem x hz)
    exact ⟨y :: ys, .cons hy hys⟩

/-- Lists are mapped to the same list when that holds element by element. -/
theorem map_eq_map_iff {α β γ : Type} {f : α → γ} {g : β → γ} {good : α → Prop} {xs : List α}
    {ys : List β} (h : List.Forall₂ (fun x y => g y = f x ↔ good x) xs ys) :
    ys.map g = xs.map f ↔ ∀ x ∈ xs, good x := by
  induction h with
  | nil => simp
  | cons hxy _ ih => rw [List.map_cons, List.map_cons, List.cons_eq_cons, hxy, ih, List.forall_mem_cons]

section

variable {ν : Type} {defined : List String}

/-- What a rendered shape is read as: a shape that is rendered alike just when no part of the given
one collapses. -/
def Rereads (defined : List String) (shape : Shape String ν)
    (again : Shape String (Option String)) : Prop :=
  (Draft.ofJson (render shape)).resolve defined = .ok again ∧
    (render again = render shape ↔ shape.Stable)

theorem rereads_scalar (kind : Scalar) :
    Rereads defined (.scalar kind : Shape String ν) (.scalar kind) := by
  constructor
  · rw [render, Draft.ofJson_eq, Fragment.ofJson,
      ofMembers_scalar (only_singleton _ _) List.lookup_cons_self]
    rfl
  · simp only [render, stable_scalar]

theorem draft_renderValues {values : List String} (hvalues : values ≠ []) :
    Draft.ofJson (renderValues values) = .enumeration none values := by
  rw [renderValues, Draft.ofJson_eq, Fragment.ofJson, ofMembers_enumeration hvalues]
  · rfl
  · simp [Only, keywords, List.lookup_cons]
  · rfl

theorem rereads_literal (value : String) :
    Rereads defined (.literal value : Shape String ν) (.enumeration none [value]) := by
  constructor
  · rw [render, draft_renderValues (by simp), Shape.resolve]
  · simp only [render, stable_literal]

theorem rereads_enumeration (label : ν) {values : List String} (hvalues : values ≠ []) :
    Rereads defined (.enumeration label values) (.enumeration none values) := by
  constructor
  · rw [render, draft_renderValues hvalues, Shape.resolve]
  · simp only [render, stable_enumeration]

theorem rereads_reference {name : String} (h : Known defined name) :
    Rereads defined (.reference name : Shape String ν) (.reference name) := by
  have htarget : Targets (.str ("#/$defs/" ++ name)) name := Or.inr rfl
  constructor
  · rw [render, renderReference, Draft.ofJson_eq, Fragment.ofJson,
      ofMembers_reference List.lookup_cons_self, Fragment.draft, Shape.resolve,
      referenceName_of_targets htarget h.2 h.1]
    rfl
  · simp only [render, stable_reference]

theorem rereads_array {element : Shape String ν} {again : Shape String (Option String)}
    (least most : Option Nat) (h : Rereads defined element again) :
    Rereads defined (.array element least most) (.array again least most) := by
  constructor
  · rw [draft_renderArray, Shape.resolve, h.1]
    rfl
  · rw [stable_array, ← h.2]
    simp [render]

/-- Properties that are read again, with the descriptions that are shown. -/
def PropertyRereads (defined : List String) (p : Property (Shape String ν))
    (again : Property (Shape String (Option String))) : Prop :=
  Rereads defined p.shape again.shape ∧ again.name = p.name ∧
    again.description = shown p.description ∧ again.optional = p.optional

theorem resolveProperties_rereads {properties : List (Property (Shape String ν))}
    {again : List (Property (Shape String (Option String)))}
    (h : List.Forall₂ (PropertyRereads defined) properties again) :
    resolveProperties defined (properties.map fun p =>
      ⟨p.name, Draft.ofJson (render p.shape), shown p.description, p.optional⟩) = .ok again := by
  rw [resolveProperties_eq_ok, List.forall₂_map_left_iff]
  exact h.imp fun _ _ hp => ⟨hp.1.1, hp.2⟩

theorem requiredNames_rereads {properties : List (Property (Shape String ν))}
    {again : List (Property (Shape String (Option String)))}
    (h : List.Forall₂ (PropertyRereads defined) properties again) :
    requiredNames again = requiredNames properties := by
  unfold requiredNames
  induction h with
  | nil => rfl
  | cons hp _ ih =>
    obtain ⟨-, hname, -, hoptional⟩ := hp
    rw [List.filter_cons, List.filter_cons, hoptional]
    split
    · rw [List.map_cons, List.map_cons, hname, ih]
    · exact ih

theorem renderProperties_rereads {properties : List (Property (Shape String ν))}
    {again : List (Property (Shape String (Option String)))}
    (h : List.Forall₂ (PropertyRereads defined) properties again) :
    renderProperties again = renderProperties properties ↔ ∀ p ∈ properties, p.shape.Stable := by
  rw [renderProperties_eq, renderProperties_eq]
  refine map_eq_map_iff (h.imp ?_)
  rintro p q ⟨⟨-, hstable⟩, hname, hdescription, -⟩
  rw [hname, hdescription, describe_shown, Prod.mk.injEq, describe_inj, hstable]
  simp

theorem rereads_object (label : ν) {properties : List (Property (Shape String ν))}
    (hoptional : ∀ p ∈ properties, p.optional = !(requiredNames properties).contains p.name)
    (h : ∀ p ∈ properties, ∃ again, Rereads defined p.shape again) :
    ∃ again, Rereads defined (.object label properties) again := by
  obtain ⟨again, hagain⟩ : ∃ again, List.Forall₂ (PropertyRereads defined) properties again := by
    refine exists_forall₂ ?_
    intro p hp
    obtain ⟨shape, hshape⟩ := h p hp
    exact ⟨⟨p.name, shape, shown p.description, p.optional⟩, hshape, rfl, rfl, rfl⟩
  refine ⟨.object none again, ?_, ?_⟩
  · rw [draft_renderObject label properties hoptional, Shape.resolve,
      resolveProperties_rereads hagain]
    rfl
  · rw [stable_object, ← renderProperties_rereads hagain]
    simp [render, requiredNames_rereads hagain]

/-- A list is mapped to values just when each of its elements is. -/
theorem mapM_isSome_iff {α β : Type} {f : α → Option β} {xs : List α} :
    (xs.mapM f).isSome = true ↔ ∀ x ∈ xs, (f x).isSome = true := by
  induction xs with
  | nil => simp
  | cons x rest ih =>
    rw [List.mapM_cons, List.forall_mem_cons, ← ih]
    cases f x <;> cases rest.mapM f <;> simp

theorem render_of_single {v : Shape String ν} {value : String} (h : v.single? = some value) :
    render v = renderValues [value] := by
  cases v with
  | literal only =>
    obtain rfl := Option.some.inj h
    rw [render]
  | enumeration label values =>
    match values with
    | [only] =>
      obtain rfl := Option.some.inj h
      rw [render]
    | [] => contradiction
    | _ :: _ :: _ => contradiction
  | _ => contradiction

/-- A variant is read again like any shape; one that is a single text has no part that collapses. -/
theorem rereads_variant {v : Shape String ν} (h : ∃ again, Rereads defined v again) :
    ∃ again : Shape String (Option String), (variantDraft v).resolve defined = .ok again ∧
      (render again = render v ↔ v.Stable) := by
  unfold variantDraft
  cases hsingle : v.single? with
  | none => exact h
  | some value =>
    have hstable : v.Stable := stable_of_single (by rw [hsingle]; rfl)
    refine ⟨.literal value, rfl, iff_of_true ?_ hstable⟩
    rw [render, render_of_single hsingle]

/-- A choice that collapses is read as an enumeration, which is rendered differently. -/
theorem rereads_collapsing (label : ν) {variants : List (Shape String ν)} {values : List String}
    (hne : variants ≠ []) (hvalues : variants.mapM Shape.single? = some values) :
    Rereads defined (.union label variants) (.enumeration none values) := by
  have hall : ∀ v ∈ variants, v.single?.isSome = true := mapM_isSome_iff.1 (by rw [hvalues]; rfl)
  constructor
  · rw [draft_renderUnion label hne, hvalues]
    rfl
  · refine iff_of_false ?_ ?_
    · simp [render, renderValues]
    · rw [stable_union]
      exact fun hstable => hstable.1 hall

/-- A choice that does not collapse is read variant by variant. -/
theorem rereads_union (label : ν) {variants : List (Shape String ν)} (hne : variants ≠ [])
    (h : ∀ v ∈ variants, ∃ again, Rereads defined v again) :
    ∃ again, Rereads defined (.union label variants) again := by
  cases hvalues : variants.mapM Shape.single? with
  | some values => exact ⟨_, rereads_collapsing label hne hvalues⟩
  | none =>
    obtain ⟨again, hagain⟩ := exists_forall₂ fun v hv => rereads_variant (h v hv)
    have hresolved : resolveVariants defined (variants.map variantDraft) = .ok again := by
      rw [resolveVariants_eq_ok, List.forall₂_map_left_iff]
      exact hagain.imp fun _ _ hva => hva.1
    have hrender : again.map render = variants.map render ↔ ∀ v ∈ variants, v.Stable :=
      map_eq_map_iff (hagain.imp fun _ _ hva => hva.2)
    have hnot : ¬ ∀ v ∈ variants, v.single?.isSome = true := by
      rw [← mapM_isSome_iff, hvalues]
      simp
    refine ⟨.union none again, ?_, ?_⟩
    · rw [draft_renderUnion label hne, hvalues]
      simp only [Shape.resolve, hresolved]
      rfl
    · rw [stable_union, ← hrender, and_iff_right hnot]
      simp [render, renderVariants_eq]

/-- A well-formed shape that is rendered is read as a shape that is rendered alike just when no part
of the given one collapses. -/
theorem rereads_render {shape : Shape String ν} (h : WellFormed (Known defined) shape) :
    ∃ again, Rereads defined shape again := by
  induction h with
  | scalar kind => exact ⟨_, rereads_scalar kind⟩
  | literal value => exact ⟨_, rereads_literal value⟩
  | @array element least most _ ih =>
    obtain ⟨again, hagain⟩ := ih
    exact ⟨_, rereads_array least most hagain⟩
  | @object label properties _ hoptional ih => exact rereads_object label hoptional ih
  | @enumeration label values hvalues => exact ⟨_, rereads_enumeration label hvalues⟩
  | @union label variants hvariants _ ih => exact rereads_union label hvariants ih
  | reference hknown => exact ⟨_, rereads_reference hknown⟩

end

/-! ## Compiled schemas -/

/-- The dependencies with their rendered nodes. -/
def rendered {ν : Type} (dependencies : List (String × Shape String ν)) : Json.Members :=
  dependencies.map fun d => (d.1, render d.2)

theorem Compiled.renderDefinitions_eq (dependencies : List (String × Node)) :
    renderDefinitions dependencies =
      if dependencies.isEmpty then [] else [("$defs", .obj (rendered dependencies))] := rfl

/-- Two compiled schemas are rendered alike when their roots and their dependencies are. -/
theorem Compiled.toJson_eq_toJson_iff {c again : Compiled}
    (h : again.dependencies.length = c.dependencies.length) :
    again.toJson = c.toJson ↔
      render again.root = render c.root ∧ rendered again.dependencies = rendered c.dependencies := by
  obtain ⟨members, hmembers, hjson, -⟩ := c.toJson_eq
  obtain ⟨others, hothers, hagain, -⟩ := again.toJson_eq
  have hempty : again.dependencies.isEmpty = c.dependencies.isEmpty := by
    rw [Bool.eq_iff_iff, List.isEmpty_iff_length_eq_zero, List.isEmpty_iff_length_eq_zero, h]
  rw [hjson, hagain, hmembers, hothers, renderDefinitions_eq, renderDefinitions_eq, hempty]
  cases hnone : c.dependencies.isEmpty with
  | false => simp
  | true =>
    rw [hnone, List.isEmpty_iff] at hempty
    rw [List.isEmpty_iff] at hnone
    simp [hempty, hnone]

/-- What stands behind the root of a rendered schema does not change how the root is read. -/
theorem Compiled.draft_toJson (c : Compiled) :
    Draft.ofJson c.toJson = Draft.ofJson (render c.root) := by
  obtain ⟨members, hmembers, hjson, -⟩ := c.toJson_eq
  rw [hjson, hmembers]
  refine draft_append ?_
  intro entry hentry
  rw [renderDefinitions_eq] at hentry
  split at hentry
  · simp at hentry
  · obtain rfl : entry = ("$defs", _) := List.mem_singleton.1 hentry
    simp [readKeys]

/-- The definitions of a rendered schema are its dependencies. -/
theorem Compiled.definitions_toJson {c : Compiled} {document : Json.Members}
    (h : c.toJson = .obj document) : definitions document = rendered c.dependencies := by
  obtain ⟨members, hmembers, hjson, -⟩ := c.toJson_eq
  obtain rfl : document = members ++ renderDefinitions c.dependencies :=
    Json.obj.inj (h.symm.trans hjson)
  have hfirst : members.lookup "definitions" = none := lookup_render hmembers (by simp [renderedKeys])
  have hsecond : members.lookup "$defs" = none := lookup_render hmembers (by simp [renderedKeys])
  rw [definitions, block, block, List.lookup_append, List.lookup_append, hfirst, hsecond,
    renderDefinitions_eq]
  cases hdependencies : c.dependencies with
  | nil => rfl
  | cons d rest => simp [List.lookup_cons]

/-- No part of a schema collapses when no part of its root or of a dependency does. -/
theorem Compiled.stable_iff {c : Compiled} :
    (¬ ∃ part, c.Contains part ∧ part.Collapses) ↔
      c.root.Stable ∧ ∀ d ∈ c.dependencies, d.2.Stable := by
  constructor
  · intro h
    refine ⟨fun part hpart hcollapses => h ⟨part, Or.inl hpart, hcollapses⟩, ?_⟩
    exact fun d hd part hpart hcollapses => h ⟨part, Or.inr ⟨d, hd, hpart⟩, hcollapses⟩
  · rintro ⟨hroot, hdependencies⟩ ⟨part, hpart | ⟨d, hd, hpart⟩, hcollapses⟩
    · exact hroot part hpart hcollapses
    · exact hdependencies d hd part hpart hcollapses

/-- A rendered schema compiles when its root and its dependencies can be read again, and it is
rendered as what they are read as. -/
theorem compile_toJson {c : Compiled} {root : Shape String (Option String)}
    {shapes : List (String × Shape String (Option String))}
    (hroot : (Draft.ofJson (render c.root)).resolve c.names = .ok root)
    (hshapes : List.Forall₂
      (fun d s => (Draft.ofJson (render d.2)).resolve c.names = .ok s.2 ∧ s.1 = d.1)
      c.dependencies shapes) :
    ∃ again, compile c.toJson = .ok again ∧ render again.root = render root ∧
      rendered again.dependencies = rendered shapes := by
  obtain ⟨members, -, hjson, -⟩ := c.toJson_eq
  have hdefinitions := Compiled.definitions_toJson hjson
  have hnames : (rendered c.dependencies).map (·.1) = c.names := by
    rw [rendered, List.map_map]
    rfl
  let named := nameDefinitions ⟨c.names, 0⟩ shapes
  let again : Compiled := ⟨(name none (some "Root") named.2 root).1, named.1⟩
  refine ⟨again, ?_, render_name none (some "Root") named.2 root, render_nameDefinitions _ shapes⟩
  refine compile_eq_ok.2 ⟨_, hjson, compileMembers_eq_ok.2 ⟨shapes, ?_, root, ?_, ?_⟩⟩
  · rw [hdefinitions, hnames, resolveDefinitions_eq_ok, rendered, List.forall₂_map_left_iff]
    exact hshapes
  · rw [hdefinitions, hnames, ← hjson, Compiled.draft_toJson]
    exact hroot
  · rw [hdefinitions, hnames]

/-- For every document that compiles, the rendered schema compiles, and it is rendered as it stands
just when the compiled schema has no choice whose variants are all single texts. -/
theorem compile_toJson_iff {document : Json} {c : Compiled} (h : compile document = .ok c) :
    ∃ again, compile c.toJson = .ok again ∧
      (again.toJson = c.toJson ↔ ¬ ∃ part, c.Contains part ∧ part.Collapses) := by
  obtain ⟨document, rfl, hmembers⟩ := compile_eq_ok.1 h
  obtain ⟨-, hroot, hdependencies⟩ := compile_wellFormed hmembers
  obtain ⟨root, hroot, hrootStable⟩ := rereads_render hroot
  obtain ⟨shapes, hshapes⟩ : ∃ shapes : List (String × Shape String (Option String)),
      List.Forall₂ (fun d s => s.1 = d.1 ∧ Rereads c.names d.2 s.2) c.dependencies shapes := by
    refine exists_forall₂ ?_
    intro d hd
    obtain ⟨shape, hshape⟩ := rereads_render (hdependencies d hd)
    exact ⟨(d.1, shape), rfl, hshape⟩
  obtain ⟨again, hcompile, hroots, hrendered⟩ :=
    compile_toJson hroot (hshapes.imp fun _ _ hds => ⟨hds.2.1, hds.1⟩)
  refine ⟨again, hcompile, ?_⟩
  have hlength : again.dependencies.length = c.dependencies.length := by
    have hlength := congrArg List.length hrendered
    rw [rendered, rendered, List.length_map, List.length_map] at hlength
    rw [hlength, hshapes.length_eq]
  have hshapesStable : rendered shapes = rendered c.dependencies ↔
      ∀ d ∈ c.dependencies, d.2.Stable := by
    refine map_eq_map_iff (hshapes.imp ?_)
    rintro d s ⟨hname, -, hstable⟩
    rw [hname, Prod.mk.injEq, hstable]
    simp
  rw [Compiled.toJson_eq_toJson_iff hlength, Compiled.stable_iff, hroots, hrendered, hrootStable,
    hshapesStable]

/-- A choice of one text in a choice beside another text. -/
def nestedTexts : Json.Members :=
  [("anyOf", .arr [.obj [("enum", .arr [.str "a"])],
    .obj [("anyOf", .arr [.obj [("enum", .arr [.str "b"])]])]])]

theorem compiles_nestedTexts :
    ∃ c, compile (.obj nestedTexts) = .ok c ∧
      ∃ label inner, c.root = .union label [.literal "a", .enumeration inner ["b"]] := by
  have hinner : Draft.ofJson (.obj [("anyOf", .arr [.obj [("enum", .arr [.str "b"])]])]) =
      .enumeration none ["b"] := by
    rw [Draft.ofJson_eq]
    rfl
  have hroot : Draft.ofJson (.obj nestedTexts) =
      .union none [.literal "a", .enumeration none ["b"]] := by
    rw [Draft.ofJson_eq, ← hinner]
    rfl
  refine ⟨_, compile_eq_ok.2 ⟨_, rfl, compileMembers_eq_ok.2
    ⟨[], rfl, .union none [.literal "a", .enumeration none ["b"]], ?_, rfl⟩⟩, ?_⟩
  · rw [hroot]
    rfl
  · exact ⟨_, _, rfl⟩

theorem compile_toJson_iff_nestedTexts :
    ∃ c again, compile (.obj nestedTexts) = .ok c ∧ compile c.toJson = .ok again ∧
      again.toJson ≠ c.toJson := by
  obtain ⟨c, hc, label, inner, hroot⟩ := compiles_nestedTexts
  obtain ⟨again, hagain, hiff⟩ := compile_toJson_iff hc
  have hcollapses : ∃ part, c.Contains part ∧ part.Collapses :=
    ⟨c.root, Or.inl .here, by simp [hroot, Shape.Collapses, Shape.single?]⟩
  exact ⟨c, again, hc, hagain, fun heq => hiff.1 heq hcollapses⟩

end Dialogue.Schema
