import Dialogue.Proofs.Schema.Preservation
import Mathlib.Data.List.Forall2

/-!
# Dialogue.Proofs.Schema.WellFormed — what every compiled schema is like

Whatever a document says, the shapes that compiling it gives obey a few rules (`WellFormed`): a
choice has something to choose from, a reference gives a known name, and an object's properties agree
on what is required.

* `wellFormed_resolve` — a draft whose references all resolve becomes a well-formed shape; the
  induction follows the fragment, whose children are smaller;
* `wellFormed_name` — naming the parts of a shape keeps it well-formed;
* `compile_wellFormed` — the root and all dependencies of a compiled schema are well-formed, and the
  known names are those of its dependencies.
-/

namespace Dialogue.Schema

/-! ## Well-formed shapes -/

/-- The rules that shapes read from a document obey; `known` are the names that references give. -/
inductive WellFormed {ν : Type} (known : String → Prop) : Shape String ν → Prop where
  | scalar (kind : Scalar) : WellFormed known (.scalar kind)
  | literal (value : String) : WellFormed known (.literal value)
  | array {element : Shape String ν} {least most : Option Nat}
      (helement : WellFormed known element) : WellFormed known (.array element least most)
  | object {label : ν} {properties : List (Property (Shape String ν))}
      (hshapes : ∀ p ∈ properties, WellFormed known p.shape)
      (hoptional : ∀ p ∈ properties, p.optional = !(requiredNames properties).contains p.name) :
      WellFormed known (.object label properties)
  | enumeration {label : ν} {values : List String} (hvalues : values ≠ []) :
      WellFormed known (.enumeration label values)
  | union {label : ν} {variants : List (Shape String ν)} (hvariants : variants ≠ [])
      (hshapes : ∀ v ∈ variants, WellFormed known v) : WellFormed known (.union label variants)
  | reference {name : String} (hknown : known name) : WellFormed known (.reference name)

/-- Whether a name is one of those listed and one that a reference can give. -/
def Known (defined : List String) (name : String) : Prop := name ∈ defined ∧ Referable name

/-- When a property is optional just if its name is not listed, those required are known from the
properties themselves. -/
theorem optional_eq {α : Type} {properties : List (Property α)} {names : List String}
    (h : ∀ p ∈ properties, p.optional = !names.contains p.name) :
    ∀ p ∈ properties, p.optional = !(requiredNames properties).contains p.name := by
  intro p hp
  have hiff : p.name ∈ requiredNames properties ↔ p.name ∈ names := by
    unfold requiredNames
    rw [List.mem_map]
    constructor
    · rintro ⟨q, hq, hname⟩
      obtain ⟨hq, hneeded⟩ := List.mem_filter.1 hq
      rw [h q hq, hname] at hneeded
      simpa using hneeded
    · intro hname
      refine ⟨p, List.mem_filter.2 ⟨hp, ?_⟩, rfl⟩
      rw [h p hp]
      simpa using hname
  rw [h p hp, Bool.eq_iff_iff]
  simp [hiff]

/-! ## What fragments say is well-formed -/

/-- The rules for what a fragment says at its top. -/
def Fragment.Sound : Fragment → Prop
  | .union _ branches => branches ≠ []
  | .enumeration _ values => values ≠ []
  | .object _ properties =>
    ∃ names : List String, ∀ p ∈ properties, p.optional = !names.contains p.name
  | _ => True

/-- A list is mapped to values when each of its elements is. -/
theorem mapM_eq_some_iff {α β : Type} {f : α → Option β} {xs : List α} {ys : List β} :
    xs.mapM f = some ys ↔ xs.map f = ys.map some := by
  induction xs generalizing ys with
  | nil => cases ys <;> simp
  | cons x xs ih =>
    rw [List.mapM_cons]
    simp only [Option.bind_eq_bind, Option.bind_eq_some_iff, Option.pure_def, Option.some.injEq]
    constructor
    · rintro ⟨y, hy, rest, hrest, rfl⟩
      simp [hy, ih.1 hrest]
    · intro h
      cases ys with
      | nil => simp at h
      | cons y ys =>
        obtain ⟨hy, hrest⟩ := List.cons.inj h
        exact ⟨y, hy, ys, ih.2 hrest, rfl⟩

theorem sound_ofBranches (title : Option String) (branches : List Json) :
    (Fragment.ofBranches title branches).Sound := by
  unfold Fragment.ofBranches
  simp only
  split
  · trivial
  · split
    · simp [Fragment.Sound]
    · split <;> simp [Fragment.Sound]
  · rename_i hnone _
    -- of several branches that are kept, values and branches are as many
    split
    · rename_i values hvalues
      rintro rfl
      exact hnone (by simpa using mapM_eq_some_iff.1 hvalues)
    · simpa [Fragment.Sound] using hnone

theorem sound_ofType (members : Json.Members) : (Fragment.ofType members).Sound := by
  have hobject : (Fragment.object (title? members) (properties members)).Sound := by
    refine ⟨required members, ?_⟩
    intro p hp
    unfold properties at hp
    split at hp
    · obtain ⟨entry, -, rfl⟩ := List.mem_map.1 hp
      rfl
    · simp at hp
  unfold Fragment.ofType
  simp only
  split
  · split
    · exact hobject
    · trivial
  · trivial
  · trivial
  · trivial
  · trivial
  · trivial
  · exact hobject
  · trivial

theorem sound_ofJson (fragment : Json) : (Fragment.ofJson fragment).Sound := by
  unfold Fragment.ofJson
  split
  · unfold Fragment.ofMembers
    split
    · trivial
    · split
      · exact sound_ofBranches _ _
      · split
        · simp [Fragment.Sound]
        · simp [Fragment.Sound]
        · exact sound_ofType _
  · trivial

/-! ## Resolving -/

/-- A row of two operations succeeds when the first does and the second does on its result. -/
theorem bind_eq_ok {ε α β : Type} {x : Except ε α} {f : α → Except ε β} {b : β} :
    x >>= f = .ok b ↔ ∃ a, x = .ok a ∧ f a = .ok b := by
  cases x <;> simp [bind, Except.bind]

theorem pure_eq_ok {ε α : Type} {a b : α} : (pure a : Except ε α) = .ok b ↔ a = b := by
  simp [pure, Except.pure]

/-- A reference that resolves gives a defined name that a reference can give. -/
theorem known_of_referenceName {defined : List String} {target : Json} {name : String}
    (h : referenceName defined target = .ok name) : Known defined name := by
  unfold referenceName at h
  split at h
  · split at h
    · contradiction
    · split at h
      · contradiction
      · rename_i hguard
        split at h
        · rename_i hdefined
          obtain rfl := Except.ok.inj h
          rw [not_or] at hguard
          exact ⟨by simpa using hdefined, hguard.1, by simpa using hguard.2⟩
        · contradiction
  · contradiction

section

variable {ν : Type} {defined : List String}

/-- The variants of a union are resolved one by one. -/
theorem resolveVariants_eq_ok {drafts : List (Shape Json ν)} {shapes : List (Shape String ν)} :
    resolveVariants defined drafts = .ok shapes ↔
      List.Forall₂ (fun d s => Shape.resolve defined d = .ok s) drafts shapes := by
  induction drafts generalizing shapes with
  | nil => simp [resolveVariants, eq_comm]
  | cons draft rest ih =>
    simp only [resolveVariants, bind_eq_ok, pure_eq_ok]
    constructor
    · rintro ⟨shape, hshape, more, hmore, rfl⟩
      exact .cons hshape (ih.1 hmore)
    · intro h
      cases h with
      | cons hshape hrest => exact ⟨_, hshape, _, ih.2 hrest, rfl⟩

/-- The properties of an object are resolved one by one, and only their shapes change. -/
theorem resolveProperties_eq_ok {drafts : List (Property (Shape Json ν))}
    {properties : List (Property (Shape String ν))} :
    resolveProperties defined drafts = .ok properties ↔
      List.Forall₂ (fun d p => Shape.resolve defined d.shape = .ok p.shape ∧ p.name = d.name ∧
        p.description = d.description ∧ p.optional = d.optional) drafts properties := by
  induction drafts generalizing properties with
  | nil => simp [resolveProperties, eq_comm]
  | cons draft rest ih =>
    simp only [resolveProperties, bind_eq_ok, pure_eq_ok]
    constructor
    · rintro ⟨shape, hshape, more, hmore, rfl⟩
      exact .cons ⟨hshape, rfl, rfl, rfl⟩ (ih.1 hmore)
    · intro h
      cases h with
      | @cons _ p _ _ hp hrest =>
        obtain ⟨name, shape, description, optional⟩ := p
        obtain ⟨hshape, rfl, rfl, rfl⟩ := hp
        exact ⟨_, hshape, _, ih.2 hrest, rfl⟩

end

/-- A member of the right one of two lists related member by member has a partner. -/
theorem exists_of_forall₂_right {α β : Type} {r : α → β → Prop} {xs : List α} {ys : List β}
    (h : List.Forall₂ r xs ys) {y : β} (hy : y ∈ ys) : ∃ x ∈ xs, r x y := by
  induction h with
  | nil => simp at hy
  | cons hr _ ih =>
    rcases List.mem_cons.1 hy with rfl | hy
    · exact ⟨_, List.mem_cons_self, hr⟩
    · obtain ⟨x, hx, hxy⟩ := ih hy
      exact ⟨x, List.mem_cons_of_mem _ hx, hxy⟩

/-- What a fragment says resolves to a well-formed shape when its children do. -/
theorem wellFormed_draft {defined : List String} {f : Fragment}
    {shape : Shape String (Option String)} (hsound : f.Sound)
    (hchildren : ∀ child ∈ f.children, ∀ shape, (Draft.ofJson child).resolve defined = .ok shape →
      WellFormed (Known defined) shape)
    (h : f.draft.resolve defined = .ok shape) : WellFormed (Known defined) shape := by
  cases f with
  | reference target =>
    simp only [Fragment.draft, Shape.resolve, bind_eq_ok, pure_eq_ok] at h
    obtain ⟨name, hname, rfl⟩ := h
    exact .reference (known_of_referenceName hname)
  | sole branch => exact hchildren branch (by simp [Fragment.children]) shape h
  | union title branches =>
    simp only [Fragment.draft, Shape.resolve, bind_eq_ok, pure_eq_ok] at h
    obtain ⟨variants, hvariants, rfl⟩ := h
    have hall := List.forall₂_map_left_iff.1 (resolveVariants_eq_ok.1 hvariants)
    refine .union ?_ ?_
    · rintro rfl
      exact hsound (List.forall₂_nil_right_iff.1 hall)
    · intro variant hvariant
      obtain ⟨branch, hbranch, hresolved⟩ := exists_of_forall₂_right hall hvariant
      cases branch with
      | single value =>
        obtain rfl := Except.ok.inj hresolved
        exact .literal value
      | unread child =>
        have hchild : child ∈ (Fragment.union title branches).children :=
          List.mem_filterMap.2 ⟨.unread child, hbranch, rfl⟩
        exact hchildren child hchild variant hresolved
  | enumeration title values =>
    obtain rfl := Except.ok.inj h
    exact .enumeration hsound
  | scalar kind =>
    obtain rfl := Except.ok.inj h
    exact .scalar kind
  | array items least most =>
    cases items with
    | none =>
      obtain rfl := Except.ok.inj h
      exact .array (.scalar .string)
    | some items =>
      simp only [Fragment.draft, Shape.resolve, bind_eq_ok, pure_eq_ok] at h
      obtain ⟨element, helement, rfl⟩ := h
      exact .array (hchildren items (by simp [Fragment.children]) element helement)
  | object title properties =>
    simp only [Fragment.draft, Shape.resolve, bind_eq_ok, pure_eq_ok] at h
    obtain ⟨resolved, hresolved, rfl⟩ := h
    have hall := List.forall₂_map_left_iff.1 (resolveProperties_eq_ok.1 hresolved)
    obtain ⟨names, hnames⟩ := hsound
    have hlisted : ∀ p ∈ resolved, p.optional = !names.contains p.name := by
      intro p hp
      obtain ⟨draft, hdraft, -, hname, -, hoptional⟩ := exists_of_forall₂_right hall hp
      rw [hoptional, hname]
      exact hnames draft hdraft
    refine .object ?_ (optional_eq hlisted)
    intro p hp
    obtain ⟨draft, hdraft, hshape, -⟩ := exists_of_forall₂_right hall hp
    have hchild : draft.shape ∈ (Fragment.object title properties).children :=
      List.mem_map.2 ⟨draft, hdraft, rfl⟩
    exact hchildren draft.shape hchild p.shape hshape
  | loose value =>
    obtain rfl := Except.ok.inj h
    exact .scalar .string
  | unknown type =>
    obtain rfl := Except.ok.inj h
    exact .scalar .string
  | free =>
    obtain rfl := Except.ok.inj h
    exact .scalar .string

/-- A draft whose references all resolve becomes a well-formed shape. -/
theorem wellFormed_resolve {defined : List String} (fragment : Json)
    {shape : Shape String (Option String)} (h : (Draft.ofJson fragment).resolve defined = .ok shape) :
    WellFormed (Known defined) shape := by
  rw [Draft.ofJson_eq] at h
  exact wellFormed_draft (sound_ofJson fragment)
    (fun child _below shape hchild => wellFormed_resolve child hchild) h
termination_by sizeOf fragment
decreasing_by exact Fragment.sizeOf_child _below

/-! ## Naming -/

section

variable {known : String → Prop}

/-- Variants are named one by one. -/
theorem nameVariants_forall₂ (owner : String) (position : Nat) (names : Names)
    (shapes : List (Shape String (Option String))) :
    List.Forall₂ (fun s v => ∃ hint names, v = (name none hint names s).1) shapes
      (nameVariants owner position names shapes).1 := by
  induction shapes generalizing position names with
  | nil =>
    rw [nameVariants]
    exact .nil
  | cons shape rest ih =>
    rw [nameVariants]
    exact .cons ⟨_, _, rfl⟩ (ih _ _)

/-- Properties are named one by one, and only their shapes change. -/
theorem nameProperties_forall₂ (owner : String) (names : Names)
    (properties : List (Property (Shape String (Option String)))) :
    List.Forall₂ (fun p q => q.name = p.name ∧ q.optional = p.optional ∧
      ∃ hint names, q.shape = (name none hint names p.shape).1) properties
      (nameProperties owner names properties).1 := by
  induction properties generalizing names with
  | nil =>
    rw [nameProperties]
    exact .nil
  | cons p rest ih =>
    rw [nameProperties]
    exact .cons ⟨rfl, rfl, _, _, rfl⟩ (ih _)

/-- A well-formed shape stays well-formed when its parts are named. -/
theorem wellFormed_name {shape : Shape String (Option String)} (h : WellFormed known shape)
    (given hint : Option String) (names : Names) :
    WellFormed known (name given hint names shape).1 := by
  induction h generalizing given hint names with
  | scalar kind =>
    rw [name]
    exact .scalar kind
  | literal value =>
    rw [name]
    exact .literal value
  | array _ ih =>
    rw [name]
    exact .array (ih _ _ _)
  | @object title properties _ hoptional ih =>
    rw [name]
    refine .object ?_ ?_
    · intro q hq
      obtain ⟨p, hp, -, -, hint, names, hshape⟩ :=
        exists_of_forall₂_right (nameProperties_forall₂ _ _ properties) hq
      rw [hshape]
      exact ih p hp none hint names
    · intro q hq
      obtain ⟨p, hp, hname, hopt, -⟩ :=
        exists_of_forall₂_right (nameProperties_forall₂ _ _ properties) hq
      rw [requiredNames_nameProperties, hopt, hname]
      exact hoptional p hp
  | enumeration hvalues =>
    rw [name]
    exact .enumeration hvalues
  | @union title variants hvariants _ ih =>
    rw [name]
    have hall := nameVariants_forall₂ (label given title hint "Union" names).1 0
      (label given title hint "Union" names).2 variants
    refine .union ?_ ?_
    · intro hnone
      rw [hnone] at hall
      exact hvariants (List.forall₂_nil_right_iff.1 hall)
    · intro v hv
      obtain ⟨shape, hshape, hint, names, rfl⟩ := exists_of_forall₂_right hall hv
      exact ih shape hshape none hint names
  | reference hknown =>
    rw [name]
    exact .reference hknown

end

/-! ## Compiling -/

/-- The names of a schema's dependencies. -/
def Compiled.names (c : Compiled) : List String := c.dependencies.map (·.1)

theorem map_fst_eq {α β γ : Type} {r : α × β → α × γ → Prop} {xs : List (α × β)}
    {ys : List (α × γ)} (h : List.Forall₂ r xs ys) (hr : ∀ x y, r x y → y.1 = x.1) :
    ys.map (·.1) = xs.map (·.1) := by
  induction h with
  | nil => rfl
  | cons hxy _ ih => rw [List.map_cons, List.map_cons, hr _ _ hxy, ih]

/-- Definitions are resolved one by one under their names. -/
theorem resolveDefinitions_eq_ok {defined : List String} {entries : Json.Members}
    {shapes : List (String × Shape String (Option String))} :
    resolveDefinitions defined entries = .ok shapes ↔
      List.Forall₂ (fun e s => (Draft.ofJson e.2).resolve defined = .ok s.2 ∧ s.1 = e.1)
        entries shapes := by
  induction entries generalizing shapes with
  | nil => simp [resolveDefinitions, eq_comm]
  | cons entry rest ih =>
    simp only [resolveDefinitions, bind_eq_ok, pure_eq_ok]
    constructor
    · rintro ⟨shape, hshape, more, hmore, rfl⟩
      exact .cons ⟨hshape, rfl⟩ (ih.1 hmore)
    · intro h
      cases h with
      | @cons _ s _ _ hs hrest =>
        obtain ⟨key, shape⟩ := s
        obtain ⟨hshape, rfl⟩ := hs
        exact ⟨_, hshape, _, ih.2 hrest, rfl⟩

/-- The parts of definitions are named one by one, and definitions keep their names. -/
theorem nameDefinitions_forall₂ (names : Names)
    (shapes : List (String × Shape String (Option String))) :
    List.Forall₂ (fun s d => d.1 = s.1 ∧ ∃ given names, d.2 = (name given none names s.2).1)
      shapes (nameDefinitions names shapes).1 := by
  induction shapes generalizing names with
  | nil => exact .nil
  | cons entry rest ih => exact .cons ⟨rfl, _, _, rfl⟩ (ih _)

/-- What compiling the members of a document goes through. -/
theorem compileMembers_eq_ok {document : Json.Members} {c : Compiled} :
    compileMembers document = .ok c ↔
      ∃ shapes, resolveDefinitions ((definitions document).map (·.1)) (definitions document) =
          .ok shapes ∧
        ∃ root, (Draft.ofJson (.obj document)).resolve ((definitions document).map (·.1)) =
            .ok root ∧
          c = ⟨(name none (some "Root")
              (nameDefinitions ⟨(definitions document).map (·.1), 0⟩ shapes).2 root).1,
            (nameDefinitions ⟨(definitions document).map (·.1), 0⟩ shapes).1⟩ := by
  simp only [compileMembers, bind_eq_ok, pure_eq_ok]
  refine exists_congr fun shapes => and_congr_right fun _ => exists_congr fun root =>
    and_congr_right fun _ => ?_
  exact eq_comm

/-- Only objects compile. -/
theorem compile_eq_ok {document : Json} {c : Compiled} :
    compile document = .ok c ↔
      ∃ members, document = .obj members ∧ compileMembers members = .ok c := by
  cases document with
  | obj members =>
    simp only [compile, Json.obj.injEq, exists_eq_left']
    cases compileMembers members <;> simp [Except.mapError]
  | _ => simp [compile]

/-- The root and the dependencies of a compiled schema are well-formed. The names that references
may give are those of the dependencies, which are the definitions of the document. -/
theorem compile_wellFormed {document : Json.Members} {c : Compiled}
    (h : compileMembers document = .ok c) :
    c.names = (definitions document).map (·.1) ∧ WellFormed (Known c.names) c.root ∧
      ∀ d ∈ c.dependencies, WellFormed (Known c.names) d.2 := by
  obtain ⟨shapes, hshapes, root, hroot, rfl⟩ := compileMembers_eq_ok.1 h
  have hresolved := resolveDefinitions_eq_ok.1 hshapes
  have hnamed := nameDefinitions_forall₂ ⟨(definitions document).map (·.1), 0⟩ shapes
  have hnames : (nameDefinitions ⟨(definitions document).map (·.1), 0⟩ shapes).1.map (·.1) =
      (definitions document).map (·.1) := by
    rw [map_fst_eq hnamed fun _ _ hr => hr.1, map_fst_eq hresolved fun _ _ hr => hr.2]
  unfold Compiled.names
  simp only [hnames]
  refine ⟨trivial, wellFormed_name (wellFormed_resolve _ hroot) none _ _, ?_⟩
  intro d hd
  obtain ⟨s, hs, -, given, names, hshape⟩ := exists_of_forall₂_right hnamed hd
  obtain ⟨e, -, hresolve, -⟩ := exists_of_forall₂_right hresolved hs
  rw [hshape]
  exact wellFormed_name (wellFormed_resolve e.2 hresolve) given none names

end Dialogue.Schema
