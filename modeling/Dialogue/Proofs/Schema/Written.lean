import Dialogue.Proofs.Schema.NormalForm
import Mathlib.Data.List.Perm.Basic

/-!
# Dialogue.Proofs.Schema.Written — what a document is rendered as, before any part is named

`Draft.written` is the document that a draft is rendered as, if its references resolve. It leaves
naming out, so whatever two documents are written as alike, they are compiled and rendered alike.

* `written_array`, `written_union`, `written_object` — a draft is written from the drafts below it,
  and its label is not looked at;
* `exists_compile_iff` — compiling succeeds just when the root and all definitions are written, and
  renders them as they are written, whatever the names;
* `compile_of_written` — two documents written alike, up to the order of definitions, compile alike;
* `EqualUpToOrder` — what the order of definitions changes in a rendered schema.
-/

namespace Dialogue.Schema

/-! ## Drafts -/

/-- A list is mapped alike to values when its elements are. -/
theorem mapM_eq_of_forall₂ {m : Type → Type} [Monad m] [LawfulMonad m] {α β γ : Type} {f : α → m γ}
    {g : β → m γ} {xs : List α} {ys : List β} (h : List.Forall₂ (fun x y => f x = g y) xs ys) :
    xs.mapM f = ys.mapM g := by
  induction h with
  | nil => rfl
  | cons hxy _ ih => rw [List.mapM_cons, List.mapM_cons, hxy, ih]

/-- The document that a draft is rendered as, if all its references resolve. -/
def Draft.written (defined : List String) (draft : Draft) : Except BadReference Json :=
  (draft.resolve defined).map render

section

variable {defined : List String}

theorem written_array (element : Draft) (least most : Option Nat) :
    Draft.written defined (.array element least most) =
      (element.written defined).map fun document =>
        .obj ([("type", .str "array"), ("items", document)] ++ renderBound "minItems" least ++
          renderBound "maxItems" most) := by
  unfold Draft.written
  rw [Shape.resolve]
  cases element.resolve defined <;> rfl

theorem written_reference (target : Json) :
    Draft.written defined (.reference target) =
      (referenceName defined target).map renderReference := by
  unfold Draft.written
  rw [Shape.resolve]
  cases referenceName defined target <;> rfl

/-- A reference gives a name, or fails, by which names are defined and not by their order. -/
theorem referenceName_congr {defined' : List String}
    (hsame : ∀ name, name ∈ defined ↔ name ∈ defined') (target : Json) :
    referenceName defined target = referenceName defined' target := by
  have hcontains : ∀ name, defined.contains name = defined'.contains name := by
    intro name
    rw [Bool.eq_iff_iff, List.contains_iff_mem, List.contains_iff_mem, hsame]
  unfold referenceName
  simp only [hcontains]

theorem map_resolveVariants (drafts : List Draft) :
    (resolveVariants defined drafts).map renderVariants =
      drafts.mapM (Draft.written defined) := by
  induction drafts with
  | nil => rfl
  | cons draft rest ih =>
    rw [resolveVariants, List.mapM_cons, ← ih]
    unfold Draft.written
    cases draft.resolve defined with
    | error cause => rfl
    | ok shape => cases resolveVariants defined rest <;> rfl

theorem written_union (title : Option String) (drafts : List Draft) :
    Draft.written defined (.union title drafts) =
      (drafts.mapM (Draft.written defined)).map fun documents =>
        .obj [("anyOf", .arr documents)] := by
  rw [← map_resolveVariants, Draft.written, Shape.resolve]
  cases resolveVariants defined drafts <;> rfl

/-- The member that a property is rendered as. -/
def Draft.writtenProperty (defined : List String) (p : Property Draft) :
    Except BadReference (String × Json) :=
  (p.shape.written defined).map fun document => (p.name, describe p.description document)

theorem map_resolveProperties (drafts : List (Property Draft)) :
    (resolveProperties defined drafts).map renderProperties =
      drafts.mapM (Draft.writtenProperty defined) := by
  induction drafts with
  | nil => rfl
  | cons draft rest ih =>
    rw [resolveProperties, List.mapM_cons, ← ih]
    unfold Draft.writtenProperty Draft.written
    cases draft.shape.resolve defined with
    | error cause => rfl
    | ok shape => cases resolveProperties defined rest <;> rfl

/-- Which properties are required depends on their names and marks alone. -/
theorem requiredNames_congr {α β : Type} {properties : List (Property α)}
    {others : List (Property β)}
    (h : List.Forall₂ (fun p q => p.name = q.name ∧ p.optional = q.optional) properties others) :
    requiredNames properties = requiredNames others := by
  induction h with
  | nil => rfl
  | cons hpq _ ih =>
    unfold requiredNames at ih ⊢
    rw [List.filter_cons, List.filter_cons, hpq.2]
    split
    · rw [List.map_cons, List.map_cons, hpq.1, ih]
    · exact ih

theorem written_object (title : Option String) (drafts : List (Property Draft)) :
    Draft.written defined (.object title drafts) =
      (drafts.mapM (Draft.writtenProperty defined)).map fun members =>
        .obj ([("type", .str "object"), ("properties", .obj members),
          ("additionalProperties", .bool false)] ++ renderRequired (requiredNames drafts)) := by
  rw [← map_resolveProperties, Draft.written, Shape.resolve]
  cases h : resolveProperties defined drafts with
  | error cause => rfl
  | ok properties =>
    have hrequired : requiredNames drafts = requiredNames properties :=
      requiredNames_congr ((resolveProperties_eq_ok.1 h).imp fun _ _ hp => ⟨hp.2.1.symm, hp.2.2.2.symm⟩)
    rw [hrequired]
    rfl

/-- Objects are written alike, whatever their titles, when their properties are. -/
theorem written_object_congr {defined' : List String} {title title' : Option String}
    {drafts others : List (Property Draft)}
    (h : List.Forall₂ (fun p q => p.name = q.name ∧
      p.shape.written defined = q.shape.written defined' ∧ p.description = q.description ∧
      p.optional = q.optional) drafts others) :
    Draft.written defined (.object title drafts) =
      Draft.written defined' (.object title' others) := by
  have hmembers : drafts.mapM (Draft.writtenProperty defined) =
      others.mapM (Draft.writtenProperty defined') := by
    refine mapM_eq_of_forall₂ (h.imp ?_)
    rintro p q ⟨hname, hshape, hdescription, -⟩
    rw [Draft.writtenProperty, Draft.writtenProperty, hname, hshape, hdescription]
  have hrequired : requiredNames drafts = requiredNames others :=
    requiredNames_congr (h.imp fun _ _ hpq => ⟨hpq.1, hpq.2.2.2⟩)
  rw [written_object, written_object, hmembers, hrequired]

end

/-! ## Documents -/

/-- A draft is written as a document just when it resolves to a shape that is rendered so. -/
theorem written_eq_ok {defined : List String} {draft : Draft} {document : Json} :
    draft.written defined = .ok document ↔
      ∃ shape, draft.resolve defined = .ok shape ∧ render shape = document := by
  unfold Draft.written
  cases draft.resolve defined <;> simp [Except.map]

/-- What the root of a document is written as. -/
def writtenRoot (document : Json.Members) : Except BadReference Json :=
  (Draft.ofJson (.obj document)).written ((definitions document).map (·.1))

/-- What the definitions of a document are written as, by name. -/
def writtenDefinitions (document : Json.Members) : List (String × Except BadReference Json) :=
  (definitions document).map fun e =>
    (e.1, (Draft.ofJson e.2).written ((definitions document).map (·.1)))

/-- Entries none of which failed. -/
def succeeded (entries : Json.Members) : List (String × Except BadReference Json) :=
  entries.map fun e => (e.1, .ok e.2)

/-- All definitions are written just when they resolve to shapes that are rendered so. -/
theorem writtenDefinitions_eq_succeeded {document entries : Json.Members} :
    writtenDefinitions document = succeeded entries ↔
      ∃ shapes, resolveDefinitions ((definitions document).map (·.1)) (definitions document) =
        .ok shapes ∧ rendered shapes = entries := by
  unfold writtenDefinitions succeeded
  rw [← List.forall₂_eq_eq_eq, List.forall₂_map_left_iff, List.forall₂_map_right_iff]
  generalize (definitions document).map (·.1) = defined
  generalize definitions document = listed
  constructor
  · intro h
    induction h with
    | nil => exact ⟨[], rfl, rfl⟩
    | @cons e e' _ _ hentry _ ih =>
      rcases e' with ⟨name, document⟩
      rcases Prod.mk.inj hentry with ⟨rfl, hwritten⟩
      rcases written_eq_ok.1 hwritten with ⟨shape, hshape, rfl⟩
      rcases ih with ⟨shapes, hshapes, rfl⟩
      refine ⟨(e.1, shape) :: shapes, ?_, rfl⟩
      rw [resolveDefinitions_eq_ok] at hshapes ⊢
      exact .cons ⟨hshape, rfl⟩ hshapes
  · rintro ⟨shapes, hshapes, rfl⟩
    rw [rendered, List.forall₂_map_right_iff]
    refine (resolveDefinitions_eq_ok.1 hshapes).imp ?_
    rintro e s ⟨hshape, hname⟩
    rw [written_eq_ok.2 ⟨s.2, hshape, rfl⟩, hname]

/-- Compiling succeeds when the root and all definitions are written, and renders them as they are
written: names play no part in it. -/
theorem exists_compile_iff {document : Json.Members} {root : Json} {entries : Json.Members} :
    (∃ c, compile (.obj document) = .ok c ∧ render c.root = root ∧
        rendered c.dependencies = entries) ↔
      writtenRoot document = .ok root ∧ writtenDefinitions document = succeeded entries := by
  rw [writtenDefinitions_eq_succeeded, writtenRoot, written_eq_ok]
  constructor
  · rintro ⟨c, hc, rfl, rfl⟩
    rcases compile_eq_ok.1 hc with ⟨members, hmembers, hc⟩
    obtain rfl := Json.obj.inj hmembers
    rcases compileMembers_eq_ok.1 hc with ⟨shapes, hshapes, root, hroot, rfl⟩
    exact ⟨⟨root, hroot, (render_name _ _ _ root).symm⟩, shapes, hshapes,
      (render_nameDefinitions _ shapes).symm⟩
  · rintro ⟨⟨root, hroot, rfl⟩, shapes, hshapes, rfl⟩
    have hc := compileMembers_eq_ok.2 ⟨shapes, hshapes, root, hroot, rfl⟩
    exact ⟨_, compile_eq_ok.2 ⟨document, rfl, hc⟩, render_name _ _ _ root,
      render_nameDefinitions _ shapes⟩

/-- A document that is written like one that compiles, up to the order of definitions, compiles and
is rendered like it. -/
theorem compile_of_written {document other : Json.Members} {c : Compiled}
    (hroot : writtenRoot document = writtenRoot other)
    (hdefinitions : (writtenDefinitions document).Perm (writtenDefinitions other))
    (hc : compile (.obj document) = .ok c) :
    ∃ c', compile (.obj other) = .ok c' ∧ render c'.root = render c.root ∧
      (rendered c'.dependencies).Perm (rendered c.dependencies) := by
  rcases exists_compile_iff.1 ⟨c, hc, rfl, rfl⟩ with ⟨hwritten, hentries⟩
  rw [hentries] at hdefinitions
  -- what is a reordering of entries that succeeded is a list of entries that succeeded
  have hreordered : ∃ entries, writtenDefinitions other = succeeded entries ∧
      entries.Perm (rendered c.dependencies) :=
    (congrFun₂ (List.eq_map_comp_perm _) _ _).mpr hdefinitions.symm
  rcases hreordered with ⟨entries, hother, hperm⟩
  rcases exists_compile_iff.2 ⟨hroot ▸ hwritten, hother⟩ with ⟨c', hc', hroot', rfl⟩
  exact ⟨c', hc', hroot', hperm⟩

/-! ## Rendered schemas -/

/-- Whether two objects have the same members in the same order, but for the order of the entries
under one key. -/
def EqualUpToOrder (key : String) : Json → Json → Prop
  | .obj members, .obj others =>
    List.Forall₂ (fun member other => member = other ∨ ∃ entries entries',
      member = (key, .obj entries) ∧ other = (key, .obj entries') ∧ entries.Perm entries')
      members others
  | _, _ => False

theorem Compiled.equalUpToOrder_toJson {c c' : Compiled} (hroot : render c'.root = render c.root)
    (hdependencies : (rendered c'.dependencies).Perm (rendered c.dependencies)) :
    EqualUpToOrder "$defs" c.toJson c'.toJson := by
  rcases c.toJson_eq with ⟨members, hmembers, hjson, -⟩
  rcases c'.toJson_eq with ⟨others, hothers, hjson', -⟩
  obtain rfl : others = members := Json.obj.inj (hothers.symm.trans (hroot.trans hmembers))
  rw [hjson, hjson', EqualUpToOrder]
  refine List.rel_append (List.forall₂_same.2 fun member _ => .inl rfl) ?_
  have hempty : c.dependencies.isEmpty = c'.dependencies.isEmpty := by
    have hlength := hdependencies.length_eq
    rw [rendered, rendered, List.length_map, List.length_map] at hlength
    rw [Bool.eq_iff_iff, List.isEmpty_iff_length_eq_zero, List.isEmpty_iff_length_eq_zero, hlength]
  rw [renderDefinitions_eq, renderDefinitions_eq, hempty]
  split
  · exact .nil
  · exact .cons (.inr ⟨_, _, rfl, rfl, hdependencies.symm⟩) .nil

end Dialogue.Schema
