import Dialogue.Proofs.Schema.NormalForm
import Dialogue.Proofs.Schema.Titles

/-!
# Dialogue.Proofs.Schema.Reach — the references that make a document fail

Compiling a document looks at its root, at all its definitions, and from there at some of the
fragments below: which ones depends on which keywords stand beside each other. `Reached` says which
fragments are looked at, in terms of the document alone, and `RefersBadly` what is wrong with a
reference. A document fails to compile just when a fragment that is reached has a reference that is
wrong.

* `mem_children_iff` — the fragments below a fragment that are looked at (`Visits`);
* `resolve_draft_iff` — a fragment resolves when its own reference and what is below it do;
* `resolves_iff` — a fragment's own reference;
* `compile_rejects_iff` — the statement for documents.
-/

namespace Dialogue.Schema

/-! ## Fragments that are reached -/

/-- Whether a fragment is a choice of one value. -/
def SingleValued (fragment : Json) : Prop :=
  ∃ members value, fragment = .obj members ∧
    (members.lookup "enum" = some (.arr [value]) ∨
      members.lookup "enum" = none ∧ members.lookup "const" = some value)

/-- Whether a fragment offers branches. -/
def Branches (members : Json.Members) (branches : List Json) : Prop :=
  branches ≠ [] ∧ members.lookup "anyOf" = some (.arr branches)

/-- Whether a fragment lists its values. -/
def ListsValues (members : Json.Members) : Prop :=
  (∃ values, values ≠ [] ∧ members.lookup "enum" = some (.arr values)) ∨
    ∃ value, members.lookup "const" = some value

/-- The primary type of a fragment: its type, or the first entry other than `"null"` of a list of
types. -/
def PrimaryType (members : Json.Members) (type : Json) : Prop :=
  (members.lookup "type" = some type ∧ ∀ entries, type ≠ .arr entries) ∨
    ∃ before after, members.lookup "type" = some (.arr (before ++ type :: after)) ∧
      (∀ entry ∈ before, entry = .str "null") ∧ type ≠ .str "null"

/-- Whether a fragment has no primary type, or null in the place of one. -/
def Untyped (members : Json.Members) : Prop := ∀ type, PrimaryType members type → type = .null

/-- The fragments below an object without a reference that compiling looks at: the branches that are
neither null nor a choice of one value; where there are no branches and no values are listed, the
elements' fragment of an array, and the properties' fragments of an object. -/
inductive Visits (members : Json.Members) : Json → Prop where
  | branch {branches : List Json} {branch : Json} (hbranches : Branches members branches)
      (hmem : branch ∈ branches) (hnull : branch ≠ nullBranch) (hsingle : ¬ SingleValued branch) :
      Visits members branch
  | items {entries : Json.Members} (hbranches : ∀ branches, ¬ Branches members branches)
      (hvalues : ¬ ListsValues members) (htype : PrimaryType members (.str "array"))
      (hitems : members.lookup "items" = some (.obj entries)) : Visits members (.obj entries)
  | property {entries : Json.Members} {name : String} {fragment : Json}
      (hbranches : ∀ branches, ¬ Branches members branches) (hvalues : ¬ ListsValues members)
      (htype : PrimaryType members (.str "object") ∨ Untyped members)
      (hproperties : members.lookup "properties" = some (.obj entries))
      (hmem : (name, fragment) ∈ entries) : Visits members fragment

/-- Whether a document defines a name by a fragment. What stands under `definitions` shadows what
stands under `$defs`. -/
def Defines (document : Json.Members) (name : String) (fragment : Json) : Prop :=
  (name, fragment) ∈ block "definitions" document ∨
    (name, fragment) ∈ block "$defs" document ∧
      ∀ other, (name, other) ∉ block "definitions" document

/-- The fragments of a document that compiling looks at. -/
inductive Reached (document : Json.Members) : Json → Prop where
  | root : Reached document (.obj document)
  | definition {name : String} {fragment : Json} (h : Defines document name fragment) :
      Reached document fragment
  | visited {members : Json.Members} {fragment : Json} (h : Reached document (.obj members))
      (href : members.lookup "$ref" = none) (hvisits : Visits members fragment) :
      Reached document fragment

/-- Whether a fragment has a reference that does not give the name of a definition. -/
def RefersBadly (document : Json.Members) (fragment : Json) : Prop :=
  ∃ members target, fragment = .obj members ∧ members.lookup "$ref" = some target ∧
    ¬ ∃ name, Targets target name ∧ Referable name ∧ ∃ definition, Defines document name definition

/-! ## What a fragment visits -/

theorem singleValue?_eq_none_iff {fragment : Json} :
    singleValue? fragment = none ↔ ¬ SingleValued fragment := by
  constructor
  · rintro h ⟨members, value, rfl, henum | ⟨henum, hconst⟩⟩
    · simp [singleValue?, henum] at h
    · simp [singleValue?, henum, hconst] at h
  · intro h
    unfold singleValue?
    split
    · rename_i members
      split
      · rename_i value henum
        exact absurd ⟨members, value, rfl, Or.inl henum⟩ h
      · rename_i value henum hconst
        exact absurd ⟨members, value, rfl, Or.inr ⟨henum, hconst⟩⟩ h
      · rfl
    · rfl

/-- Of a choice between branches those are read that are neither null nor a choice of one value. -/
theorem mem_children_ofBranches {title : Option String} {branches : List Json} {child : Json} :
    child ∈ (Fragment.ofBranches title branches).children ↔
      child ∈ branches ∧ child ≠ nullBranch ∧ ¬ SingleValued child := by
  have hkept : child ∈ branches ∧ child ≠ nullBranch ∧ ¬ SingleValued child ↔
      child ∈ branches.filter (!isNullBranch ·) ∧ singleValue? child = none := by
    rw [List.mem_filter, and_assoc, singleValue?_eq_none_iff, ne_eq, ← isNullBranch_iff]
    simp
  rw [hkept]
  unfold Fragment.ofBranches
  simp only
  split
  · rename_i hnone
    simp [hnone, Fragment.children]
  · rename_i branch hone
    rw [hone, List.mem_singleton]
    cases hsingle : singleValue? branch with
    | some value =>
      refine iff_of_false (by simp [Fragment.children]) ?_
      rintro ⟨rfl, hnot⟩
      rw [hsingle] at hnot
      contradiction
    | none =>
      have hchildren : (if 1 < branches.length then Fragment.sole branch
          else Fragment.union title [.unread branch]).children = [branch] := by
        split <;> rfl
      show child ∈ (if 1 < branches.length then Fragment.sole branch
        else Fragment.union title [.unread branch]).children ↔ _
      rw [hchildren, List.mem_singleton]
      exact ⟨fun h => ⟨h, h ▸ hsingle⟩, And.left⟩
  · split
    · rename_i values hvalues
      -- every branch that is kept is a choice of one value
      refine iff_of_false (by simp [Fragment.children]) ?_
      rintro ⟨hmem, hnot⟩
      have hsome := mapM_eq_some_iff.1 hvalues
      have hnone : none ∈ values.map some := by
        rw [← hsome, ← hnot]
        exact List.mem_map_of_mem hmem
      simp at hnone
    · simp only [Fragment.children, List.mem_filterMap, List.mem_map]
      constructor
      · rintro ⟨-, ⟨branch, hbranch, rfl⟩, hread⟩
        unfold Branch.ofJson at hread
        split at hread
        · contradiction
        · rename_i hnot
          obtain rfl := Option.some.inj hread
          exact ⟨hbranch, hnot⟩
      · rintro ⟨hmem, hnot⟩
        exact ⟨.unread child, ⟨child, hmem, by simp [Branch.ofJson, hnot]⟩, rfl⟩

/-! ### Types -/

/-- In a list of types the primary type is the first entry other than `"null"`. -/
theorem primaryType_of_list {members : Json.Members} {entries : List Json} {type : Json}
    (h : members.lookup "type" = some (.arr entries)) :
    PrimaryType members type ↔ ∃ before after, entries = before ++ type :: after ∧
      (∀ entry ∈ before, entry = .str "null") ∧ type ≠ .str "null" := by
  unfold PrimaryType
  rw [h]
  constructor
  · rintro (⟨heq, hsimple⟩ | ⟨before, after, heq, hrest⟩)
    · exact absurd (Option.some.inj heq).symm (hsimple entries)
    · exact ⟨before, after, Json.arr.inj (Option.some.inj heq), hrest⟩
  · rintro ⟨before, after, rfl, hrest⟩
    exact Or.inr ⟨before, after, rfl, hrest⟩

/-- A type that is no list is the primary type itself. -/
theorem primaryType_of_simple {members : Json.Members} {type : Json}
    (h : ∀ entries, members.lookup "type" ≠ some (.arr entries)) :
    PrimaryType members type ↔ members.lookup "type" = some type := by
  constructor
  · rintro (⟨heq, -⟩ | ⟨before, after, heq, -⟩)
    · exact heq
    · exact absurd heq (h _)
  · intro heq
    refine Or.inl ⟨heq, ?_⟩
    rintro entries rfl
    exact h entries heq

theorem primaryType?_eq_some_iff {members : Json.Members} {type : Json} :
    primaryType? members = some type ↔ PrimaryType members type ∧ type ≠ .null := by
  unfold primaryType?
  simp only
  split
  · rename_i entries hentries
    rw [primaryType_of_list hentries, Option.bind_eq_some_iff]
    constructor
    · rintro ⟨entry, hfind, hentry⟩
      obtain ⟨hnamed, before, after, rfl, hbefore⟩ := List.find?_eq_some_iff_append.1 hfind
      split at hentry
      · contradiction
      · rename_i hgiven
        obtain rfl := Option.some.inj hentry
        refine ⟨⟨before, after, rfl, ?_, ?_⟩, hgiven⟩
        · intro other hother
          have hnull := hbefore other hother
          split at hnull
          · rfl
          · contradiction
        · rintro rfl
          contradiction
    · rintro ⟨⟨before, after, rfl, hbefore, hnamed⟩, hgiven⟩
      refine ⟨type, List.find?_eq_some_iff_append.2 ⟨?_, before, after, rfl, ?_⟩, ?_⟩
      · split
        · contradiction
        · rfl
      · intro other hother
        rw [hbefore other hother]
        rfl
      · split
        · contradiction
        · rfl
  · rename_i hnull
    rw [primaryType_of_simple (by simp [hnull]), hnull]
    refine iff_of_false (by simp) ?_
    rintro ⟨heq, hgiven⟩
    exact hgiven (Option.some.inj heq).symm
  · rename_i hlist hnull
    rw [primaryType_of_simple hlist]
    refine ⟨fun h => ⟨h, ?_⟩, And.left⟩
    rintro rfl
    exact hnull h

theorem primaryType?_eq_none_iff {members : Json.Members} :
    primaryType? members = none ↔ Untyped members := by
  rw [Option.eq_none_iff_forall_ne_some]
  simp only [ne_eq, primaryType?_eq_some_iff, not_and, Classical.not_not, Untyped]

theorem primaryType_str_iff {members : Json.Members} {name : String} :
    PrimaryType members (.str name) ↔ primaryType? members = some (.str name) := by
  rw [primaryType?_eq_some_iff]
  simp

theorem mem_children_object (title : Option String) {members : Json.Members} {child : Json} :
    child ∈ (Fragment.object title (properties members)).children ↔
      ∃ entries, members.lookup "properties" = some (.obj entries) ∧
        ∃ name, (name, child) ∈ entries := by
  unfold Fragment.children properties
  simp only
  split
  · rename_i entries hentries
    simp [hentries]
  · rename_i hnone
    refine iff_of_false (by simp) ?_
    rintro ⟨entries, hentries, -⟩
    exact hnone entries hentries

/-- What is read below a fragment that is told apart by its type. -/
theorem mem_children_ofType {members : Json.Members} {child : Json} :
    child ∈ (Fragment.ofType members).children ↔
      (PrimaryType members (.str "array") ∧
        ∃ entries, members.lookup "items" = some (.obj entries) ∧ child = .obj entries) ∨
      (PrimaryType members (.str "object") ∨ Untyped members) ∧
        ∃ entries, members.lookup "properties" = some (.obj entries) ∧
          ∃ name, (name, child) ∈ entries := by
  rw [primaryType_str_iff, primaryType_str_iff, ← primaryType?_eq_none_iff,
    ← mem_children_object (title? members)]
  unfold Fragment.ofType
  simp only
  split
  · -- without a type the properties decide
    rename_i htype
    simp only [htype, reduceCtorEq, false_and, false_or, or_true, true_and]
    split
    · rfl
    · rename_i hnone
      refine iff_of_false (by simp [Fragment.children]) ?_
      rw [mem_children_object]
      rintro ⟨entries, hentries, -⟩
      exact hnone entries hentries
  all_goals rename_i htype
  all_goals simp only [htype, reduceCtorEq, Option.some.injEq, Json.str.injEq, String.reduceEq,
    false_and, or_false, false_or, true_and]
  · simp [Fragment.children]
  · simp [Fragment.children]
  · simp [Fragment.children]
  · simp [Fragment.children]
  · -- an array has its elements' fragment below, if that is an object
    unfold Fragment.children
    simp only
    split
    · rename_i entries hentries
      simp [hentries]
    · rename_i hnone
      refine iff_of_false (by simp) ?_
      rintro ⟨entries, hentries, -⟩
      exact hnone entries hentries
  · -- a type that is not recognised
    rename_i harray hobject
    refine iff_of_false (by simp [Fragment.children]) ?_
    rintro (⟨heq, -⟩ | ⟨heq, -⟩)
    · exact harray heq
    · exact hobject heq

/-! ### Fragments -/

theorem visits_of_branches {members : Json.Members} {branches : List Json} {child : Json}
    (h : Branches members branches) :
    Visits members child ↔ child ∈ branches ∧ child ≠ nullBranch ∧ ¬ SingleValued child := by
  constructor
  · intro hvisits
    cases hvisits with
    | branch hother hmem hnull hsingle =>
      obtain rfl := Json.arr.inj (Option.some.inj (hother.2.symm.trans h.2))
      exact ⟨hmem, hnull, hsingle⟩
    | items hnone => exact absurd h (hnone branches)
    | property hnone => exact absurd h (hnone branches)
  · rintro ⟨hmem, hnull, hsingle⟩
    exact .branch h hmem hnull hsingle

theorem not_visits_of_values {members : Json.Members}
    (hnone : ∀ branches, ¬ Branches members branches) (hvalues : ListsValues members)
    (child : Json) : ¬ Visits members child := by
  intro hvisits
  cases hvisits with
  | branch h => exact hnone _ h
  | items _ hnot => exact hnot hvalues
  | property _ hnot => exact hnot hvalues

theorem visits_of_type {members : Json.Members} {child : Json}
    (hnone : ∀ branches, ¬ Branches members branches) (hvalues : ¬ ListsValues members) :
    Visits members child ↔
      (PrimaryType members (.str "array") ∧
        ∃ entries, members.lookup "items" = some (.obj entries) ∧ child = .obj entries) ∨
      (PrimaryType members (.str "object") ∨ Untyped members) ∧
        ∃ entries, members.lookup "properties" = some (.obj entries) ∧
          ∃ name, (name, child) ∈ entries := by
  constructor
  · intro hvisits
    cases hvisits with
    | branch h => exact absurd h (hnone _)
    | items _ _ htype hitems => exact Or.inl ⟨htype, _, hitems, rfl⟩
    | property _ _ htype hproperties hmem => exact Or.inr ⟨htype, _, hproperties, _, hmem⟩
  · rintro (⟨htype, entries, hitems, rfl⟩ | ⟨htype, entries, hproperties, name, hmem⟩)
    · exact .items hnone hvalues htype hitems
    · exact .property hnone hvalues htype hproperties hmem

/-- What is read below an object without a reference. -/
theorem mem_children_ofMembers {members : Json.Members} {child : Json}
    (href : members.lookup "$ref" = none) :
    child ∈ (Fragment.ofMembers members).children ↔ Visits members child := by
  unfold Fragment.ofMembers
  rw [href]
  simp only
  split
  · rename_i first more hany
    rw [mem_children_ofBranches, visits_of_branches ⟨List.cons_ne_nil _ _, hany⟩]
  · rename_i hempty
    have hnone : ∀ branches, ¬ Branches members branches := by
      rintro branches ⟨hne, hany⟩
      obtain ⟨first, more, rfl⟩ := List.exists_cons_of_ne_nil hne
      exact hempty first more hany
    split
    · rename_i first more henum
      have hvalues : ListsValues members := Or.inl ⟨_, List.cons_ne_nil _ _, henum⟩
      exact iff_of_false (by simp [Fragment.children]) (not_visits_of_values hnone hvalues child)
    · rename_i hconst _
      have hvalues : ListsValues members := Or.inr ⟨_, hconst⟩
      exact iff_of_false (by simp [Fragment.children]) (not_visits_of_values hnone hvalues child)
    · rename_i hconst henum
      have hvalues : ¬ ListsValues members := by
        rintro (⟨values, hne, hvalues⟩ | ⟨value, hvalue⟩)
        · obtain ⟨first, more, rfl⟩ := List.exists_cons_of_ne_nil hne
          exact henum first more hvalues
        · rw [hvalue] at hconst
          contradiction
      rw [mem_children_ofType, visits_of_type hnone hvalues]

/-- A fragment is read below another one just when that is an object without a reference and visits
it. -/
theorem mem_children_iff {fragment child : Json} :
    child ∈ (Fragment.ofJson fragment).children ↔
      ∃ members, fragment = .obj members ∧ members.lookup "$ref" = none ∧ Visits members child := by
  cases fragment with
  | obj members =>
    simp only [Json.obj.injEq, exists_eq_left', Fragment.ofJson]
    cases href : members.lookup "$ref" with
    | none => simp [mem_children_ofMembers href]
    | some target => simp [ofMembers_reference href, Fragment.children]
  | _ => simp [Fragment.ofJson, Fragment.children]

/-! ## Resolving -/

section

variable {defined : List String}

/-- An operation whose result is only wrapped succeeds when it does. -/
theorem exists_bind_pure_iff {ε α β : Type} {x : Except ε α} {f : α → β} :
    (∃ b, (x >>= fun a => pure (f a)) = .ok b) ↔ ∃ a, x = .ok a := by
  cases x <;> simp [bind, Except.bind, pure, Except.pure]

/-- A list has a partner when each of its elements has one. -/
theorem exists_forall₂_iff {α β : Type} {r : α → β → Prop} {xs : List α} :
    (∃ ys, List.Forall₂ r xs ys) ↔ ∀ x ∈ xs, ∃ y, r x y := by
  refine ⟨?_, exists_forall₂⟩
  rintro ⟨ys, h⟩ x hx
  obtain ⟨y, -, hy⟩ := exists_of_forall₂_right h.flip hx
  exact ⟨y, hy⟩

theorem resolve_branch_iff (b : Branch) :
    (∃ shape, b.draft.resolve defined = .ok shape) ↔
      ∀ child, b.fragment? = some child →
        ∃ shape, (Draft.ofJson child).resolve defined = .ok shape := by
  cases b with
  | single value => exact iff_of_true ⟨_, rfl⟩ (by simp [Branch.fragment?])
  | unread fragment => simp [Branch.draft, Branch.fragment?]

/-- Whether a fragment's own reference, if it is one, gives a defined name. -/
def Fragment.Resolves (defined : List String) (f : Fragment) : Prop :=
  ∀ target, f = .reference target → ∃ name, referenceName defined target = .ok name

/-- What a fragment says resolves when its own reference and its children do. -/
theorem resolve_draft_iff (f : Fragment) :
    (∃ shape, f.draft.resolve defined = .ok shape) ↔
      f.Resolves defined ∧
        ∀ child ∈ f.children, ∃ shape, (Draft.ofJson child).resolve defined = .ok shape := by
  unfold Fragment.Resolves
  cases f with
  | reference target =>
    simp only [Fragment.draft, Shape.resolve, exists_bind_pure_iff, Fragment.reference.injEq,
      forall_eq', Fragment.children, List.not_mem_nil, false_implies, implies_true, and_true]
  | sole branch => simp [Fragment.draft, Fragment.children]
  | union title branches =>
    simp only [Fragment.draft, Shape.resolve, exists_bind_pure_iff, resolveVariants_eq_ok,
      exists_forall₂_iff, List.forall_mem_map, resolve_branch_iff]
    simp only [reduceCtorEq, false_implies, implies_true, true_and, Fragment.children,
      List.forall_mem_filterMap]
  | array items least most =>
    cases items with
    | none => exact iff_of_true ⟨_, rfl⟩ (by simp [Fragment.children])
    | some items =>
      simp only [Fragment.draft, Shape.resolve, exists_bind_pure_iff]
      simp [Fragment.children]
  | object title properties =>
    simp only [Fragment.draft, Shape.resolve, exists_bind_pure_iff, resolveProperties_eq_ok,
      exists_forall₂_iff, List.forall_mem_map]
    -- only the shape of a property can fail
    have hproperty : ∀ p : Property Json, (∃ resolved : Property (Shape String (Option String)),
        (Draft.ofJson p.shape).resolve defined = .ok resolved.shape ∧ resolved.name = p.name ∧
          resolved.description = p.description ∧ resolved.optional = p.optional) ↔
        ∃ shape, (Draft.ofJson p.shape).resolve defined = .ok shape := by
      intro p
      constructor
      · rintro ⟨resolved, hshape, -⟩
        exact ⟨resolved.shape, hshape⟩
      · rintro ⟨shape, hshape⟩
        exact ⟨⟨p.name, shape, p.description, p.optional⟩, hshape, rfl, rfl, rfl⟩
    simp only [hproperty, reduceCtorEq, false_implies, implies_true, true_and, Fragment.children,
      List.forall_mem_map]
  | enumeration title values => exact iff_of_true ⟨_, rfl⟩ (by simp [Fragment.children])
  | scalar kind => exact iff_of_true ⟨_, rfl⟩ (by simp [Fragment.children])
  | loose value => exact iff_of_true ⟨_, rfl⟩ (by simp [Fragment.children])
  | unknown type => exact iff_of_true ⟨_, rfl⟩ (by simp [Fragment.children])
  | free => exact iff_of_true ⟨_, rfl⟩ (by simp [Fragment.children])

end

/-! ## References -/

/-- The text after one of the heads of references is the name that the reference gives. -/
theorem targets_of_afterHead? {target name : String} (h : afterHead? target = some name) :
    Targets (.str target) name := by
  have hhead : ∀ head ∈ referenceHeads, (if head.toList.isPrefixOf target.toList then
      some (String.ofList (target.toList.drop head.length)) else none) = some name →
        target = head ++ name := by
    intro head _ hsome
    split at hsome
    · rename_i hprefix
      obtain ⟨rest, hrest⟩ := List.isPrefixOf_iff_prefix.1 hprefix
      rw [← Option.some.inj hsome, ← String.toList_inj, String.toList_append, String.toList_ofList,
        ← hrest, ← String.length_toList, List.drop_left]
    · contradiction
  obtain ⟨head, hmem, hsome⟩ := List.exists_of_findSome?_eq_some h
  have heq := hhead head hmem hsome
  unfold Targets
  simp only [referenceHeads, List.mem_cons, List.not_mem_nil, or_false] at hmem
  rcases hmem with rfl | rfl
  · exact Or.inl (congrArg Json.str heq)
  · exact Or.inr (congrArg Json.str heq)

/-- A reference resolves just when it gives a defined name that is not empty and has no slash. -/
theorem referenceName_isOk_iff {defined : List String} {target : Json} :
    (∃ name, referenceName defined target = .ok name) ↔
      ∃ name, Targets target name ∧ Referable name ∧ name ∈ defined := by
  constructor
  · rintro ⟨name, h⟩
    obtain ⟨hdefined, hreferable⟩ := known_of_referenceName h
    refine ⟨name, ?_, hreferable, hdefined⟩
    unfold referenceName at h
    split at h
    · split at h
      · contradiction
      · rename_i hafter
        split at h
        · contradiction
        · split at h
          · obtain rfl := Except.ok.inj h
            exact targets_of_afterHead? hafter
          · contradiction
    · contradiction
  · rintro ⟨name, htargets, hreferable, hdefined⟩
    exact ⟨name, referenceName_of_targets htargets hreferable hdefined⟩

theorem mem_definitions_iff {document : Json.Members} {name : String} {fragment : Json} :
    (name, fragment) ∈ definitions document ↔ Defines document name fragment := by
  simp only [definitions, Defines, List.mem_append, List.mem_filter, lookup_isNone_iff,
    List.mem_map, Prod.exists, not_exists, not_and]
  refine or_congr_right (and_congr_right fun _ => ⟨fun h other hother => ?_, ?_⟩)
  · exact h name other hother rfl
  · rintro h _ other hother rfl
    exact h other hother

/-- The names that references may give are those that the document defines. -/
theorem mem_defined_iff {document : Json.Members} {name : String} :
    name ∈ (definitions document).map (·.1) ↔ ∃ fragment, Defines document name fragment := by
  simp only [List.mem_map, Prod.exists, mem_definitions_iff]
  constructor
  · rintro ⟨_, fragment, h, rfl⟩
    exact ⟨fragment, h⟩
  · rintro ⟨fragment, h⟩
    exact ⟨name, fragment, h, rfl⟩

theorem ofBranches_ne_reference (title : Option String) (branches : List Json) (target : Json) :
    Fragment.ofBranches title branches ≠ .reference target := by
  unfold Fragment.ofBranches
  simp only
  split
  · simp
  · split
    · simp
    · split <;> simp
  · split <;> simp

theorem ofType_ne_reference (members : Json.Members) (target : Json) :
    Fragment.ofType members ≠ .reference target := by
  unfold Fragment.ofType
  simp only
  split
  · split <;> simp
  all_goals simp

/-- A fragment is a reference just when it is an object with one, whatever else stands there. -/
theorem ofJson_eq_reference_iff {fragment target : Json} :
    Fragment.ofJson fragment = .reference target ↔
      ∃ members, fragment = .obj members ∧ members.lookup "$ref" = some target := by
  cases fragment with
  | obj members =>
    simp only [Json.obj.injEq, exists_eq_left', Fragment.ofJson]
    cases href : members.lookup "$ref" with
    | some other => simp [ofMembers_reference href]
    | none =>
      refine iff_of_false ?_ (by simp)
      unfold Fragment.ofMembers
      rw [href]
      simp only
      split
      · exact ofBranches_ne_reference _ _ _
      · split
        · simp
        · simp
        · exact ofType_ne_reference _ _
  | _ => simp [Fragment.ofJson]

/-- A fragment's own reference resolves just when it is not a wrong one. -/
theorem resolves_iff {document : Json.Members} {fragment : Json} :
    (Fragment.ofJson fragment).Resolves ((definitions document).map (·.1)) ↔
      ¬ RefersBadly document fragment := by
  unfold Fragment.Resolves RefersBadly
  simp only [ofJson_eq_reference_iff, referenceName_isOk_iff, mem_defined_iff]
  constructor
  · rintro h ⟨members, target, heq, href, hnone⟩
    exact hnone (h target ⟨members, heq, href⟩)
  · rintro h target ⟨members, heq, href⟩
    exact Classical.byContradiction fun hnone => h ⟨members, target, heq, href, hnone⟩

/-! ## Documents -/

section

variable {document : Json.Members}

/-- When the root and all definitions resolve, so does every fragment that is reached. -/
theorem reached_resolve_of_roots {defined : List String}
    (hroot : ∃ shape, (Draft.ofJson (.obj document)).resolve defined = .ok shape)
    (hdefinitions : ∀ name fragment, Defines document name fragment →
      ∃ shape, (Draft.ofJson fragment).resolve defined = .ok shape)
    {fragment : Json} (h : Reached document fragment) :
    ∃ shape, (Draft.ofJson fragment).resolve defined = .ok shape := by
  induction h with
  | root => exact hroot
  | definition hdefines => exact hdefinitions _ _ hdefines
  | visited _ href hvisits ih =>
    rw [Draft.ofJson_eq, resolve_draft_iff] at ih
    exact ih.2 _ (mem_children_iff.2 ⟨_, rfl, href, hvisits⟩)

/-- When no fragment that is reached has a wrong reference, every one of them resolves. -/
theorem reached_resolve_of_references {defined : List String}
    (hall : ∀ fragment, Reached document fragment →
      (Fragment.ofJson fragment).Resolves defined) (fragment : Json)
    (h : Reached document fragment) :
    ∃ shape, (Draft.ofJson fragment).resolve defined = .ok shape := by
  rw [Draft.ofJson_eq, resolve_draft_iff]
  refine ⟨hall fragment h, ?_⟩
  intro child hchild
  obtain ⟨members, heq, href, hvisits⟩ := mem_children_iff.1 hchild
  have hmembers : Reached document (.obj members) := heq ▸ h
  exact reached_resolve_of_references hall child (hmembers.visited href hvisits)
termination_by sizeOf fragment
decreasing_by exact Fragment.sizeOf_child hchild

/-- A document compiles just when its root and its definitions resolve. -/
theorem compile_isOk_iff_resolve :
    (∃ c, compile (.obj document) = .ok c) ↔
      (∃ shape, (Draft.ofJson (.obj document)).resolve ((definitions document).map (·.1)) =
        .ok shape) ∧
      ∀ name fragment, Defines document name fragment →
        ∃ shape, (Draft.ofJson fragment).resolve ((definitions document).map (·.1)) =
          .ok shape := by
  constructor
  · rintro ⟨c, hc⟩
    obtain ⟨members, heq, hmembers⟩ := compile_eq_ok.1 hc
    obtain rfl := Json.obj.inj heq
    obtain ⟨shapes, hshapes, root, hroot, -⟩ := compileMembers_eq_ok.1 hmembers
    refine ⟨⟨root, hroot⟩, ?_⟩
    intro name fragment hdefines
    obtain ⟨resolved, hresolved, -⟩ := exists_forall₂_iff.1
      ⟨shapes, resolveDefinitions_eq_ok.1 hshapes⟩ (name, fragment) (mem_definitions_iff.2 hdefines)
    exact ⟨resolved.2, hresolved⟩
  · rintro ⟨⟨root, hroot⟩, hdefinitions⟩
    have hall : ∀ entry ∈ definitions document, ∃ resolved : String × Shape String (Option String),
        (Draft.ofJson entry.2).resolve ((definitions document).map (·.1)) = .ok resolved.2 ∧
          resolved.1 = entry.1 := by
      intro entry hentry
      obtain ⟨shape, hshape⟩ := hdefinitions entry.1 entry.2 (mem_definitions_iff.1 hentry)
      exact ⟨(entry.1, shape), hshape, rfl⟩
    obtain ⟨shapes, hshapes⟩ := exists_forall₂ hall
    exact ⟨_, compile_eq_ok.2 ⟨document, rfl, compileMembers_eq_ok.2
      ⟨shapes, resolveDefinitions_eq_ok.2 hshapes, root, hroot, rfl⟩⟩⟩

/-- A document compiles just when no fragment that is reached has a wrong reference. -/
theorem compile_isOk_iff :
    (∃ c, compile (.obj document) = .ok c) ↔
      ¬ ∃ fragment, Reached document fragment ∧ RefersBadly document fragment := by
  rw [compile_isOk_iff_resolve]
  simp only [not_exists, not_and, ← resolves_iff]
  constructor
  · rintro ⟨hroot, hdefinitions⟩ fragment hreached
    have hresolved := reached_resolve_of_roots hroot hdefinitions hreached
    rw [Draft.ofJson_eq, resolve_draft_iff] at hresolved
    exact hresolved.1
  · intro hall
    refine ⟨reached_resolve_of_references hall _ .root, ?_⟩
    intro name fragment hdefines
    exact reached_resolve_of_references hall fragment (.definition hdefines)

end

/-- A document is rejected as an invalid schema just when a fragment that is reached has a reference
that does not give the name of a definition. Every other document compiles, whatever references it
has elsewhere. -/
theorem compile_rejects_iff (document : Json.Members) :
    ((∃ d, compile (.obj document) = .error d ∧ d.failure.kind = .invalidSchema) ↔
      ∃ fragment, Reached document fragment ∧ RefersBadly document fragment) ∧
    ((∃ c, compile (.obj document) = .ok c) ↔
      ¬ ∃ fragment, Reached document fragment ∧ RefersBadly document fragment) := by
  refine ⟨?_, compile_isOk_iff⟩
  have hiff : (∃ c, compile (.obj document) = .ok c) ↔
      ¬ ∃ fragment, Reached document fragment ∧ RefersBadly document fragment := compile_isOk_iff
  cases hcompile : compile (.obj document) with
  | error d =>
    rw [hcompile] at hiff
    refine iff_of_true ⟨d, rfl, d.kind_failure⟩ (Classical.byContradiction fun hnone => ?_)
    obtain ⟨c, hc⟩ := hiff.2 hnone
    contradiction
  | ok c => exact iff_of_false (by simp) (hiff.1 ⟨c, hcompile⟩)

end Dialogue.Schema
