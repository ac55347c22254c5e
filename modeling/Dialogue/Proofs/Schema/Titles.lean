import Dialogue.Proofs.Schema.Written

/-!
# Dialogue.Proofs.Schema.Titles — titles leave no trace in a rendered schema

Two documents that differ in titles are given different names from the first title on: a name is
made from the names around it and from all names in use. None of this shows in the rendered schemas.

* `Retitled` — the documents compared: their fragments differ in the values of titles, and their
  definitions may stand in a different order;
* `Fragment.Akin` — what two such fragments say at their top is the same but for titles, and what
  is below is retitled again (`akin_ofJson`);
* `written_eq_of_retitled` — retitled fragments are written alike; the induction follows the
  fragment, whose children are smaller;
* `compile_retitled` — the statement for any two documents that differ in this way.
-/

namespace Dialogue.Schema

/-! ## Documents that differ in titles -/

/-- The keys whose values are read as they are; no fragments stand in them. -/
def dataKeys : List String :=
  ["$ref", "type", "enum", "const", "required", "minItems", "maxItems", "description"]

mutual

/-- Whether two fragments, or lists of fragments, differ only in the values of titles, at any depth,
and in the order of definitions. -/
inductive Retitled : Json → Json → Prop where
  | same (fragment : Json) : Retitled fragment fragment
  | list {fragments others : List Json} (h : List.Forall₂ Retitled fragments others) :
      Retitled (.arr fragments) (.arr others)
  | object {members others : Json.Members} (h : List.Forall₂ RetitledMember members others) :
      Retitled (.obj members) (.obj others)

/-- Whether two members of fragments differ in this way. -/
inductive RetitledMember : String × Json → String × Json → Prop where
  | same (member : String × Json) : RetitledMember member member
  | title (value other : Json) : RetitledMember ("title", value) ("title", other)
  | fragment {key : String} {value other : Json} (hdata : key ∉ dataKeys)
      (htable : key ∉ nameTables) (h : Retitled value other) :
      RetitledMember (key, value) (key, other)
  | properties {entries others : Json.Members} (h : List.Forall₂ RetitledEntry entries others) :
      RetitledMember ("properties", .obj entries) ("properties", .obj others)
  | definitions {key : String} {entries reordered others : Json.Members}
      (hkey : key ∈ ["definitions", "$defs"]) (horder : entries.Perm reordered)
      (h : List.Forall₂ RetitledEntry reordered others) :
      RetitledMember (key, .obj entries) (key, .obj others)

/-- Whether two entries of a list of fragments by name differ in this way: a name is no title. -/
inductive RetitledEntry : String × Json → String × Json → Prop where
  | entry (name : String) {fragment other : Json} (h : Retitled fragment other) :
      RetitledEntry (name, fragment) (name, other)

end

theorem RetitledEntry.refl (entry : String × Json) : RetitledEntry entry entry :=
  .entry entry.1 (.same entry.2)

theorem RetitledEntry.name_eq {entry other : String × Json} (h : RetitledEntry entry other) :
    other.1 = entry.1 := by
  cases h
  rfl

theorem RetitledMember.key_eq {member other : String × Json} (h : RetitledMember member other) :
    other.1 = member.1 := by
  cases h <;> rfl

/-- The ways in which the values of one key may differ. -/
theorem RetitledMember.values {key : String} {value other : Json}
    (h : RetitledMember (key, value) (key, other)) :
    value = other ∨ key = "title" ∨
      (key ∉ dataKeys ∧ key ∉ nameTables ∧ Retitled value other) ∨
      (key = "properties" ∧ ∃ entries others, value = .obj entries ∧ other = .obj others ∧
        List.Forall₂ RetitledEntry entries others) ∨
      (key ∈ ["definitions", "$defs"] ∧ ∃ entries reordered others, value = .obj entries ∧
        other = .obj others ∧ entries.Perm reordered ∧
        List.Forall₂ RetitledEntry reordered others) := by
  cases h with
  | same => exact .inl rfl
  | title => exact .inr (.inl rfl)
  | fragment hdata htable h => exact .inr (.inr (.inl ⟨hdata, htable, h⟩))
  | properties h => exact .inr (.inr (.inr (.inl ⟨rfl, _, _, rfl, rfl, h⟩)))
  | definitions hkey horder h =>
    exact .inr (.inr (.inr (.inr ⟨hkey, _, _, _, rfl, rfl, horder, h⟩)))

/-! ## What is found under a key -/

section

variable {members others : Json.Members}

/-- What retitled objects have under a key differs as their members do. -/
theorem lookup_retitled (h : List.Forall₂ RetitledMember members others) (key : String) :
    (members.lookup key = none ∧ others.lookup key = none) ∨
      ∃ value other, members.lookup key = some value ∧ others.lookup key = some other ∧
        RetitledMember (key, value) (key, other) := by
  induction h with
  | nil => exact .inl ⟨rfl, rfl⟩
  | @cons member other _ _ hmember _ ih =>
    rcases member with ⟨k, value⟩
    rcases other with ⟨k', value'⟩
    obtain rfl : k' = k := hmember.key_eq
    by_cases hkey : k' = key
    · subst hkey
      exact .inr ⟨value, value', List.lookup_cons_self, List.lookup_cons_self, hmember⟩
    · rw [lookup_cons_of_ne hkey, lookup_cons_of_ne hkey]
      exact ih

/-- Data is the same in retitled objects. -/
theorem lookup_data (h : List.Forall₂ RetitledMember members others) {key : String}
    (hkey : key ∈ dataKeys) : members.lookup key = others.lookup key := by
  rcases lookup_retitled h key with ⟨hm, ho⟩ | ⟨value, other, hm, ho, hvalue⟩
  · rw [hm, ho]
  · rw [hm, ho]
    rcases hvalue.values with rfl | rfl | ⟨hdata, -⟩ | ⟨rfl, -⟩ | ⟨hdefinitions, -⟩
    · rfl
    · simp [dataKeys] at hkey
    · contradiction
    · simp [dataKeys] at hkey
    · rcases List.mem_pair.1 hdefinitions with rfl | rfl
      · simp [dataKeys] at hkey
      · simp [dataKeys] at hkey

/-- Under a key that is neither a title nor lists fragments by name, there are retitled fragments. -/
theorem lookup_fragment (h : List.Forall₂ RetitledMember members others) (key : String)
    (htitle : key ≠ "title") (htable : key ∉ nameTables) :
    (members.lookup key = none ∧ others.lookup key = none) ∨
      ∃ value other, members.lookup key = some value ∧ others.lookup key = some other ∧
        Retitled value other := by
  rcases lookup_retitled h key with hnone | ⟨value, other, hm, ho, hvalue⟩
  · exact .inl hnone
  · refine .inr ⟨value, other, hm, ho, ?_⟩
    rcases hvalue.values with rfl | rfl | ⟨-, -, hfragment⟩ | ⟨rfl, -⟩ | ⟨hdefinitions, -⟩
    · exact .same value
    · contradiction
    · exact hfragment
    · simp [nameTables] at htable
    · rcases List.mem_pair.1 hdefinitions with rfl | rfl
      · simp [nameTables] at htable
      · simp [nameTables] at htable

/-- Retitled objects list retitled properties, or neither of them lists properties. -/
theorem lookup_properties (h : List.Forall₂ RetitledMember members others) :
    (∃ entries entries', members.lookup "properties" = some (.obj entries) ∧
        others.lookup "properties" = some (.obj entries') ∧
        List.Forall₂ RetitledEntry entries entries') ∨
      (∀ entries, members.lookup "properties" ≠ some (.obj entries)) ∧
        ∀ entries, others.lookup "properties" ≠ some (.obj entries) := by
  rcases lookup_retitled h "properties" with ⟨hm, ho⟩ | ⟨value, other, hm, ho, hvalue⟩
  · exact .inr ⟨by simp [hm], by simp [ho]⟩
  · rcases hvalue.values with rfl | hkey | ⟨-, htable, -⟩ | ⟨-, entries, entries', rfl, rfl, hlisted⟩ |
      ⟨hkey, -⟩
    · rw [hm, ho]
      cases value with
      | obj entries =>
        exact .inl ⟨entries, entries, rfl, rfl, List.forall₂_same.2 fun e _ => .refl e⟩
      | _ => exact .inr ⟨by simp, by simp⟩
    · simp at hkey
    · simp [nameTables] at htable
    · exact .inl ⟨entries, entries', hm, ho, hlisted⟩
    · simp at hkey

/-- Retitled objects give retitled branches to choose from, or neither of them gives a choice. -/
theorem lookup_branches (h : List.Forall₂ RetitledMember members others) :
    (∃ b bs b' bs', members.lookup "anyOf" = some (.arr (b :: bs)) ∧
        others.lookup "anyOf" = some (.arr (b' :: bs')) ∧
        List.Forall₂ Retitled (b :: bs) (b' :: bs')) ∨
      (∀ b bs, members.lookup "anyOf" ≠ some (.arr (b :: bs))) ∧
        ∀ b bs, others.lookup "anyOf" ≠ some (.arr (b :: bs)) := by
  rcases lookup_fragment h "anyOf" (by simp) (by simp [nameTables]) with
    ⟨hm, ho⟩ | ⟨value, other, hm, ho, hvalue⟩
  · exact .inr ⟨by simp [hm], by simp [ho]⟩
  · rw [hm, ho]
    cases hvalue with
    | same =>
      by_cases hchoice : ∃ b bs, value = .arr (b :: bs)
      · rcases hchoice with ⟨b, bs, rfl⟩
        exact .inl ⟨b, bs, b, bs, rfl, rfl, List.forall₂_same.2 fun j _ => .same j⟩
      · have hnone : ∀ b bs, some value ≠ some (.arr (b :: bs)) :=
          fun b bs heq => hchoice ⟨b, bs, Option.some.inj heq⟩
        exact .inr ⟨hnone, hnone⟩
    | list hlist =>
      cases hlist with
      | nil => exact .inr ⟨by simp, by simp⟩
      | cons hb hbs => exact .inl ⟨_, _, _, _, rfl, rfl, .cons hb hbs⟩
    | object => exact .inr ⟨by simp, by simp⟩

end

/-! ## What retitled fragments say at their top -/

/-- Whether two branches differ in titles alone. -/
inductive Branch.Akin : Branch → Branch → Prop where
  | single (value : String) : Akin (.single value) (.single value)
  | unread {fragment other : Json} (h : Retitled fragment other) :
      Akin (.unread fragment) (.unread other)

/-- Whether two properties differ in titles alone. -/
structure Property.Akin (p q : Property Json) : Prop where
  name : p.name = q.name
  shape : Retitled p.shape q.shape
  description : p.description = q.description
  optional : p.optional = q.optional

/-- Whether what two fragments say differs in titles alone. -/
inductive Fragment.Akin : Fragment → Fragment → Prop where
  | loose (value other : Json) : Akin (.loose value) (.loose other)
  | reference (target : Json) : Akin (.reference target) (.reference target)
  | sole {branch other : Json} (h : Retitled branch other) : Akin (.sole branch) (.sole other)
  | union (title title' : Option String) {branches others : List Branch}
      (h : List.Forall₂ Branch.Akin branches others) :
      Akin (.union title branches) (.union title' others)
  | enumeration (title title' : Option String) (values : List String) :
      Akin (.enumeration title values) (.enumeration title' values)
  | scalar (kind : Scalar) : Akin (.scalar kind) (.scalar kind)
  | strings (least most : Option Nat) : Akin (.array none least most) (.array none least most)
  | array {items other : Json} (h : Retitled items other) (least most : Option Nat) :
      Akin (.array (some items) least most) (.array (some other) least most)
  | object (title title' : Option String) {properties others : List (Property Json)}
      (h : List.Forall₂ Property.Akin properties others) :
      Akin (.object title properties) (.object title' others)
  | unknown (type : Json) : Akin (.unknown type) (.unknown type)
  | free : Akin .free .free

section

variable {fragment other : Json}

theorem singleValue?_eq_of_retitled (h : Retitled fragment other) :
    singleValue? fragment = singleValue? other := by
  cases h with
  | same => rfl
  | list => rfl
  | object h =>
    simp only [singleValue?]
    rw [lookup_data h (by simp [dataKeys] : "enum" ∈ dataKeys),
      lookup_data h (by simp [dataKeys] : "const" ∈ dataKeys)]

theorem description?_eq_of_retitled (h : Retitled fragment other) :
    description? fragment = description? other := by
  cases h with
  | same => rfl
  | list => rfl
  | object h =>
    simp only [description?]
    rw [lookup_data h (by simp [dataKeys] : "description" ∈ dataKeys)]

/-- A null branch has the type of null for its only member. -/
theorem isNullBranch_obj {members : Json.Members} :
    isNullBranch (.obj members) = true ↔
      members.length = 1 ∧ members.lookup "type" = some (.str "null") := by
  rw [isNullBranch_iff, nullBranch, Json.obj.injEq]
  constructor
  · rintro rfl
    exact ⟨rfl, List.lookup_cons_self⟩
  · rintro ⟨hlength, htype⟩
    rcases List.length_eq_one_iff.1 hlength with ⟨⟨key, value⟩, rfl⟩
    by_cases hkey : key = "type"
    · subst hkey
      rw [List.lookup_cons_self] at htype
      rw [Option.some.inj htype]
    · rw [lookup_cons_of_ne hkey] at htype
      contradiction

theorem isNullBranch_eq_of_retitled (h : Retitled fragment other) :
    isNullBranch fragment = isNullBranch other := by
  cases h with
  | same => rfl
  | list => rfl
  | object h =>
    rw [Bool.eq_iff_iff, isNullBranch_obj, isNullBranch_obj, h.length_eq,
      lookup_data h (by simp [dataKeys] : "type" ∈ dataKeys)]

theorem akin_branch (h : Retitled fragment other) :
    (Branch.ofJson fragment).Akin (Branch.ofJson other) := by
  unfold Branch.ofJson
  rw [singleValue?_eq_of_retitled h]
  split
  · exact .single _
  · exact .unread h

end

/-- Retitled branches leave the same choice, whatever the titles of the fragments they stand in. -/
theorem akin_ofBranches {branches others : List Json} (h : List.Forall₂ Retitled branches others)
    (title title' : Option String) :
    (Fragment.ofBranches title branches).Akin (Fragment.ofBranches title' others) := by
  have hkept : List.Forall₂ Retitled (branches.filter (!isNullBranch ·))
      (others.filter (!isNullBranch ·)) :=
    List.rel_filter (fun _ _ hb => by simp only [isNullBranch_eq_of_retitled hb]) h
  unfold Fragment.ofBranches
  simp only [h.length_eq]
  generalize branches.filter (!isNullBranch ·) = kept at hkept
  generalize others.filter (!isNullBranch ·) = kept' at hkept
  cases hkept with
  | nil => exact .free
  | cons hfirst hrest =>
    cases hrest with
    | nil =>
      simp only [singleValue?_eq_of_retitled hfirst]
      split
      · exact .enumeration _ _ _
      · split
        · exact .sole hfirst
        · exact .union _ _ (.cons (.unread hfirst) .nil)
    | cons hsecond hmore =>
      have hall := List.Forall₂.cons hfirst (.cons hsecond hmore)
      simp only [mapM_eq_of_forall₂ (hall.imp fun _ _ => singleValue?_eq_of_retitled)]
      split
      · exact .enumeration _ _ _
      · refine .union _ _ ?_
        rw [List.forall₂_map_left_iff, List.forall₂_map_right_iff]
        exact hall.imp fun _ _ => akin_branch

section

variable {members others : Json.Members}

theorem required_eq_of_retitled (h : List.Forall₂ RetitledMember members others) :
    required members = required others := by
  unfold required
  rw [lookup_data h (by simp [dataKeys] : "required" ∈ dataKeys)]

theorem akin_properties (h : List.Forall₂ RetitledMember members others) :
    List.Forall₂ Property.Akin (properties members) (properties others) := by
  unfold properties
  rcases lookup_properties h with ⟨entries, entries', hm, ho, hlisted⟩ | ⟨hm, ho⟩
  · simp only [hm, ho, required_eq_of_retitled h]
    rw [List.forall₂_map_left_iff, List.forall₂_map_right_iff]
    refine hlisted.imp ?_
    intro entry entry' hentry
    cases hentry with
    | entry name hfragment =>
      exact ⟨rfl, hfragment, description?_eq_of_retitled hfragment, rfl⟩
  · split
    · exact absurd ‹_› (hm _)
    · exact .nil

/-- Retitled objects are told apart by their types in the same way. -/
theorem akin_ofType (h : List.Forall₂ RetitledMember members others) :
    (Fragment.ofType members).Akin (Fragment.ofType others) := by
  have hobject := Fragment.Akin.object (title? members) (title? others) (akin_properties h)
  have htype : primaryType? members = primaryType? others := by
    unfold primaryType?
    rw [lookup_data h (by simp [dataKeys] : "type" ∈ dataKeys)]
  have hbound : ∀ key ∈ dataKeys, bound? key members = bound? key others := by
    intro key hkey
    unfold bound?
    rw [lookup_data h hkey]
  unfold Fragment.ofType
  simp only [htype]
  split
  · rcases lookup_properties h with ⟨entries, entries', hm, ho, -⟩ | ⟨hm, ho⟩
    · rw [hm, ho]
      exact hobject
    · split
      · exact absurd ‹_› (hm _)
      · exact .free
  · exact .scalar _
  · exact .scalar _
  · exact .scalar _
  · exact .scalar _
  · rw [hbound "minItems" (by simp [dataKeys]), hbound "maxItems" (by simp [dataKeys])]
    rcases lookup_fragment h "items" (by simp) (by simp [nameTables]) with
      ⟨hm, ho⟩ | ⟨value, other, hm, ho, hvalue⟩
    · rw [hm, ho]
      exact .strings _ _
    · rw [hm, ho]
      cases hvalue with
      | same =>
        cases value with
        | obj => exact .array (.same _) _ _
        | _ => exact .strings _ _
      | list => exact .strings _ _
      | object hitems => exact .array (.object hitems) _ _
  · exact hobject
  · exact .unknown _

theorem akin_ofMembers (h : List.Forall₂ RetitledMember members others) :
    (Fragment.ofMembers members).Akin (Fragment.ofMembers others) := by
  unfold Fragment.ofMembers
  rw [lookup_data h (by simp [dataKeys] : "$ref" ∈ dataKeys),
    lookup_data h (by simp [dataKeys] : "enum" ∈ dataKeys),
    lookup_data h (by simp [dataKeys] : "const" ∈ dataKeys)]
  split
  · exact .reference _
  · rcases lookup_branches h with ⟨b, bs, b', bs', hm, ho, hbranches⟩ | ⟨hm, ho⟩
    · rw [hm, ho]
      exact akin_ofBranches hbranches _ _
    · split
      · exact absurd ‹_› (hm _ _)
      · split
        · exact .enumeration _ _ _
        · exact .enumeration _ _ _
        · exact akin_ofType h

end

/-- What retitled fragments say at their top differs in titles alone. -/
theorem akin_ofJson {fragment other : Json} (h : Retitled fragment other) :
    (Fragment.ofJson fragment).Akin (Fragment.ofJson other) := by
  cases h with
  | same =>
    cases fragment with
    | obj members => exact akin_ofMembers (List.forall₂_same.2 fun member _ => .same member)
    | _ => exact .loose _ _
  | list => exact .loose _ _
  | object h => exact akin_ofMembers h

/-! ## Retitled fragments are written alike -/

section

variable {defined defined' : List String} (hsame : ∀ name, name ∈ defined ↔ name ∈ defined')

include hsame

/-- Fragments that differ in titles alone at their top are written alike when their children are. -/
theorem written_draft {f g : Fragment} (h : f.Akin g)
    (hchildren : ∀ child ∈ f.children, ∀ other, Retitled child other →
      (Draft.ofJson child).written defined = (Draft.ofJson other).written defined') :
    f.draft.written defined = g.draft.written defined' := by
  cases h with
  | loose => rfl
  | reference target =>
    rw [Fragment.draft, written_reference, written_reference, referenceName_congr hsame]
  | sole h => exact hchildren _ (by simp [Fragment.children]) _ h
  | @union title title' branches others h =>
    have hwritten : List.Forall₂ (fun b c => (Branch.draft b).written defined =
        (Branch.draft c).written defined') branches others := by
      refine ((List.forall₂_and_left _ _).2 ⟨fun b hb => hb, h⟩).imp ?_
      rintro b c ⟨hb, hakin⟩
      cases hakin with
      | single value => rfl
      | @unread fragment other h =>
        exact hchildren fragment (List.mem_filterMap.2 ⟨.unread fragment, hb, rfl⟩) other h
    rw [Fragment.draft, Fragment.draft, written_union, written_union, mapM_eq_of_forall₂]
    rw [List.forall₂_map_left_iff, List.forall₂_map_right_iff]
    exact hwritten
  | enumeration => rfl
  | scalar => rfl
  | strings => rfl
  | array h =>
    rw [Fragment.draft, Fragment.draft, written_array, written_array,
      hchildren _ (by simp [Fragment.children]) _ h]
  | @object title title' properties others h =>
    rw [Fragment.draft, Fragment.draft]
    apply written_object_congr
    rw [List.forall₂_map_left_iff, List.forall₂_map_right_iff]
    refine ((List.forall₂_and_left _ _).2 ⟨fun p hp => hp, h⟩).imp ?_
    rintro p q ⟨hp, hakin⟩
    have hchild : p.shape ∈ (Fragment.object title properties).children :=
      List.mem_map.2 ⟨p, hp, rfl⟩
    exact ⟨hakin.name, hchildren p.shape hchild q.shape hakin.shape, hakin.description,
      hakin.optional⟩
  | unknown => rfl
  | free => rfl

/-- Retitled fragments are written alike. -/
theorem written_eq_of_retitled {fragment other : Json} (h : Retitled fragment other) :
    (Draft.ofJson fragment).written defined = (Draft.ofJson other).written defined' := by
  rw [Draft.ofJson_eq, Draft.ofJson_eq]
  exact written_draft hsame (akin_ofJson h)
    fun child _below other hchild => written_eq_of_retitled hchild
termination_by sizeOf fragment
decreasing_by exact Fragment.sizeOf_child _below

end

/-! ## Definitions in a different order -/

/-- Whether the entries of two lists of fragments by name are retitled, up to their order. -/
def Reordered (entries others : Json.Members) : Prop :=
  ∃ reordered, entries.Perm reordered ∧ List.Forall₂ RetitledEntry reordered others

theorem Reordered.refl (entries : Json.Members) : Reordered entries entries :=
  ⟨entries, .refl entries, List.forall₂_same.2 fun entry _ => .refl entry⟩

theorem Reordered.names {entries others : Json.Members} (h : Reordered entries others) :
    (entries.map (·.1)).Perm (others.map (·.1)) := by
  rcases h with ⟨reordered, horder, hentries⟩
  rw [map_fst_eq hentries fun _ _ h => h.name_eq]
  exact horder.map _

theorem Reordered.append {first first' second second' : Json.Members} (h : Reordered first first')
    (h' : Reordered second second') : Reordered (first ++ second) (first' ++ second') := by
  rcases h with ⟨reordered, horder, hentries⟩
  rcases h' with ⟨reordered', horder', hentries'⟩
  exact ⟨reordered ++ reordered', horder.append horder', List.rel_append hentries hentries'⟩

/-- Entries that are kept by their names are kept on both sides. -/
theorem Reordered.filter {entries others : Json.Members} (h : Reordered entries others)
    (p : String → Bool) :
    Reordered (entries.filter fun e => p e.1) (others.filter fun e => p e.1) := by
  rcases h with ⟨reordered, horder, hentries⟩
  refine ⟨_, horder.filter _, List.rel_filter ?_ hentries⟩
  intro e e' hentry
  simp only [hentry.name_eq]

section

variable {document other : Json.Members} (h : List.Forall₂ RetitledMember document other)

include h

theorem reordered_block {key : String} (hkey : key ∈ ["definitions", "$defs"]) :
    Reordered (block key document) (block key other) := by
  have htable : key ∈ nameTables := List.mem_cons_of_mem _ hkey
  unfold block
  rcases lookup_retitled h key with ⟨hm, ho⟩ | ⟨value, value', hm, ho, hvalue⟩
  · rw [hm, ho]
    exact .refl []
  · rw [hm, ho]
    rcases hvalue.values with rfl | rfl | ⟨-, hnot, -⟩ | ⟨rfl, -⟩ |
      ⟨-, entries, reordered, others, rfl, rfl, horder, hentries⟩
    · exact .refl _
    · simp at hkey
    · contradiction
    · simp at hkey
    · exact ⟨reordered, horder, hentries⟩

/-- The definitions of retitled documents are retitled, up to their order. -/
theorem reordered_definitions : Reordered (definitions document) (definitions other) := by
  have hfirst := reordered_block h (by simp : "definitions" ∈ ["definitions", "$defs"])
  have hsecond := reordered_block h (by simp : "$defs" ∈ ["definitions", "$defs"])
  have hnew : ∀ name, ((block "definitions" document).lookup name).isNone =
      ((block "definitions" other).lookup name).isNone := by
    intro name
    rw [Bool.eq_iff_iff, lookup_isNone_iff, lookup_isNone_iff, hfirst.names.mem_iff]
  unfold definitions
  simp only [hnew]
  exact hfirst.append (hsecond.filter fun name => ((block "definitions" other).lookup name).isNone)

theorem mem_definitions_iff_of_retitled (name : String) :
    name ∈ (definitions document).map (·.1) ↔ name ∈ (definitions other).map (·.1) :=
  (reordered_definitions h).names.mem_iff

theorem writtenRoot_eq_of_retitled : writtenRoot document = writtenRoot other :=
  written_eq_of_retitled (mem_definitions_iff_of_retitled h) (.object h)

theorem writtenDefinitions_perm_of_retitled :
    (writtenDefinitions document).Perm (writtenDefinitions other) := by
  rcases reordered_definitions h with ⟨reordered, horder, hretitled⟩
  have hwritten : reordered.map (fun e =>
        (e.1, (Draft.ofJson e.2).written ((definitions document).map (·.1)))) =
      writtenDefinitions other := by
    unfold writtenDefinitions
    rw [← List.forall₂_eq_eq_eq, List.forall₂_map_left_iff, List.forall₂_map_right_iff]
    refine hretitled.imp ?_
    intro e e' hentry
    cases hentry with
    | entry name hfragment =>
      rw [written_eq_of_retitled (mem_definitions_iff_of_retitled h) hfragment]
  rw [← hwritten]
  exact horder.map _

end

/-! ## Compiling -/

/-- Whatever keeps a document from compiling is reported as an invalid schema. -/
theorem Defect.kind_failure (defect : Defect) : defect.failure.kind = .invalidSchema := by
  cases defect with
  | notObject => rfl
  | badReference cause => cases cause <;> rfl

/-- For any two documents that differ only in the values of titles, at any depth, and in the order
of definitions: compiling reports an invalid schema for both, or succeeds for both, and then the
rendered schemas are equal up to the order of the definitions. -/
theorem compile_retitled {document other : Json} (h : Retitled document other) :
    (∃ defect defect', compile document = .error defect ∧ compile other = .error defect' ∧
        defect.failure.kind = .invalidSchema ∧ defect'.failure.kind = .invalidSchema) ∨
      ∃ c c', compile document = .ok c ∧ compile other = .ok c' ∧
        EqualUpToOrder "$defs" c.toJson c'.toJson := by
  cases h with
  | same =>
    cases hc : compile document with
    | ok c => exact .inr ⟨c, c, rfl, rfl, Compiled.equalUpToOrder_toJson rfl (.refl _)⟩
    | error defect =>
      exact .inl ⟨defect, defect, rfl, rfl, defect.kind_failure, defect.kind_failure⟩
  | list => exact .inl ⟨_, _, rfl, rfl, Defect.kind_failure _, Defect.kind_failure _⟩
  | @object members others h =>
    have hroot := writtenRoot_eq_of_retitled h
    have hdefinitions := writtenDefinitions_perm_of_retitled h
    cases hc : compile (.obj members) with
    | ok c =>
      rcases compile_of_written hroot hdefinitions hc with ⟨c', hc', hroot', hperm⟩
      exact .inr ⟨c, c', rfl, hc', Compiled.equalUpToOrder_toJson hroot' hperm⟩
    | error defect =>
      cases hc' : compile (.obj others) with
      | ok c' =>
        -- the two are written alike, so the first would compile as well
        rcases compile_of_written hroot.symm hdefinitions.symm hc' with ⟨c, hc'', -⟩
        rw [hc] at hc''
        contradiction
      | error defect' =>
        exact .inl ⟨defect, defect', rfl, rfl, defect.kind_failure, defect'.kind_failure⟩

/-- A document whose titles are given; a property of it is called `title` as well. -/
def titled (outer inner : Json) (entries : Json.Members) : Json.Members :=
  [("title", outer), ("type", .str "object"),
    ("properties", .obj [("title", .obj [("title", inner), ("enum", .arr [.str "x"])])]),
    ("definitions", .obj entries)]

/-- The definition of a text, under a name. -/
def textEntry (name : String) : String × Json := (name, .obj [("type", .str "string")])

theorem compiles_titled (outer inner : Json) (a b : String) :
    ∃ c, compile (.obj (titled outer inner [textEntry a, textEntry b])) = .ok c ∧
      c.root.name? = some (claim (title? [("title", outer)]) (some "Root") "Object" ⟨[a, b], 0⟩).1 := by
  have hinner : Draft.ofJson (.obj [("title", inner), ("enum", .arr [.str "x"])]) =
      .enumeration (title? [("title", inner)]) ["x"] := by
    rw [Draft.ofJson_eq]
    rfl
  have htext : Draft.ofJson (.obj [("type", .str "string")]) = .scalar .string := by
    rw [Draft.ofJson_eq]
    rfl
  have hroot : Draft.ofJson (.obj (titled outer inner [textEntry a, textEntry b])) =
      .object (title? [("title", outer)])
        [⟨"title", .enumeration (title? [("title", inner)]) ["x"], none, true⟩] := by
    rw [Draft.ofJson_eq, ← hinner]
    rfl
  refine ⟨_, compile_eq_ok.2 ⟨_, rfl, compileMembers_eq_ok.2
    ⟨[(a, .scalar .string), (b, .scalar .string)], ?_, .object (title? [("title", outer)])
      [⟨"title", .enumeration (title? [("title", inner)]) ["x"], none, true⟩], ?_, rfl⟩⟩, ?_⟩
  · show resolveDefinitions [a, b] [textEntry a, textEntry b] = _
    simp only [textEntry, resolveDefinitions, htext]
    rfl
  · rw [hroot]
    rfl
  · rfl

/-- Titles, one of them no text, and definitions in two orders: the names differ, and the rendered
schemas do not. -/
theorem compile_retitled_titled :
    ∃ c c', compile (.obj (titled (.str "Order") (.str "A") [textEntry "A", textEntry "B"])) =
        .ok c ∧
      compile (.obj (titled (.int 7) (.str "Root") [textEntry "B", textEntry "A"])) = .ok c' ∧
      c.root.name? = some "Order" ∧ c'.root.name? = some "Root" ∧
      EqualUpToOrder "$defs" c.toJson c'.toJson := by
  have h : Retitled (.obj (titled (.str "Order") (.str "A") [textEntry "A", textEntry "B"]))
      (.obj (titled (.int 7) (.str "Root") [textEntry "B", textEntry "A"])) := by
    refine .object (.cons (.title _ _) (.cons (.same _) (.cons (.properties ?_)
      (.cons (.definitions (by simp) (.swap _ _ _) ?_) .nil))))
    · exact .cons (.entry _ (.object (.cons (.title _ _) (.cons (.same _) .nil)))) .nil
    · exact List.forall₂_same.2 fun entry _ => .refl entry
  rcases compiles_titled (.str "Order") (.str "A") "A" "B" with ⟨c, hc, hname⟩
  rcases compiles_titled (.int 7) (.str "Root") "B" "A" with ⟨c', hc', hname'⟩
  rcases compile_retitled h with ⟨defect, -, herror, -⟩ | ⟨d, d', hd, hd', heq⟩
  · rw [hc] at herror
    contradiction
  · obtain rfl : c = d := Except.ok.inj (hc.symm.trans hd)
    obtain rfl : c' = d' := Except.ok.inj (hc'.symm.trans hd')
    exact ⟨c, c', hc, hc', hname, hname', heq⟩

end Dialogue.Schema
