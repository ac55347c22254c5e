import Dialogue.Schema.Fragment

/-!
# Dialogue.Proofs.Schema.Meaning — which values a schema document admits

`Admits` is the meaning of a schema fragment, keyword by keyword: every keyword that is there has to
hold of the value. A reference holds of what the definition of its name admits, so a document has a
meaning for every depth to which definitions are followed (`meaning`), and it admits a value when
some depth does (`Valid`).

A document may be read in two ways (`Reading`): as it stands, or strictly, with every object closed
to properties that it does not declare and with the null branches of a choice left out.

The keywords are those of documents that describe data: types, values, choices, the items and
lengths of arrays, the properties of objects, and references into the document's definitions. A
reference is followed by the name at its end.
-/

namespace Dialogue.Schema

/-- How a document is read. -/
structure Reading where
  /-- Every object takes only the properties that it declares. -/
  closed : Bool
  /-- The branch of a choice that allows null and says nothing else counts. -/
  nullBranches : Bool

/-- The document as it stands. -/
def Reading.plain : Reading := ⟨false, true⟩

/-- The document with objects closed and null branches left out. -/
def Reading.strict : Reading := ⟨true, false⟩

/-- The fragment that allows null and says nothing else. -/
def nullBranch : Json := .obj [("type", .str "null")]

/-! ## Keywords that look at a value alone -/

/-- Whether a value is of the named type. A double without a fractional part is an integer. -/
def hasType (type : String) : Json → Prop
  | .null => type = "null"
  | .bool _ => type = "boolean"
  | .int _ => type = "integer" ∨ type = "number"
  | .float x => type = "number" ∨ type = "integer" ∧ x.toInt?.isSome
  | .str _ => type = "string"
  | .arr _ => type = "array"
  | .obj _ => type = "object"

/-- The type of a fragment: one name, or a list of them. -/
def TypeHolds (members : Json.Members) (value : Json) : Prop :=
  (∀ type, members.lookup "type" = some (.str type) → hasType type value) ∧
    ∀ types, members.lookup "type" = some (.arr types) → ∃ type, .str type ∈ types ∧ hasType type value

/-- The values that a fragment lists, or the one that it gives. -/
def ValueHolds (members : Json.Members) (value : Json) : Prop :=
  (∀ values, members.lookup "enum" = some (.arr values) → value ∈ values) ∧
    ∀ only, members.lookup "const" = some only → value = only

/-- The least and the greatest length of an array. -/
def LengthHolds (members : Json.Members) (elements : List Json) : Prop :=
  (∀ least : Int, members.lookup "minItems" = some (.int least) → least ≤ elements.length) ∧
    ∀ most : Int, members.lookup "maxItems" = some (.int most) → elements.length ≤ most

/-- The properties that an object must have. -/
def RequiredHolds (members : Json.Members) (entries : Json.Members) : Prop :=
  ∀ names, members.lookup "required" = some (.arr names) →
    ∀ name, .str name ∈ names → ∃ value, (name, value) ∈ entries

/-- Whether a fragment declares a property. -/
def Declares (members : Json.Members) (name : String) : Prop :=
  ∃ properties, members.lookup "properties" = some (.obj properties) ∧
    (properties.lookup name).isSome

/-- Whether a fragment, read in this way, takes no property that it does not declare. -/
def Reading.closes (r : Reading) (members : Json.Members) : Prop :=
  r.closed = true ∧ members.lookup "type" = some (.str "object")

/-- Whether a reference gives a name, under either of the two blocks of definitions. -/
def Targets (target : Json) (name : String) : Prop :=
  target = .str ("#/definitions/" ++ name) ∨ target = .str ("#/$defs/" ++ name)

/-! ## Fragments -/

/-- Whether a fragment admits a value; `refers` says what the definition of a name admits. -/
def Admits (r : Reading) (refers : String → Json → Prop) (fragment value : Json) : Prop :=
  match fragment with
  | .bool admitted => admitted = true
  | .obj members =>
    TypeHolds members value ∧ ValueHolds members value ∧
    (∀ target, members.lookup "$ref" = some target →
      ∃ name, Targets target name ∧ refers name value) ∧
    (∀ branches, (_h : members.lookup "anyOf" = some (.arr branches)) →
      ∃ branch, ∃ _hb : branch ∈ branches,
        (r.nullBranches = true ∨ branch ≠ nullBranch) ∧ Admits r refers branch value) ∧
    (∀ elements, value = .arr elements → LengthHolds members elements ∧
      ∀ items, (_h : members.lookup "items" = some items) →
        ∀ element ∈ elements, Admits r refers items element) ∧
    ∀ entries, value = .obj entries → RequiredHolds members entries ∧
      (∀ properties, (_h : members.lookup "properties" = some (.obj properties)) →
        ∀ entry ∈ entries, ∀ property, (_hp : properties.lookup entry.1 = some property) →
          Admits r refers property entry.2) ∧
      (∀ more, (_h : members.lookup "additionalProperties" = some more) →
        ∀ entry ∈ entries, ¬ Declares members entry.1 → Admits r refers more entry.2) ∧
      (r.closes members → ∀ entry ∈ entries, Declares members entry.1)
  | _ => False
termination_by sizeOf fragment
decreasing_by
  · exact Nat.lt_trans (sizeOf_element_lt _hb) (sizeOf_lookup_lt _h)
  · exact sizeOf_lookup_lt _h
  · exact Nat.lt_trans (sizeOf_lookup_lt _hp) (sizeOf_lookup_lt _h)
  · exact sizeOf_lookup_lt _h

/-! ## Documents -/

/-- The definition of a name in a document. -/
def definition? (document : Json) (name : String) : Option Json :=
  ((document.get? "definitions").bind (Json.get? name)).or
    ((document.get? "$defs").bind (Json.get? name))

/-- What the definition of a name admits when definitions are followed to the given depth. -/
def meaning (r : Reading) (document : Json) : Nat → String → Json → Prop
  | 0, _, _ => False
  | depth + 1, name, value =>
    ∃ fragment, definition? document name = some fragment ∧
      Admits r (meaning r document depth) fragment value

/-- Whether a document admits a value. -/
def Valid (r : Reading) (document value : Json) : Prop :=
  ∃ depth, Admits r (meaning r document depth) document value

/-! ## References give one name -/

theorem definitions_head_ne (a b : String) : "#/definitions/" ++ a ≠ "#/$defs/" ++ b := by
  intro h
  have hlist := congrArg String.toList h
  simp at hlist

/-- A reference that gives a name gives no other. -/
theorem targets_unique {target : Json} {name other : String} (h : Targets target name) :
    Targets target other ↔ other = name := by
  constructor
  · intro h'
    unfold Targets at h h'
    rcases h with rfl | rfl <;> rcases h' with h' | h'
    · exact (String.append_right_inj _).1 (Json.str.inj h').symm
    · exact absurd (Json.str.inj h') (definitions_head_ne name other)
    · exact absurd (Json.str.inj h').symm (definitions_head_ne other name)
    · exact (String.append_right_inj _).1 (Json.str.inj h').symm
  · rintro rfl
    exact h

/-! ## What a fragment looks at -/

/-- The keywords that a fragment's meaning looks at. -/
def keywords : List String :=
  ["type", "enum", "const", "$ref", "anyOf", "minItems", "maxItems", "items", "required",
    "properties", "additionalProperties"]

/-- Fragments that agree on the keywords admit the same values. -/
theorem admits_congr {members others : Json.Members}
    (h : ∀ key ∈ keywords, members.lookup key = others.lookup key) (r : Reading)
    (refers : String → Json → Prop) (value : Json) :
    Admits r refers (.obj members) value ↔ Admits r refers (.obj others) value := by
  simp only [keywords, List.forall_mem_cons, List.not_mem_nil, false_implies, implies_true,
    and_true] at h
  obtain ⟨h1, h2, h3, h4, h5, h6, h7, h8, h9, h10, h11⟩ := h
  rw [Admits, Admits]
  simp only [TypeHolds, ValueHolds, LengthHolds, RequiredHolds, Declares, Reading.closes, h1, h2,
    h3, h4, h5, h6, h7, h8, h9, h10, h11]

/-- A member with another key is passed over. -/
theorem lookup_cons_of_ne {α : Type} {key name : String} (h : name ≠ key) (value : α)
    (rest : List (String × α)) : ((name, value) :: rest).lookup key = rest.lookup key := by
  have hne : (key == name) = false := by simpa using h.symm
  rw [List.lookup_cons, hne]

/-- Whether a fragment has none of the keywords but those listed. -/
def Only (keys : List String) (members : Json.Members) : Prop :=
  ∀ key ∈ keywords, key ∉ keys → members.lookup key = none

/-- A fragment of one member has no keyword but its key. -/
theorem only_singleton (key : String) (value : Json) : Only [key] [(key, value)] := by
  intro other _ hnot
  have hne : key ≠ other := fun heq => hnot (List.mem_singleton.2 heq.symm)
  rw [lookup_cons_of_ne hne]
  rfl

theorem Only.mono {keys more : List String} {members : Json.Members} (h : Only keys members)
    (hsub : keys ⊆ more) : Only more members :=
  fun key hkey hnot => h key hkey fun hmem => hnot (hsub hmem)

section Shapes

variable {r : Reading} {refers : String → Json → Prop} {members : Json.Members} {value : Json}

/-- A type alone admits the values of the type. -/
theorem admits_type {type : String} (hne : type ≠ "object") (honly : Only ["type"] members)
    (htype : members.lookup "type" = some (.str type)) :
    Admits r refers (.obj members) value ↔ hasType type value := by
  simp [Only, keywords, -List.lookup_eq_none_iff] at honly
  rw [Admits]
  simp [TypeHolds, ValueHolds, LengthHolds, RequiredHolds, Reading.closes, honly, htype, hne]

/-- A list of texts admits just these texts, with or without the type that they have. -/
theorem admits_values {values : List String} (honly : Only ["type", "enum"] members)
    (htype : members.lookup "type" = none ∨ members.lookup "type" = some (.str "string"))
    (henum : members.lookup "enum" = some (.arr (values.map .str))) :
    Admits r refers (.obj members) value ↔ ∃ text ∈ values, value = .str text := by
  simp [Only, keywords, -List.lookup_eq_none_iff] at honly
  have hstring : (∃ text ∈ values, value = .str text) → hasType "string" value := by
    rintro ⟨text, -, rfl⟩
    rfl
  rw [Admits]
  -- with the type, the texts must also be of the type, which they are
  rcases htype with htype | htype <;>
    simp [TypeHolds, ValueHolds, LengthHolds, RequiredHolds, Reading.closes, honly, htype, henum]
  · simp only [eq_comm]
  · simp only [eq_comm]
    simpa [eq_comm] using hstring

/-- The only text. -/
theorem admits_const {text : String} (honly : Only ["type", "const"] members)
    (htype : members.lookup "type" = none ∨ members.lookup "type" = some (.str "string"))
    (hconst : members.lookup "const" = some (.str text)) :
    Admits r refers (.obj members) value ↔ value = .str text := by
  simp [Only, keywords, -List.lookup_eq_none_iff] at honly
  rw [Admits]
  rcases htype with htype | htype <;>
    simp [TypeHolds, ValueHolds, LengthHolds, RequiredHolds, Reading.closes, honly, htype, hconst]
  rintro rfl
  rfl

/-- A reference admits what the definition of its name admits. -/
theorem admits_reference {target : Json} {name : String} (honly : Only ["$ref"] members)
    (href : members.lookup "$ref" = some target) (htarget : ∀ other, Targets target other ↔ other = name) :
    Admits r refers (.obj members) value ↔ refers name value := by
  simp [Only, keywords, -List.lookup_eq_none_iff] at honly
  rw [Admits]
  simp [TypeHolds, ValueHolds, LengthHolds, RequiredHolds, Reading.closes, honly, href, htarget]

/-- A choice admits what one of its branches admits, null branches apart where they do not count. -/
theorem admits_anyOf {branches : List Json} (honly : Only ["anyOf"] members)
    (hany : members.lookup "anyOf" = some (.arr branches)) :
    Admits r refers (.obj members) value ↔
      ∃ branch ∈ branches, (r.nullBranches = true ∨ branch ≠ nullBranch) ∧
        Admits r refers branch value := by
  simp [Only, keywords, -List.lookup_eq_none_iff] at honly
  rw [Admits]
  simp [TypeHolds, ValueHolds, LengthHolds, RequiredHolds, Reading.closes, honly, hany]
  simp only [and_left_comm]

theorem admits_array {items : Json} {least most : Option Nat}
    (honly : Only ["type", "items", "minItems", "maxItems"] members)
    (htype : members.lookup "type" = some (.str "array"))
    (hitems : members.lookup "items" = some items)
    (hleast : members.lookup "minItems" = least.map fun n => .int n)
    (hmost : members.lookup "maxItems" = most.map fun n => .int n) :
    Admits r refers (.obj members) value ↔
      ∃ elements, value = .arr elements ∧ (∀ e ∈ elements, Admits r refers items e) ∧
        (∀ n ∈ least, n ≤ elements.length) ∧ ∀ n ∈ most, elements.length ≤ n := by
  simp [Only, keywords, -List.lookup_eq_none_iff] at honly
  rw [Admits]
  cases value with
  | arr elements =>
    simp [TypeHolds, ValueHolds, LengthHolds, RequiredHolds, Reading.closes, honly, htype, hitems,
      hleast, hmost, hasType]
    exact and_comm
  | _ => simp [TypeHolds, htype, hasType]

/-- The members of a fragment give properties: it lists them, or it lists none. -/
def ListsProperties (members properties : Json.Members) : Prop :=
  members.lookup "properties" = some (.obj properties) ∨
    members.lookup "properties" = none ∧ properties = []

theorem declares_iff {properties : Json.Members} (h : ListsProperties members properties)
    (name : String) : Declares members name ↔ (properties.lookup name).isSome := by
  unfold Declares
  rcases h with h | ⟨h, rfl⟩
  · simp [h]
  · simp [h]

/-- A closed object admits the objects whose entries are all declared and admitted, and that have
what is required. -/
theorem admits_object {properties : Json.Members} {required : List String}
    (honly : Only ["type", "properties", "required", "additionalProperties"] members)
    (htype : members.lookup "type" = some (.str "object"))
    (hproperties : ListsProperties members properties)
    (hrequired : members.lookup "required" = some (.arr (required.map .str)) ∨
      members.lookup "required" = none ∧ required = [])
    (hclosed : r.closed = true ∧ members.lookup "additionalProperties" = none ∨
      members.lookup "additionalProperties" = some (.bool false)) :
    Admits r refers (.obj members) value ↔
      ∃ entries, value = .obj entries ∧
        (∀ entry ∈ entries, ∃ property, properties.lookup entry.1 = some property ∧
          Admits r refers property entry.2) ∧
        ∀ name ∈ required, ∃ v, (name, v) ∈ entries := by
  simp [Only, keywords, -List.lookup_eq_none_iff] at honly
  rw [Admits]
  cases value with
  | obj entries =>
    have hneeds : RequiredHolds members entries ↔ ∀ name ∈ required, ∃ v, (name, v) ∈ entries := by
      unfold RequiredHolds
      rcases hrequired with hrequired | ⟨hrequired, rfl⟩
      · simp [hrequired]
      · simp [hrequired]
    -- two ways to forbid other properties: the reading, or the keyword
    have hdeclared : ((∀ more, members.lookup "additionalProperties" = some more →
          ∀ entry ∈ entries, ¬ Declares members entry.1 → Admits r refers more entry.2) ∧
        (r.closes members → ∀ entry ∈ entries, Declares members entry.1)) ↔
          ∀ entry ∈ entries, (properties.lookup entry.1).isSome := by
      rcases hclosed with ⟨hr, hmore⟩ | hmore
      · simp [Reading.closes, hr, hmore, htype, declares_iff hproperties]
      · simp [Reading.closes, hmore, htype, declares_iff hproperties, Admits]
        intro h _
        exact h
    constructor
    · rintro ⟨-, -, -, -, -, h⟩
      obtain ⟨hreq, hprops, hmore, hcl⟩ := h entries rfl
      refine ⟨entries, rfl, ?_, hneeds.1 hreq⟩
      intro entry hentry
      obtain ⟨property, hp⟩ := Option.isSome_iff_exists.1 (hdeclared.1 ⟨hmore, hcl⟩ entry hentry)
      rcases hproperties with hlist | ⟨-, rfl⟩
      · exact ⟨property, hp, hprops properties hlist entry hentry property hp⟩
      · simp at hp
    · rintro ⟨others, heq, hall, hreq⟩
      obtain rfl : entries = others := Json.obj.inj heq
      refine ⟨by simp [TypeHolds, htype, hasType], by simp [ValueHolds, honly], by simp [honly],
        by simp [honly], by simp, ?_⟩
      intro others heq
      obtain rfl : entries = others := Json.obj.inj heq
      have hsome : ∀ entry ∈ entries, (properties.lookup entry.1).isSome := by
        intro entry hentry
        obtain ⟨property, hp, -⟩ := hall entry hentry
        simp [hp]
      refine ⟨hneeds.2 hreq, ?_, hdeclared.2 hsome⟩
      intro listed hlisted entry hentry property hp
      obtain ⟨property', hp', hadmits⟩ := hall entry hentry
      rcases hproperties with hlist | ⟨hnone, -⟩
      · obtain rfl : properties = listed := by simpa [hlist] using hlisted
        obtain rfl : property' = property := by simpa [hp'] using hp
        exact hadmits
      · simp [hnone] at hlisted
  | _ => simp [TypeHolds, htype, hasType]

end Shapes

end Dialogue.Schema
