import Dialogue.Schema.Shape
import Dialogue.Json.Printer
import Dialogue.Text.Blank

/-!
# Dialogue.Schema.Fragment — reading one fragment of a schema document

A `Fragment` is what a fragment of a document says at its top. The fragments below it are still
unread: `children` lists them, and each is smaller than the fragment it was found in. What the rules
do not recognise leaves the value an unconstrained string.

`Draft.ofJson` reads a whole document by following the children; `remarks` lists what the same walk
meets on its way.
-/

namespace Dialogue.Schema

/-! ## Parts of a fragment -/

/-- The title of a fragment, without blanks around it, if it has one. -/
def title? (members : Json.Members) : Option String :=
  match members.lookup "title" with
  | some (.str title) => if Text.isBlankText title then none else some (Text.strip title)
  | _ => none

/-- An allowed value as a text: a string itself, anything else its JSON text. -/
def valueText : Json → String
  | .str text => text
  | j => j.compact

/-- Whether a branch allows null and says nothing else. -/
def isNullBranch : Json → Bool
  | .obj [("type", .str "null")] => true
  | _ => false

/-- The one value that a branch allows, if it is a choice of one. -/
def singleValue? : Json → Option String
  | .obj members =>
    match members.lookup "enum", members.lookup "const" with
    | some (.arr [value]), _ => some (valueText value)
    | none, some value => some (valueText value)
    | _, _ => none
  | _ => none

/-- A bound on the length of an array: whole numbers from zero on count, all else is ignored. -/
def bound? (key : String) (members : Json.Members) : Option Nat :=
  match members.lookup key with
  | some (.int (.ofNat n)) => some n
  | _ => none

/-- The type of a fragment, or of a list of types the first that is not null. -/
def primaryType? (members : Json.Members) : Option Json :=
  let named (j : Json) := match j with
    | .str "null" => false
    | _ => true
  match members.lookup "type" with
  | some (.arr entries) => (entries.find? named).bind fun (j : Json) =>
    match j with
    | .null => none
    | j => some j
  | some .null => none
  | found => found

/-- The texts in the list of required names. -/
def required (members : Json.Members) : List String :=
  match members.lookup "required" with
  | some (.arr entries) => entries.filterMap Json.text?
  | _ => []

/-- The description that a property's fragment gives. -/
def description? : Json → Option String
  | .obj members => (members.lookup "description").bind Json.text?
  | _ => none

/-- The properties that a fragment lists, each with its own fragment unread. -/
def properties (members : Json.Members) : List (Property Json) :=
  match members.lookup "properties" with
  | some (.obj entries) =>
    entries.map fun (name, fragment) =>
      { name, shape := fragment, description := description? fragment,
        optional := !(required members).contains name }
  | _ => []

/-! ## Fragments -/

/-- One branch of a union: a single value, or a fragment still unread. -/
inductive Branch where
  | single (value : String)
  | unread (fragment : Json)
deriving Repr

/-- What a fragment says at its top. -/
inductive Fragment where
  /-- Not an object. -/
  | loose (value : Json)
  | reference (target : Json)
  /-- A choice of one branch beside null; the branch takes the fragment's place. -/
  | sole (branch : Json)
  | union (title : Option String) (branches : List Branch)
  | enumeration (title : Option String) (values : List String)
  | scalar (kind : Scalar)
  /-- An array; elements without a fragment of their own are unconstrained strings. -/
  | array (items : Option Json) (least most : Option Nat)
  | object (title : Option String) (properties : List (Property Json))
  /-- A type that is not recognised. -/
  | unknown (type : Json)
  /-- No constraint. -/
  | free
deriving Repr

/-- A branch that is not null alone. -/
def Branch.ofJson (fragment : Json) : Branch :=
  match singleValue? fragment with
  | some value => .single value
  | none => .unread fragment

namespace Fragment

/-- A choice between branches. Null branches carry no constraint; values alone make an
enumeration. -/
def ofBranches (title : Option String) (branches : List Json) : Fragment :=
  let kept := branches.filter (!isNullBranch ·)
  match kept with
  | [] => .free
  | [branch] =>
    match singleValue? branch with
    | some value => .enumeration title [value]
    | none => if 1 < branches.length then .sole branch else .union title [.unread branch]
  | kept =>
    match kept.mapM singleValue? with
    | some values => .enumeration title values
    | none => .union title (kept.map Branch.ofJson)

/-- A fragment that is told apart by its type. -/
def ofType (members : Json.Members) : Fragment :=
  let object := Fragment.object (title? members) (properties members)
  match primaryType? members with
  | none =>
    match members.lookup "properties" with
    | some (.obj _) => object
    | _ => .free
  | some (.str "string") => .scalar .string
  | some (.str "number") => .scalar .number
  | some (.str "integer") => .scalar .integer
  | some (.str "boolean") => .scalar .boolean
  | some (.str "array") =>
    let items := match members.lookup "items" with
      | some (.obj entries) => some (Json.obj entries)
      | _ => none
    .array items (bound? "minItems" members) (bound? "maxItems" members)
  | some (.str "object") => object
  | some type => .unknown type

/-- What an object says: a reference first, then branches, then values, then its type. -/
def ofMembers (members : Json.Members) : Fragment :=
  match members.lookup "$ref" with
  | some target => .reference target
  | none =>
    match members.lookup "anyOf" with
    | some (.arr (b :: bs)) => ofBranches (title? members) (b :: bs)
    | _ =>
      match members.lookup "enum", members.lookup "const" with
      | some (.arr (v :: vs)), _ => .enumeration (title? members) ((v :: vs).map valueText)
      | _, some value => .enumeration (title? members) [valueText value]
      | _, none => ofType members

/-- What a value says as a fragment. -/
def ofJson : Json → Fragment
  | .obj members => ofMembers members
  | j => .loose j

end Fragment

/-- The fragment of a branch that is still unread. -/
def Branch.fragment? : Branch → Option Json
  | .single _ => none
  | .unread fragment => some fragment

/-- The fragments below, in the order they are read. -/
def Fragment.children : Fragment → List Json
  | .sole branch => [branch]
  | .union _ branches => branches.filterMap Branch.fragment?
  | .array items _ _ => items.toList
  | .object _ properties => properties.map (·.shape)
  | _ => []

/-! ## Children are smaller -/

theorem sizeOf_lookup_lt {key : String} {value : Json} {members : Json.Members}
    (h : members.lookup key = some value) : sizeOf value < sizeOf (Json.obj members) := by
  induction members with
  | nil => simp at h
  | cons entry rest ih =>
    obtain ⟨k, v⟩ := entry
    rw [List.lookup_cons] at h
    split at h
    · cases h
      simp
      omega
    · have := ih h
      simp at this ⊢
      omega

theorem sizeOf_element_lt {x : Json} {xs : List Json} (h : x ∈ xs) :
    sizeOf x < sizeOf (Json.arr xs) := by
  have := List.sizeOf_lt_of_mem h
  simp
  omega

theorem sizeOf_member_lt {entry : String × Json} {members : Json.Members} (h : entry ∈ members) :
    sizeOf entry.2 < sizeOf (Json.obj members) := by
  have := List.sizeOf_lt_of_mem h
  obtain ⟨k, v⟩ := entry
  simp at this ⊢
  omega

theorem Fragment.mem_of_mem_children_ofBranches {title : Option String} {branches : List Json}
    {child : Json} (h : child ∈ (ofBranches title branches).children) : child ∈ branches := by
  have kept : ∀ {x}, x ∈ branches.filter (!isNullBranch ·) → x ∈ branches :=
    fun hx => (List.mem_filter.1 hx).1
  unfold ofBranches at h
  simp only at h
  split at h
  · simp [children] at h
  · rename_i branch hb
    have : branch ∈ branches := kept (by simp [hb])
    split at h
    · simp [children] at h
    · split at h <;> simp [children, Branch.fragment?] at h <;> simpa [h] using this
  · rename_i kept' _ _
    split at h
    · simp [children] at h
    · simp only [children, List.mem_filterMap, List.mem_map] at h
      obtain ⟨b, ⟨x, hx, rfl⟩, hb⟩ := h
      have : x = child := by
        unfold Branch.ofJson at hb
        split at hb <;> simp_all [Branch.fragment?]
      subst this
      exact kept hx

theorem Fragment.sizeOf_child_ofType {members : Json.Members} {child : Json}
    (h : child ∈ (ofType members).children) : sizeOf child < sizeOf (Json.obj members) := by
  have inProperties : child ∈ (Fragment.object (title? members) (properties members)).children →
      sizeOf child < sizeOf (Json.obj members) := by
    intro h
    simp only [children, properties] at h
    split at h
    · rename_i entries he
      simp only [List.map_map, List.mem_map] at h
      obtain ⟨entry, hm, rfl⟩ := h
      exact Nat.lt_trans (sizeOf_member_lt hm) (sizeOf_lookup_lt he)
    · simp at h
  unfold ofType at h
  simp only at h
  split at h
  · split at h
    · exact inProperties h
    · simp [children] at h
  · simp [children] at h
  · simp [children] at h
  · simp [children] at h
  · simp [children] at h
  · split at h
    · rename_i entries he
      simp [children] at h
      subst h
      exact sizeOf_lookup_lt he
    · simp [children] at h
  · exact inProperties h
  · simp [children] at h

/-- Every fragment below a fragment is smaller than it. -/
theorem Fragment.sizeOf_child {j child : Json} (h : child ∈ (ofJson j).children) :
    sizeOf child < sizeOf j := by
  unfold ofJson at h
  split at h
  · unfold ofMembers at h
    split at h
    · simp [children] at h
    · split at h
      · rename_i b bs hb
        exact Nat.lt_trans (sizeOf_element_lt (mem_of_mem_children_ofBranches h))
          (sizeOf_lookup_lt hb)
      · split at h
        · simp [children] at h
        · simp [children] at h
        · exact sizeOf_child_ofType h
  · simp [children] at h

end Dialogue.Schema
