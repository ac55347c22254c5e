import Dialogue.Proofs.Schema.Meaning
import Dialogue.Schema.Compile

/-!
# Dialogue.Proofs.Schema.Supported — the documents whose meaning compiling keeps

A supported fragment is a scalar type, an array with described items, an object with described
properties, a list of texts, one text, a choice between fragments and null, or a reference; apart
from that it has annotations only. A supported document is such a fragment with definitions that are
such fragments.

* `Fragment.draft` and `Draft.ofJson_eq` — a draft is made of what a fragment says at its top and of
  the drafts of its children, so nothing else has to look into `Draft.ofJson`;
* `ofMembers_…` — what a supported fragment says at its top.
-/

namespace Dialogue.Schema

/-! ## The language -/

/-- What any fragment may say beside its constraint. -/
def annotations : List String := ["title", "description"]

/-- What a document may say beside its constraint. -/
def documentNotes : List String := annotations ++ ["definitions", "$defs"]

/-- Whether all keys of a fragment are among those listed. -/
def Keys (keys : List String) (members : Json.Members) : Prop := ∀ entry ∈ members, entry.1 ∈ keys

/-- Whether a bound on a length is absent or a whole number from zero on. -/
def PlainBound (key : String) (members : Json.Members) : Prop :=
  members.lookup key = none ∨ ∃ n : Nat, members.lookup key = some (.int n)

/-- The fragments that only use what is supported. `known` are the names that references may give,
and `notes` the keys that may stand beside the constraint. -/
inductive Supported (known : String → Prop) : List String → Json → Prop where
  | scalar {notes : List String} {members : Json.Members} (kind : Scalar)
      (htype : members.lookup "type" = some (.str kind.name))
      (hkeys : Keys ("type" :: notes) members) : Supported known notes (.obj members)
  | array {notes : List String} {members entries : Json.Members}
      (htype : members.lookup "type" = some (.str "array"))
      (hitems : members.lookup "items" = some (.obj entries))
      (hsupported : Supported known annotations (.obj entries))
      (hleast : PlainBound "minItems" members) (hmost : PlainBound "maxItems" members)
      (hkeys : Keys ("type" :: "items" :: "minItems" :: "maxItems" :: notes) members) :
      Supported known notes (.obj members)
  | object {notes : List String} {members properties : Json.Members} {names : List String}
      (htype : members.lookup "type" = some (.str "object"))
      (hproperties : ListsProperties members properties)
      (hsupported : ∀ entry ∈ properties, Supported known annotations entry.2)
      (hrequired : members.lookup "required" = some (.arr (names.map .str)) ∨
        members.lookup "required" = none ∧ names = [])
      (hdeclared : ∀ name ∈ names, ∃ fragment, (name, fragment) ∈ properties)
      (hkeys : Keys ("type" :: "properties" :: "required" :: notes) members) :
      Supported known notes (.obj members)
  | enumeration {notes : List String} {members : Json.Members} {values : List String}
      (hvalues : values ≠ [])
      (htype : members.lookup "type" = none ∨ members.lookup "type" = some (.str "string"))
      (henum : members.lookup "enum" = some (.arr (values.map .str)))
      (hkeys : Keys ("type" :: "enum" :: notes) members) : Supported known notes (.obj members)
  | const {notes : List String} {members : Json.Members} {text : String}
      (htype : members.lookup "type" = none ∨ members.lookup "type" = some (.str "string"))
      (hconst : members.lookup "const" = some (.str text))
      (hkeys : Keys ("type" :: "const" :: notes) members) : Supported known notes (.obj members)
  | anyOf {notes : List String} {members : Json.Members} {branches : List Json}
      (hany : members.lookup "anyOf" = some (.arr branches))
      (hsome : ∃ branch ∈ branches, branch ≠ nullBranch)
      (hsupported : ∀ branch ∈ branches, branch ≠ nullBranch →
        Supported known annotations branch)
      (hkeys : Keys ("anyOf" :: notes) members) : Supported known notes (.obj members)
  | reference {notes : List String} {members : Json.Members} {target : Json} {name : String}
      (href : members.lookup "$ref" = some target) (htarget : Targets target name)
      (hknown : known name) (hkeys : Keys ("$ref" :: notes) members) :
      Supported known notes (.obj members)

/-- Whether exactly one of the two blocks of definitions defines a name. -/
def DefinedOnce (document : Json) (name : String) : Prop :=
  ((document.get? "definitions").bind (Json.get? name)).isSome ≠
    ((document.get? "$defs").bind (Json.get? name)).isSome

/-- A document of supported fragments whose references give names that are defined once and that
`allowed` admits. -/
structure SupportedDocument (allowed : String → Prop) (document : Json.Members) : Prop where
  root : Supported (fun name => DefinedOnce (.obj document) name ∧ allowed name) documentNotes
    (.obj document)
  definitions : ∀ entry ∈ block "definitions" document ++ block "$defs" document,
    Supported (fun name => DefinedOnce (.obj document) name ∧ allowed name) annotations entry.2

/-- The names that a reference can give: they are not empty and have no slash. -/
def Referable (name : String) : Prop := name ≠ "" ∧ '/' ∉ name.toList

/-! ## Drafts -/

/-- The draft of a branch. -/
def Branch.draft : Branch → Draft
  | .single value => .literal value
  | .unread fragment => Draft.ofJson fragment

/-- The draft that a fragment's top and its children make. -/
def Fragment.draft : Fragment → Draft
  | .loose _ => .anyString
  | .reference target => .reference target
  | .sole branch => Draft.ofJson branch
  | .union title branches => .union title (branches.map Branch.draft)
  | .enumeration title values => .enumeration title values
  | .scalar kind => .scalar kind
  | .array none least most => .array .anyString least most
  | .array (some items) least most => .array (Draft.ofJson items) least most
  | .object title properties =>
    .object title (properties.map fun p =>
      ⟨p.name, Draft.ofJson p.shape, p.description, p.optional⟩)
  | .unknown _ => .anyString
  | .free => .anyString

/-- A list mapped along with its membership proofs. -/
theorem map_attach_of_forall {α β : Type} {xs : List α} {g : { x // x ∈ xs } → β} {f : α → β}
    (h : ∀ x, g x = f x.val) : xs.attach.map g = xs.map f := by
  have hg : g = f ∘ Subtype.val := funext h
  rw [hg, ← List.map_map, List.attach_map_subtype_val]

/-- A draft is made of a fragment's top and the drafts of its children. -/
theorem Draft.ofJson_eq (fragment : Json) :
    Draft.ofJson fragment = (Fragment.ofJson fragment).draft := by
  rw [Draft.ofJson]
  split <;> rename_i h <;> rw [h] <;> simp only [Fragment.draft]
  · -- a choice: literal values beside unread fragments
    congr 1
    refine map_attach_of_forall ?_
    rintro ⟨branch, hbranch⟩
    cases branch <;> rfl
  · congr 1
    exact map_attach_of_forall fun p => rfl

/-! ## What supported fragments say at their top -/

theorem only_of_keys (keys : List String) {notes : List String} {members : Json.Members}
    (h : Keys (keys ++ notes) members) (hnotes : ∀ note ∈ notes, note ∉ keywords) :
    Only keys members := by
  intro key hkey hnot
  refine List.lookup_eq_none_iff.2 ?_
  intro entry hentry
  have hmem := h entry hentry
  rw [List.mem_append] at hmem
  have hne : key ≠ entry.1 := by
    rintro rfl
    rcases hmem with hmem | hmem
    · exact hnot hmem
    · exact hnotes _ hmem hkey
  simpa using hne

theorem annotations_not_keywords : ∀ note ∈ annotations, note ∉ keywords := by
  simp [annotations, keywords]

theorem documentNotes_not_keywords : ∀ note ∈ documentNotes, note ∉ keywords := by
  simp [documentNotes, annotations, keywords]

section

variable {members : Json.Members}

/-- A fragment that lists no values and gives none is no choice of one text. -/
theorem singleValue?_of_only {keys : List String} (honly : Only keys members)
    (henum : "enum" ∉ keys) (hconst : "const" ∉ keys) : singleValue? (.obj members) = none := by
  have henum := honly "enum" (by simp [keywords]) henum
  have hconst := honly "const" (by simp [keywords]) hconst
  simp [singleValue?, henum, hconst]

theorem bound?_of_plainBound {key : String} (h : PlainBound key members) :
    members.lookup key = (bound? key members).map fun (n : Nat) => .int n := by
  unfold bound?
  rcases h with h | ⟨n, h⟩
  · rw [h]
    rfl
  · rw [h]
    rfl

theorem ofMembers_scalar {kind : Scalar} (honly : Only ["type"] members)
    (htype : members.lookup "type" = some (.str kind.name)) :
    Fragment.ofMembers members = .scalar kind := by
  simp [Only, keywords, -List.lookup_eq_none_iff] at honly
  cases kind <;> simp [Fragment.ofMembers, Fragment.ofType, primaryType?, honly, htype, Scalar.name]

theorem ofMembers_array {entries : Json.Members}
    (honly : Only ["type", "items", "minItems", "maxItems"] members)
    (htype : members.lookup "type" = some (.str "array"))
    (hitems : members.lookup "items" = some (.obj entries)) :
    Fragment.ofMembers members =
      .array (some (.obj entries)) (bound? "minItems" members) (bound? "maxItems" members) := by
  simp [Only, keywords, -List.lookup_eq_none_iff] at honly
  simp [Fragment.ofMembers, Fragment.ofType, primaryType?, honly, htype, hitems]

theorem ofMembers_object (honly : Only ["type", "properties", "required"] members)
    (htype : members.lookup "type" = some (.str "object")) :
    Fragment.ofMembers members = .object (title? members) (properties members) := by
  simp [Only, keywords, -List.lookup_eq_none_iff] at honly
  simp [Fragment.ofMembers, Fragment.ofType, primaryType?, honly, htype]

theorem ofMembers_enumeration {values : List String} (hvalues : values ≠ [])
    (honly : Only ["type", "enum"] members)
    (henum : members.lookup "enum" = some (.arr (values.map .str))) :
    Fragment.ofMembers members = .enumeration (title? members) values := by
  simp [Only, keywords, -List.lookup_eq_none_iff] at honly
  cases values with
  | nil => contradiction
  | cons value rest => simp [Fragment.ofMembers, honly, henum, valueText, Function.comp_def]

theorem ofMembers_const {text : String} (honly : Only ["type", "const"] members)
    (hconst : members.lookup "const" = some (.str text)) :
    Fragment.ofMembers members = .enumeration (title? members) [text] := by
  simp [Only, keywords, -List.lookup_eq_none_iff] at honly
  simp [Fragment.ofMembers, honly, hconst, valueText]

theorem ofMembers_anyOf {branches : List Json} (hbranches : branches ≠ [])
    (honly : Only ["anyOf"] members) (hany : members.lookup "anyOf" = some (.arr branches)) :
    Fragment.ofMembers members = .ofBranches (title? members) branches := by
  simp [Only, keywords, -List.lookup_eq_none_iff] at honly
  cases branches with
  | nil => contradiction
  | cons branch rest => simp [Fragment.ofMembers, honly, hany]

theorem ofMembers_reference {target : Json} (href : members.lookup "$ref" = some target) :
    Fragment.ofMembers members = .reference target := by
  simp [Fragment.ofMembers, href]

end

end Dialogue.Schema
