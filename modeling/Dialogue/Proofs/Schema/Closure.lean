import Dialogue.Proofs.Schema.WellFormed

/-!
# Dialogue.Proofs.Schema.Closure — a compiled schema is closed under reference

Whatever a reference in a compiled schema gives is a dependency, and the dependencies are the
definitions of the document. The same holds of the rendered schema, where every reference is written
in one form.

* `Shape.Occurs` — a part of a shape, at any depth;
* `Inside` — what stands in a document at any depth, where it is read as a fragment. The objects that
  only list fragments by name are passed through: a property may itself be called `$ref`, and its
  name is no reference;
* `Refers` — all references inside a document give known names; it is put together from the members
  of an object, so it follows the rendering of a shape (`refers_render`);
* `compile_closed` — the statement for every document that compiles.
-/

namespace Dialogue.Schema

/-! ## Parts of shapes -/

/-- What a shape has as a part, at any depth; it is a part of itself. -/
inductive Shape.Occurs {ρ ν : Type} (part : Shape ρ ν) : Shape ρ ν → Prop where
  | here : Occurs part part
  | element {element : Shape ρ ν} {least most : Option Nat} (h : Occurs part element) :
      Occurs part (.array element least most)
  | property {label : ν} {properties : List (Property (Shape ρ ν))} {p : Property (Shape ρ ν)}
      (hp : p ∈ properties) (h : Occurs part p.shape) : Occurs part (.object label properties)
  | variant {label : ν} {variants : List (Shape ρ ν)} {v : Shape ρ ν} (hv : v ∈ variants)
      (h : Occurs part v) : Occurs part (.union label variants)

/-- Whether a node is a part of the root or of a dependency, at any depth. -/
def Compiled.Contains (c : Compiled) (part : Node) : Prop :=
  part.Occurs c.root ∨ ∃ d ∈ c.dependencies, part.Occurs d.2

/-- A part of a well-formed shape is well-formed. -/
theorem WellFormed.of_occurs {ν : Type} {known : String → Prop} {part shape : Shape String ν}
    (h : WellFormed known shape) (hpart : part.Occurs shape) : WellFormed known part := by
  induction hpart with
  | here => exact h
  | element _ ih =>
    cases h with
    | array helement => exact ih helement
  | property hp _ ih =>
    cases h with
    | object hshapes _ => exact ih (hshapes _ hp)
  | variant hv _ ih =>
    cases h with
    | union _ hshapes => exact ih (hshapes _ hv)

/-! ## References in documents -/

/-- The keys whose values list fragments by name. -/
def nameTables : List String := ["properties", "definitions", "$defs"]

/-- What stands in a document at any depth, the document itself included, and is not just a list of
fragments by name. -/
inductive Inside (part : Json) : Json → Prop where
  | here : Inside part part
  | element {elements : List Json} {x : Json} (hx : x ∈ elements) (h : Inside part x) :
      Inside part (.arr elements)
  | member {members : Json.Members} {key : String} {value : Json} (hm : (key, value) ∈ members)
      (hkey : key ∉ nameTables) (h : Inside part value) : Inside part (.obj members)
  | named {members entries : Json.Members} {key name : String} {value : Json}
      (hm : (key, .obj entries) ∈ members) (hkey : key ∈ nameTables)
      (he : (name, value) ∈ entries) (h : Inside part value) : Inside part (.obj members)

/-- Every reference inside a document gives a known name, under `$defs`. -/
def Refers (known : String → Prop) (document : Json) : Prop :=
  ∀ members target, Inside (.obj members) document → ("$ref", target) ∈ members →
    ∃ name, known name ∧ target = .str ("#/$defs/" ++ name)

section

variable {known : String → Prop}

theorem refers_str (text : String) : Refers known (.str text) := by
  intro members target h
  cases h

theorem refers_int (value : Int) : Refers known (.int value) := by
  intro members target h
  cases h

theorem refers_bool (value : Bool) : Refers known (.bool value) := by
  intro members target h
  cases h

theorem refers_arr {elements : List Json} (h : ∀ x ∈ elements, Refers known x) :
    Refers known (.arr elements) := by
  intro members target hinside hmem
  cases hinside with
  | element hx hinside => exact h _ hx members target hinside hmem

theorem refers_nil : Refers known (.obj []) := by
  intro members target hinside hmem
  cases hinside with
  | here => simp at hmem
  | member hm => simp at hm
  | named hm => simp at hm

/-- An object's references are those of its members. -/
theorem refers_append {first second : Json.Members} (h : Refers known (.obj first))
    (h' : Refers known (.obj second)) : Refers known (.obj (first ++ second)) := by
  intro members target hinside hmem
  cases hinside with
  | here =>
    rcases List.mem_append.1 hmem with hmem | hmem
    · exact h first target .here hmem
    · exact h' second target .here hmem
  | member hm hkey hinside =>
    rcases List.mem_append.1 hm with hm | hm
    · exact h members target (.member hm hkey hinside) hmem
    · exact h' members target (.member hm hkey hinside) hmem
  | named hm hkey he hinside =>
    rcases List.mem_append.1 hm with hm | hm
    · exact h members target (.named hm hkey he hinside) hmem
    · exact h' members target (.named hm hkey he hinside) hmem

theorem refers_cons {entry : String × Json} {rest : Json.Members}
    (h : Refers known (.obj [entry])) (hrest : Refers known (.obj rest)) :
    Refers known (.obj (entry :: rest)) :=
  refers_append h hrest

/-- A member that is no reference and no list of fragments by name. -/
theorem refers_member {key : String} {value : Json} (href : key ≠ "$ref")
    (hkey : key ∉ nameTables) (h : Refers known value) : Refers known (.obj [(key, value)]) := by
  intro members target hinside hmem
  cases hinside with
  | here =>
    obtain ⟨rfl, -⟩ := Prod.mk.inj (List.mem_singleton.1 hmem)
    contradiction
  | member hm _ hinside =>
    obtain ⟨-, rfl⟩ := Prod.mk.inj (List.mem_singleton.1 hm)
    exact h members target hinside hmem
  | named hm hkey' =>
    obtain ⟨rfl, -⟩ := Prod.mk.inj (List.mem_singleton.1 hm)
    contradiction

/-- A member that lists fragments by name. -/
theorem refers_named {key : String} {entries : Json.Members} (hkey : key ∈ nameTables)
    (h : ∀ entry ∈ entries, Refers known entry.2) :
    Refers known (.obj [(key, .obj entries)]) := by
  have href : key ≠ "$ref" := by
    rintro rfl
    simp [nameTables] at hkey
  intro members target hinside hmem
  cases hinside with
  | here =>
    obtain ⟨rfl, -⟩ := Prod.mk.inj (List.mem_singleton.1 hmem)
    contradiction
  | member hm hkey' =>
    obtain ⟨rfl, -⟩ := Prod.mk.inj (List.mem_singleton.1 hm)
    contradiction
  | named hm _ he hinside =>
    obtain ⟨-, heq⟩ := Prod.mk.inj (List.mem_singleton.1 hm)
    obtain rfl := Json.obj.inj heq
    exact h _ he members target hinside hmem

/-! ## References in rendered shapes -/

theorem refers_renderReference {name : String} (h : known name) :
    Refers known (renderReference name) := by
  intro members target hinside hmem
  cases hinside with
  | here =>
    obtain ⟨-, rfl⟩ := Prod.mk.inj (List.mem_singleton.1 hmem)
    exact ⟨name, h, rfl⟩
  | member hm _ hinside =>
    -- the target of a reference has nothing inside
    obtain ⟨-, rfl⟩ := Prod.mk.inj (List.mem_singleton.1 hm)
    exact refers_str _ members target hinside hmem
  | named hm =>
    obtain ⟨-, heq⟩ := Prod.mk.inj (List.mem_singleton.1 hm)
    contradiction

theorem refers_texts (texts : List String) : Refers known (.arr (texts.map .str)) := by
  refine refers_arr ?_
  intro x hx
  obtain ⟨text, -, rfl⟩ := List.mem_map.1 hx
  exact refers_str text

theorem refers_renderValues (values : List String) : Refers known (renderValues values) :=
  refers_cons (refers_member (by simp) (by simp [nameTables]) (refers_str _))
    (refers_member (by simp) (by simp [nameTables]) (refers_texts values))

theorem refers_renderBound {key : String} (href : key ≠ "$ref") (hkey : key ∉ nameTables)
    (bound : Option Nat) : Refers known (.obj (renderBound key bound)) := by
  cases bound with
  | none => exact refers_nil
  | some n => exact refers_member href hkey (refers_int n)

theorem refers_renderRequired (names : List String) :
    Refers known (.obj (renderRequired names)) := by
  unfold renderRequired
  split
  · exact refers_nil
  · exact refers_member (by simp) (by simp [nameTables]) (refers_texts names)

theorem refers_describe {document : Json} (h : Refers known document)
    (description : Option String) : Refers known (describe description document) := by
  unfold describe
  split
  · split
    · exact h
    · exact refers_append h (refers_member (by simp) (by simp [nameTables]) (refers_str _))
  · exact h

theorem renderProperties_eq {ν : Type} (properties : List (Property (Shape String ν))) :
    renderProperties properties =
      properties.map fun p => (p.name, describe p.description (render p.shape)) := by
  induction properties with
  | nil => rw [renderProperties, List.map_nil]
  | cons p rest ih => rw [renderProperties, ih, List.map_cons]

theorem renderVariants_eq {ν : Type} (variants : List (Shape String ν)) :
    renderVariants variants = variants.map render := by
  induction variants with
  | nil => rw [renderVariants, List.map_nil]
  | cons v rest ih => rw [renderVariants, ih, List.map_cons]

/-- A rendered shape says nothing under other keys. -/
theorem lookup_render {ν : Type} {shape : Shape String ν} {members : Json.Members}
    (h : render shape = .obj members) {key : String} (hkey : key ∉ renderedKeys) :
    members.lookup key = none := by
  obtain ⟨others, hothers, hkeys⟩ := render_eq_obj shape
  obtain rfl : members = others := Json.obj.inj (h.symm.trans hothers)
  exact lookup_eq_none fun entry hentry heq => hkey (heq ▸ hkeys entry hentry)

/-- The references in a rendered shape are those of the shape. -/
theorem refers_render {ν : Type} {shape : Shape String ν} (h : WellFormed known shape) :
    Refers known (render shape) := by
  induction h with
  | scalar kind =>
    rw [render]
    exact refers_member (by simp) (by simp [nameTables]) (refers_str _)
  | literal value =>
    rw [render]
    exact refers_renderValues [value]
  | array _ ih =>
    rw [render]
    refine refers_append (refers_append (refers_cons ?_ ?_) ?_) ?_
    · exact refers_member (by simp) (by simp [nameTables]) (refers_str _)
    · exact refers_member (by simp) (by simp [nameTables]) ih
    · exact refers_renderBound (by simp) (by simp [nameTables]) _
    · exact refers_renderBound (by simp) (by simp [nameTables]) _
  | @object label properties _ _ ih =>
    rw [render]
    refine refers_append (refers_cons ?_ (refers_cons ?_ ?_)) (refers_renderRequired _)
    · exact refers_member (by simp) (by simp [nameTables]) (refers_str _)
    · refine refers_named (by simp [nameTables]) ?_
      intro entry hentry
      rw [renderProperties_eq] at hentry
      obtain ⟨p, hp, rfl⟩ := List.mem_map.1 hentry
      exact refers_describe (ih p hp) p.description
    · exact refers_member (by simp) (by simp [nameTables]) (refers_bool _)
  | @enumeration label values _ =>
    rw [render]
    exact refers_renderValues values
  | @union label variants _ _ ih =>
    rw [render]
    refine refers_member (by simp) (by simp [nameTables]) (refers_arr ?_)
    intro x hx
    rw [renderVariants_eq] at hx
    obtain ⟨v, hv, rfl⟩ := List.mem_map.1 hx
    exact ih v hv
  | reference hknown =>
    rw [render]
    exact refers_renderReference hknown

end

/-! ## Compiled schemas -/

/-- The names under which a document lists fragments at a key of its own, in order. -/
def namesAt (key : String) (document : Json) : List String :=
  (((document.get? key).bind Json.members?).getD []).map (·.1)

theorem namesAt_eq (key : String) (document : Json.Members) :
    namesAt key (.obj document) = (block key document).map (·.1) := by
  unfold namesAt block
  rw [Json.get?]
  cases h : document.lookup key with
  | none => rfl
  | some value => cases value <;> rfl

theorem lookup_isNone_iff {α : Type} {entries : List (String × α)} {name : String} :
    (entries.lookup name).isNone = true ↔ name ∉ entries.map (·.1) := by
  rw [Option.isNone_iff_eq_none, List.lookup_eq_none_iff]
  constructor
  · rintro h hmem
    obtain ⟨entry, hentry, rfl⟩ := List.mem_map.1 hmem
    simpa using h entry hentry
  · intro h entry hentry
    have hne : name ≠ entry.1 := by
      rintro rfl
      exact h (List.mem_map.2 ⟨entry, hentry, rfl⟩)
    simpa using hne

/-- The definitions of a document are those under `definitions`, then the new ones under `$defs`. -/
theorem names_definitions (document : Json.Members) :
    (definitions document).map (·.1) =
      namesAt "definitions" (.obj document) ++
        (namesAt "$defs" (.obj document)).filter (· ∉ namesAt "definitions" (.obj document)) := by
  rw [namesAt_eq, namesAt_eq, definitions]
  simp only [List.map_append, List.filter_map]
  congr 2
  refine List.filter_congr ?_
  rintro ⟨name, fragment⟩ _
  rw [Bool.eq_iff_iff, lookup_isNone_iff]
  simp

/-- A schema resolves the names of its dependencies. -/
theorem Compiled.resolve_of_mem {c : Compiled} {name : String} (h : name ∈ c.names) :
    ∃ node, (name, node) ∈ c.dependencies ∧ c.resolve name = .ok node := by
  cases hlookup : c.dependencies.lookup name with
  | none =>
    rw [← Option.isNone_iff_eq_none, lookup_isNone_iff] at hlookup
    exact absurd h hlookup
  | some node =>
    refine ⟨node, ?_, by simp [resolve, hlookup]⟩
    obtain ⟨before, after, heq, -⟩ := List.lookup_eq_some_iff.1 hlookup
    rw [heq]
    simp

/-- A rendered schema lists its dependencies under `$defs`. -/
theorem Compiled.namesAt_toJson (c : Compiled) : namesAt "$defs" c.toJson = c.names := by
  obtain ⟨members, hmembers, hjson, -⟩ := c.toJson_eq
  have hnone : members.lookup "$defs" = none := lookup_render hmembers (by simp [renderedKeys])
  unfold namesAt names
  rw [hjson, Json.get?, List.lookup_append, hnone]
  unfold renderDefinitions
  cases c.dependencies with
  | nil => rfl
  | cons d rest => simp [Json.members?]

/-- For every document that compiles: the dependencies are its definitions, in order; a reference
anywhere in the root or in a dependency gives one of them, which is found; and a reference anywhere
in the rendered schema gives one of the rendered definitions, under `$defs`. -/
theorem compile_closed {document : Json} {c : Compiled} (h : compile document = .ok c) :
    c.names = namesAt "definitions" document ++
        (namesAt "$defs" document).filter (· ∉ namesAt "definitions" document) ∧
      (∀ name, c.Contains (.reference name) →
        name ∈ c.names ∧ ∃ node, (name, node) ∈ c.dependencies ∧ c.resolve name = .ok node) ∧
      ∀ members target, Inside (.obj members) c.toJson → ("$ref", target) ∈ members →
        ∃ name ∈ namesAt "$defs" c.toJson, target = .str ("#/$defs/" ++ name) := by
  obtain ⟨document, rfl, hmembers⟩ := compile_eq_ok.1 h
  obtain ⟨hnames, hroot, hdependencies⟩ := compile_wellFormed hmembers
  refine ⟨hnames.trans (names_definitions document), ?_, ?_⟩
  · intro name hname
    have hreference : WellFormed (Known c.names) (.reference name : Node) := by
      rcases hname with hname | ⟨d, hd, hname⟩
      · exact hroot.of_occurs hname
      · exact (hdependencies d hd).of_occurs hname
    cases hreference with
    | reference hknown => exact ⟨hknown.1, Compiled.resolve_of_mem hknown.1⟩
  · intro members target hinside hmem
    obtain ⟨rendered, hrender, hjson, -⟩ := c.toJson_eq
    have hrefers : Refers (Known c.names) c.toJson := by
      rw [hjson]
      refine refers_append (hrender ▸ refers_render hroot) ?_
      unfold Compiled.renderDefinitions
      split
      · exact refers_nil
      · refine refers_named (by simp [nameTables]) ?_
        intro entry hentry
        obtain ⟨d, hd, rfl⟩ := List.mem_map.1 hentry
        exact refers_render (hdependencies d hd)
    obtain ⟨name, hknown, htarget⟩ := hrefers members target hinside hmem
    rw [Compiled.namesAt_toJson]
    exact ⟨name, hknown.1, htarget⟩

/-- A link to the next one under a property that is itself called `$ref`, with a text. -/
def linkWithText : Json.Members :=
  [("type", .str "object"),
    ("properties", .obj [("$ref", .obj [("$ref", .str "#/$defs/Link")]),
      ("text", .obj [("$ref", .str "#/definitions/Text")])])]

/-- A document with definitions in both places; the second `Link` does not count. -/
def twoTables : Json.Members :=
  [("$ref", .str "#/definitions/Link"), ("definitions", .obj [("Link", .obj linkWithText)]),
    ("$defs", .obj [("Link", .obj [("type", .str "string")]),
      ("Text", .obj [("type", .str "string")])])]

theorem draft_linkWithText :
    Draft.ofJson (.obj linkWithText) = .object none
      [⟨"$ref", .reference (.str "#/$defs/Link"), none, true⟩,
        ⟨"text", .reference (.str "#/definitions/Text"), none, true⟩] := by
  have href : ∀ target, Draft.ofJson (.obj [("$ref", target)]) = .reference target := by
    intro target
    rw [Draft.ofJson_eq]
    rfl
  rw [Draft.ofJson_eq]
  show Shape.object none
    [⟨"$ref", Draft.ofJson (.obj [("$ref", .str "#/$defs/Link")]), none, true⟩,
      ⟨"text", Draft.ofJson (.obj [("$ref", .str "#/definitions/Text")]), none, true⟩] = _
  rw [href, href]

theorem compiles_twoTables :
    ∃ c, compile (.obj twoTables) = .ok c ∧ c.names = ["Link", "Text"] := by
  have hroot : Draft.ofJson (.obj twoTables) = .reference (.str "#/definitions/Link") := by
    rw [Draft.ofJson_eq]
    rfl
  have htext : Draft.ofJson (.obj [("type", .str "string")]) = .scalar .string := by
    rw [Draft.ofJson_eq]
    rfl
  have hdefinitions : definitions twoTables =
      [("Link", .obj linkWithText), ("Text", .obj [("type", .str "string")])] := rfl
  refine ⟨_, compile_eq_ok.2 ⟨_, rfl, compileMembers_eq_ok.2
    ⟨[("Link", .object none [⟨"$ref", .reference "Link", none, true⟩,
      ⟨"text", .reference "Text", none, true⟩]), ("Text", .scalar .string)], ?_,
      .reference "Link", ?_, rfl⟩⟩, rfl⟩
  · rw [hdefinitions]
    simp only [resolveDefinitions, draft_linkWithText, htext]
    rfl
  · rw [hdefinitions, hroot]
    rfl

theorem compile_closed_twoTables :
    ∃ c, compile (.obj twoTables) = .ok c ∧ c.names = ["Link", "Text"] ∧
      (∀ name, c.Contains (.reference name) →
        name ∈ c.names ∧ ∃ node, (name, node) ∈ c.dependencies ∧ c.resolve name = .ok node) ∧
      ∀ members target, Inside (.obj members) c.toJson → ("$ref", target) ∈ members →
        ∃ name ∈ namesAt "$defs" c.toJson, target = .str ("#/$defs/" ++ name) := by
  obtain ⟨c, hc, hnames⟩ := compiles_twoTables
  obtain ⟨-, hreferences, hrendered⟩ := compile_closed hc
  exact ⟨c, hc, hnames, hreferences, hrendered⟩

end Dialogue.Schema
