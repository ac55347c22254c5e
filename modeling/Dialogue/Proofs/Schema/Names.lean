import Dialogue.Proofs.Schema.Closure
import Dialogue.Proofs.Schema.Naming
import Mathlib.Data.List.Flatten
import Mathlib.Data.List.Nodup

/-!
# Dialogue.Proofs.Schema.Names — no two parts of a schema share a name

The names in use only grow while a document is compiled, and each name given to a part is added to
them. So it is enough to know that a claimed name is new (`firstFree_not_mem`):

* `Shape.labels` — the labels in a shape, once for each part that has one;
* `Claims` — the names used after a step are those used before and the ones it claimed, and all are
  different if those before were. Steps in a row claim their names in a row (`Claims.trans`);
* `claims_name` — naming a shape claims the labels of its parts, less a label that was given;
* `compile_labels_distinct` — the statement for every document that compiles.
-/

namespace Dialogue.Schema

/-! ## The labels of a shape -/

section

variable {ρ ν : Type}

/-- The label that a shape carries itself. -/
def Shape.label? : Shape ρ ν → Option ν
  | .object label _ => some label
  | .enumeration label _ => some label
  | .union label _ => some label
  | _ => none

mutual

/-- The labels in a shape, one for each object, enumeration and union in it at any depth; a label
that stands twice is listed twice. -/
def Shape.labels : Shape ρ ν → List ν
  | .scalar _ => []
  | .literal _ => []
  | .array element _ _ => Shape.labels element
  | .object label properties => label :: propertyLabels properties
  | .enumeration label _ => [label]
  | .union label variants => label :: variantLabels variants
  | .reference _ => []

/-- The labels in an object's properties. -/
def propertyLabels : List (Property (Shape ρ ν)) → List ν
  | [] => []
  | ⟨_, shape, _, _⟩ :: rest => Shape.labels shape ++ propertyLabels rest

/-- The labels in a union's variants. -/
def variantLabels : List (Shape ρ ν) → List ν
  | [] => []
  | shape :: rest => Shape.labels shape ++ variantLabels rest

end

/-- The labels in a shape below the shape itself. -/
def Shape.innerLabels : Shape ρ ν → List ν
  | .array element _ _ => element.labels
  | .object _ properties => propertyLabels properties
  | .union _ variants => variantLabels variants
  | _ => []

theorem Shape.labels_eq (shape : Shape ρ ν) :
    shape.labels = shape.label?.toList ++ shape.innerLabels := by
  cases shape <;> simp [labels, label?, innerLabels]

theorem mem_propertyLabels {label : ν} {properties : List (Property (Shape ρ ν))}
    {p : Property (Shape ρ ν)} (hp : p ∈ properties) (h : label ∈ p.shape.labels) :
    label ∈ propertyLabels properties := by
  induction properties with
  | nil => simp at hp
  | cons q rest ih =>
    rw [propertyLabels, List.mem_append]
    rcases List.mem_cons.1 hp with rfl | hp
    · exact .inl h
    · exact .inr (ih hp)

theorem mem_variantLabels {label : ν} {variants : List (Shape ρ ν)} {v : Shape ρ ν}
    (hv : v ∈ variants) (h : label ∈ v.labels) : label ∈ variantLabels variants := by
  induction variants with
  | nil => simp at hv
  | cons w rest ih =>
    rw [variantLabels, List.mem_append]
    rcases List.mem_cons.1 hv with rfl | hv
    · exact .inl h
    · exact .inr (ih hv)

mutual

/-- Each label in a shape is that of a part. -/
theorem exists_part_of_mem_labels (shape : Shape ρ ν) {label : ν} (h : label ∈ shape.labels) :
    ∃ part : Shape ρ ν, part.Occurs shape ∧ label ∈ part.label? := by
  match shape with
  | .scalar _ => simp [Shape.labels] at h
  | .literal _ => simp [Shape.labels] at h
  | .array element _ _ =>
    rw [Shape.labels] at h
    rcases exists_part_of_mem_labels element h with ⟨part, hpart, hlabel⟩
    exact ⟨part, .element hpart, hlabel⟩
  | .object own properties =>
    rw [Shape.labels, List.mem_cons] at h
    rcases h with rfl | h
    · exact ⟨_, .here, rfl⟩
    · rcases exists_part_of_mem_propertyLabels properties h with ⟨p, hp, part, hpart, hlabel⟩
      exact ⟨part, .property hp hpart, hlabel⟩
  | .enumeration own _ =>
    obtain rfl : label = own := by simpa [Shape.labels] using h
    exact ⟨_, .here, rfl⟩
  | .union own variants =>
    rw [Shape.labels, List.mem_cons] at h
    rcases h with rfl | h
    · exact ⟨_, .here, rfl⟩
    · rcases exists_part_of_mem_variantLabels variants h with ⟨v, hv, part, hpart, hlabel⟩
      exact ⟨part, .variant hv hpart, hlabel⟩
  | .reference _ => simp [Shape.labels] at h

theorem exists_part_of_mem_propertyLabels (properties : List (Property (Shape ρ ν))) {label : ν}
    (h : label ∈ propertyLabels properties) :
    ∃ p ∈ properties, ∃ part : Shape ρ ν, part.Occurs p.shape ∧ label ∈ part.label? := by
  match properties with
  | [] => simp [propertyLabels] at h
  | ⟨_, shape, _, _⟩ :: rest =>
    rw [propertyLabels, List.mem_append] at h
    rcases h with h | h
    · exact ⟨_, List.mem_cons_self, exists_part_of_mem_labels shape h⟩
    · rcases exists_part_of_mem_propertyLabels rest h with ⟨p, hp, hpart⟩
      exact ⟨p, List.mem_cons_of_mem _ hp, hpart⟩

theorem exists_part_of_mem_variantLabels (variants : List (Shape ρ ν)) {label : ν}
    (h : label ∈ variantLabels variants) :
    ∃ v ∈ variants, ∃ part : Shape ρ ν, part.Occurs v ∧ label ∈ part.label? := by
  match variants with
  | [] => simp [variantLabels] at h
  | shape :: rest =>
    rw [variantLabels, List.mem_append] at h
    rcases h with h | h
    · exact ⟨_, List.mem_cons_self, exists_part_of_mem_labels shape h⟩
    · rcases exists_part_of_mem_variantLabels rest h with ⟨v, hv, hpart⟩
      exact ⟨v, List.mem_cons_of_mem _ hv, hpart⟩

end

/-- The labels in a shape are those of its parts, at any depth. -/
theorem Shape.mem_labels_iff {shape : Shape ρ ν} {label : ν} :
    label ∈ shape.labels ↔ ∃ part : Shape ρ ν, part.Occurs shape ∧ label ∈ part.label? := by
  constructor
  · exact exists_part_of_mem_labels shape
  · rintro ⟨part, hpart, hlabel⟩
    induction hpart with
    | here =>
      rw [labels_eq]
      exact List.mem_append_left _ (Option.mem_toList.2 hlabel)
    | element _ ih =>
      rw [labels]
      exact ih
    | property hp _ ih =>
      rw [labels]
      exact List.mem_cons_of_mem _ (mem_propertyLabels hp ih)
    | variant hv _ ih =>
      rw [labels]
      exact List.mem_cons_of_mem _ (mem_variantLabels hv ih)

end

/-! ## Claiming -/

/-- What a step that claims the given names, in this order, does to the names in use. -/
structure Claims (before : Names) (claimed : List String) (after : Names) : Prop where
  used : after.used = claimed.reverse ++ before.used
  nodup : before.used.Nodup → after.used.Nodup

theorem Claims.refl (names : Names) : Claims names [] names where
  used := by simp
  nodup := id

theorem Claims.trans {a b c : Names} {first second : List String} (h : Claims a first b)
    (h' : Claims b second c) : Claims a (first ++ second) c where
  used := by rw [h'.used, h.used, List.reverse_append, List.append_assoc]
  nodup := fun ha => h'.nodup (h.nodup ha)

theorem claims_claim (title hint : Option String) (kind : String) (names : Names) :
    Claims names [(claim title hint kind names).1] (claim title hint kind names).2 where
  used := by simp [claim_eq]
  nodup := by
    intro h
    simp only [claim_eq]
    exact List.nodup_cons.2 ⟨firstFree_not_mem _ _, h⟩

/-- A label is claimed unless it was given. -/
theorem claims_label (given title hint : Option String) (kind : String) (names : Names) :
    Claims names (if given.isNone then [(label given title hint kind names).1] else [])
      (label given title hint kind names).2 := by
  cases given with
  | none => exact claims_claim title hint kind names
  | some own => exact .refl names

/-- The names that naming a shape claims: its labels, less its own if that was given. -/
def Shape.claimed (given : Option String) (node : Node) : List String :=
  (if given.isNone then node.label?.toList else []) ++ node.innerLabels

theorem Shape.claimed_none (node : Node) : node.claimed none = node.labels :=
  node.labels_eq.symm

mutual

/-- Naming a shape claims a new name for each part that was given none. -/
theorem claims_name (given hint : Option String) (names : Names)
    (shape : Shape String (Option String)) :
    Claims names ((name given hint names shape).1.claimed given)
      (name given hint names shape).2 := by
  match shape with
  | .scalar kind => cases given <;> exact .refl names
  | .literal value => cases given <;> exact .refl names
  | .array element least most =>
    have helement := claims_name none ((given.or hint).map (· ++ ".items")) names element
    rw [Shape.claimed_none] at helement
    rw [name]
    -- an array carries no label, so one that is given goes to no part
    cases given <;> exact helement
  | .object title properties =>
    rw [name]
    exact (claims_label given title hint "Object" names).trans
      (claims_nameProperties _ _ properties)
  | .enumeration title values =>
    rw [name]
    exact (claims_label given title hint "Enum" names).trans (.refl _)
  | .union title variants =>
    rw [name]
    exact (claims_label given title hint "Union" names).trans
      (claims_nameVariants _ 0 _ variants)
  | .reference target => cases given <;> exact .refl names

theorem claims_nameProperties (owner : String) (names : Names)
    (properties : List (Property (Shape String (Option String)))) :
    Claims names (propertyLabels (nameProperties owner names properties).1)
      (nameProperties owner names properties).2 := by
  match properties with
  | [] => exact .refl names
  | ⟨key, shape, description, optional⟩ :: rest =>
    have hshape := claims_name none (some (owner ++ "." ++ key)) names shape
    rw [Shape.claimed_none] at hshape
    rw [nameProperties, propertyLabels]
    exact hshape.trans (claims_nameProperties owner _ rest)

theorem claims_nameVariants (owner : String) (position : Nat) (names : Names)
    (variants : List (Shape String (Option String))) :
    Claims names (variantLabels (nameVariants owner position names variants).1)
      (nameVariants owner position names variants).2 := by
  match variants with
  | [] => exact .refl names
  | shape :: rest =>
    have hshape := claims_name none (some (owner ++ "." ++ toString position)) names shape
    rw [Shape.claimed_none] at hshape
    rw [nameVariants, variantLabels]
    exact hshape.trans (claims_nameVariants owner _ _ rest)

end

/-- A label that was given is the one that a shape carries. -/
theorem label?_name (own : String) (hint : Option String) (names : Names)
    (shape : Shape String (Option String)) :
    ∀ label ∈ (name (some own) hint names shape).1.label?, label = own := by
  intro label h
  cases shape <;> simp [name, Shape.label?, Schema.label] at h
  all_goals exact h.symm

/-! ## Definitions -/

/-- The labels in a definition that were generated: all but the node's own if the definition has a
name to give it. -/
def generatedIn (d : String × Node) : List String :=
  if d.1 = "" then d.2.labels else d.2.innerLabels

/-- The label that a definition gave its node. -/
def givenIn (d : String × Node) : List String :=
  if d.1 = "" then [] else d.2.label?.toList

theorem givenIn_append_generatedIn (d : String × Node) :
    givenIn d ++ generatedIn d = d.2.labels := by
  unfold givenIn generatedIn
  split
  · rfl
  · exact d.2.labels_eq.symm

theorem claims_nameDefinitions (names : Names)
    (shapes : List (String × Shape String (Option String))) :
    Claims names ((nameDefinitions names shapes).1.flatMap generatedIn)
      (nameDefinitions names shapes).2 := by
  induction shapes generalizing names with
  | nil => exact .refl names
  | cons entry rest ih =>
    rcases entry with ⟨key, shape⟩
    have hshape := claims_name (if key = "" then none else some key) none names shape
    have hclaimed : ∀ node : Node,
        node.claimed (if key = "" then none else some key) = generatedIn (key, node) := by
      intro node
      by_cases hkey : key = ""
      · simp [generatedIn, hkey, Shape.claimed_none]
      · simp [generatedIn, hkey, Shape.claimed]
    rw [hclaimed] at hshape
    rw [nameDefinitions, List.flatMap_cons]
    exact hshape.trans (ih _)

/-- A definition with a name gives it to its node. -/
theorem label?_nameDefinitions (names : Names)
    (shapes : List (String × Shape String (Option String))) :
    ∀ d ∈ (nameDefinitions names shapes).1, d.1 ≠ "" → ∀ label ∈ d.2.label?, label = d.1 := by
  induction shapes generalizing names with
  | nil =>
    intro d hd
    simp [nameDefinitions] at hd
  | cons entry rest ih =>
    rcases entry with ⟨key, shape⟩
    rw [nameDefinitions]
    intro d hd hkey
    rcases List.mem_cons.1 hd with rfl | hd
    · simp only [if_neg hkey]
      exact label?_name key none names shape
    · exact ih _ d hd hkey

/-! ## Compiled schemas -/

/-- The labels in a schema: those in its root and those in its dependencies. -/
def Compiled.labels (c : Compiled) : List String :=
  c.root.labels ++ c.dependencies.flatMap (·.2.labels)

/-- The labels in a schema are those of its parts, at any depth. -/
theorem Compiled.mem_labels_iff {c : Compiled} {label : String} :
    label ∈ c.labels ↔ ∃ part, c.Contains part ∧ label ∈ part.label? := by
  simp only [labels, Contains, List.mem_append, List.mem_flatMap, Shape.mem_labels_iff]
  constructor
  · rintro (⟨part, hpart, hlabel⟩ | ⟨d, hd, part, hpart, hlabel⟩)
    · exact ⟨part, .inl hpart, hlabel⟩
    · exact ⟨part, .inr ⟨d, hd, hpart⟩, hlabel⟩
  · rintro ⟨part, hpart | ⟨d, hd, hpart⟩, hlabel⟩
    · exact .inl ⟨part, hpart, hlabel⟩
    · exact .inr ⟨d, hd, part, hpart, hlabel⟩

/-- The labels that were generated, in the order of their generation. -/
def Compiled.generated (c : Compiled) : List String :=
  c.dependencies.flatMap generatedIn ++ c.root.labels

/-- The labels in a schema are those that definitions gave and those that were generated. -/
theorem Compiled.labels_perm (c : Compiled) :
    c.labels.Perm (c.dependencies.flatMap givenIn ++ c.generated) := by
  have hsplit : (c.dependencies.flatMap (·.2.labels)).Perm
      (c.dependencies.flatMap givenIn ++ c.dependencies.flatMap generatedIn) := by
    have h := (List.flatMap_append_perm c.dependencies givenIn generatedIn).symm
    simpa only [givenIn_append_generatedIn] using h
  unfold labels generated
  rw [← List.append_assoc]
  exact List.perm_append_comm.trans (hsplit.append_right _)

/-- The labels that definitions gave are names of definitions, each at most once. -/
theorem flatMap_givenIn_sublist {dependencies : List (String × Node)}
    (h : ∀ d ∈ dependencies, d.1 ≠ "" → ∀ label ∈ d.2.label?, label = d.1) :
    (dependencies.flatMap givenIn).Sublist (dependencies.map (·.1)) := by
  induction dependencies with
  | nil => exact .slnil
  | cons d rest ih =>
    have hrest := ih fun d' hd' => h d' (List.mem_cons_of_mem _ hd')
    have hown : (givenIn d).Sublist [d.1] := by
      unfold givenIn
      split
      · exact List.nil_sublist _
      · rename_i hkey
        cases hlabel : d.2.label? with
        | none => exact List.nil_sublist _
        | some label =>
          obtain rfl := h d List.mem_cons_self hkey label hlabel
          exact List.Sublist.refl _
    exact hown.append hrest

/-- The definitions of a document have different names when neither block lists a name twice. -/
theorem nodup_definitions {document : Json.Members}
    (hfirst : (namesAt "definitions" (.obj document)).Nodup)
    (hsecond : (namesAt "$defs" (.obj document)).Nodup) :
    ((definitions document).map (·.1)).Nodup := by
  rw [names_definitions, List.nodup_append]
  refine ⟨hfirst, hsecond.filter _, ?_⟩
  rintro name hname other hother rfl
  simpa [hname] using (List.mem_filter.1 hother).2

/-- For every document that compiles, and whose blocks of definitions list no name twice: the labels
in the root and in all dependencies are pairwise different; no label that was generated is the name
of a definition; and the only labels that were not generated are those that definitions with a name
gave their nodes. -/
theorem compile_labels_distinct {document : Json} {c : Compiled}
    (h : compile document = .ok c) (hfirst : (namesAt "definitions" document).Nodup)
    (hsecond : (namesAt "$defs" document).Nodup) :
    c.labels.Nodup ∧ (∀ label ∈ c.generated, label ∉ c.names) ∧
      ∀ d ∈ c.dependencies, d.1 ≠ "" → ∀ label ∈ d.2.label?, label = d.1 := by
  rcases compile_eq_ok.1 h with ⟨document, rfl, hmembers⟩
  have hnames : c.names.Nodup := by
    rw [(compile_wellFormed hmembers).1]
    exact nodup_definitions hfirst hsecond
  rcases compileMembers_eq_ok.1 hmembers with ⟨shapes, hshapes, root, hroot, hc⟩
  -- the names in use at the start are those of the definitions
  have hclaims : ∃ after, Claims ⟨c.names, 0⟩ c.generated after := by
    rw [(compile_wellFormed hmembers).1, hc]
    have hroot := claims_name none (some "Root")
      (nameDefinitions ⟨(definitions document).map (·.1), 0⟩ shapes).2 root
    rw [Shape.claimed_none] at hroot
    exact ⟨_, (claims_nameDefinitions _ shapes).trans hroot⟩
  rcases hclaims with ⟨after, hclaims⟩
  have hafter := hclaims.nodup hnames
  rw [hclaims.used, List.nodup_append] at hafter
  rcases hafter with ⟨hgenerated, -, hapart⟩
  have hgiven : ∀ d ∈ c.dependencies, d.1 ≠ "" → ∀ label ∈ d.2.label?, label = d.1 := by
    rw [hc]
    exact label?_nameDefinitions _ shapes
  have hnew : ∀ label ∈ c.generated, label ∉ c.names := by
    intro label hlabel hname
    exact hapart label (List.mem_reverse.2 hlabel) label hname rfl
  refine ⟨?_, hnew, hgiven⟩
  have hsublist : (c.dependencies.flatMap givenIn).Sublist c.names :=
    flatMap_givenIn_sublist hgiven
  rw [c.labels_perm.nodup_iff, List.nodup_append]
  refine ⟨hsublist.nodup hnames, List.nodup_reverse.1 hgenerated, ?_⟩
  rintro label hlabel other hother rfl
  exact hnew label hother (hsublist.subset hlabel)

/-- A document whose titles are taken: one by a definition, one by the name made up for that. -/
def takenTitles : Json.Members :=
  [("type", .str "object"),
    ("properties", .obj [("a", .obj [("enum", .arr [.str "x"]), ("title", .str "Item")]),
      ("b", .obj [("enum", .arr [.str "y"]), ("title", .str "Item_2")])]),
    ("definitions", .obj [("Item", .obj [("enum", .arr [.str "z"])])])]

theorem compiles_takenTitles :
    ∃ c, compile (.obj takenTitles) = .ok c ∧
      c.labels = ["Root", "Item_2", "Item_2_2", "Item"] := by
  have hvalue : ∀ value title, Draft.ofJson (.obj [("enum", .arr [.str value]),
      ("title", .str title)]) = .enumeration (title? [("title", .str title)]) [value] := by
    intro value title
    rw [Draft.ofJson_eq]
    rfl
  have hitem : Draft.ofJson (.obj [("enum", .arr [.str "z"])]) = .enumeration none ["z"] := by
    rw [Draft.ofJson_eq]
    rfl
  have hroot : Draft.ofJson (.obj takenTitles) = .object none
      [⟨"a", .enumeration (some "Item") ["x"], none, true⟩,
        ⟨"b", .enumeration (some "Item_2") ["y"], none, true⟩] := by
    rw [Draft.ofJson_eq]
    show Shape.object none [⟨"a", Draft.ofJson _, none, true⟩,
      ⟨"b", Draft.ofJson _, none, true⟩] = _
    rw [hvalue, hvalue]
    rfl
  refine ⟨_, compile_eq_ok.2 ⟨_, rfl, compileMembers_eq_ok.2
    ⟨[("Item", .enumeration none ["z"])], ?_, .object none
      [⟨"a", .enumeration (some "Item") ["x"], none, true⟩,
        ⟨"b", .enumeration (some "Item_2") ["y"], none, true⟩], ?_, rfl⟩⟩, ?_⟩
  · show resolveDefinitions ["Item"] [("Item", .obj [("enum", .arr [.str "z"])])] = _
    simp only [resolveDefinitions, hitem]
    rfl
  · rw [hroot]
    rfl
  · rfl

theorem compile_labels_distinct_takenTitles :
    ∃ c, compile (.obj takenTitles) = .ok c ∧
      c.labels = ["Root", "Item_2", "Item_2_2", "Item"] ∧
      (namesAt "definitions" (.obj takenTitles)).Nodup ∧
      (namesAt "$defs" (.obj takenTitles)).Nodup ∧ c.labels.Nodup ∧
      (∀ label ∈ c.generated, label ∉ c.names) ∧
      ∀ d ∈ c.dependencies, d.1 ≠ "" → ∀ label ∈ d.2.label?, label = d.1 := by
  rcases compiles_takenTitles with ⟨c, hc, hlabels⟩
  have hfirst : (namesAt "definitions" (.obj takenTitles)).Nodup := List.nodup_singleton "Item"
  have hsecond : (namesAt "$defs" (.obj takenTitles)).Nodup := List.nodup_nil
  exact ⟨c, hc, hlabels, hfirst, hsecond, compile_labels_distinct hc hfirst hsecond⟩

end Dialogue.Schema
