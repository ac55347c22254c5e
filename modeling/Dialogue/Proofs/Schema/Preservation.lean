import Dialogue.Proofs.Schema.Agreement

/-!
# Dialogue.Proofs.Schema.Preservation — compiling keeps the meaning of a supported document

The definitions of a document are compiled apart from each other and found again by name in the
compiled schema. So names mean the same in both, to every depth to which they are followed, and the
root and the definitions agree with what was written (`compile_preserves_meaning`).

A name that no reference can give, the empty one or one with a slash, may still be defined and
referred to: such a document does not compile (`compile_error_of_not_referable`).
-/

namespace Dialogue.Schema

/-! ## Definitions -/

theorem resolveDefinitions_entries {defined : List String} {entries : Json.Members}
    (h : ∀ entry ∈ entries, ResolvesTo defined (Draft.ofJson entry.2) entry.2) :
    ∃ shapes, resolveDefinitions defined entries = .ok shapes ∧
      ∀ refers name value,
        (∃ shape, shapes.lookup name = some shape ∧ shape.Admits refers value) ↔
          ∃ fragment, entries.lookup name = some fragment ∧
            Admits .strict refers fragment value := by
  induction entries with
  | nil => exact ⟨[], rfl, by simp⟩
  | cons entry rest ih =>
    obtain ⟨key, fragment⟩ := entry
    obtain ⟨shape, hshape, hagrees⟩ := h (key, fragment) List.mem_cons_self
    obtain ⟨shapes, hshapes, hadmits⟩ := ih fun e he => h e (List.mem_cons_of_mem _ he)
    refine ⟨(key, shape) :: shapes, ?_, ?_⟩
    · rw [resolveDefinitions, hshape, hshapes]
      rfl
    · intro refers name value
      by_cases hname : key = name
      · subst hname
        simp [hagrees refers value]
      · rw [lookup_cons_of_ne hname, lookup_cons_of_ne hname]
        exact hadmits refers name value

/-- The definitions are rendered alike before and after their parts are named. -/
theorem render_nameDefinitions (names : Names)
    (shapes : List (String × Shape String (Option String))) :
    (nameDefinitions names shapes).1.map (fun d => (d.1, render d.2)) =
      shapes.map fun d => (d.1, render d.2) := by
  induction shapes generalizing names with
  | nil => rfl
  | cons entry rest ih =>
    obtain ⟨key, shape⟩ := entry
    simp [nameDefinitions, render_name, ih]

theorem lookup_map_snd {α β : Type} (f : α → β) (entries : List (String × α)) (name : String) :
    (entries.map fun e => (e.1, f e.2)).lookup name = (entries.lookup name).map f := by
  induction entries with
  | nil => rfl
  | cons entry rest ih =>
    obtain ⟨key, value⟩ := entry
    simp only [List.map_cons, List.lookup_cons, ih]
    cases name == key <;> rfl

/-- Leaving out entries with other names does not hide an entry. -/
theorem lookup_filter_of_kept {α : Type} (keep : String → Bool) {name : String}
    (h : keep name = true) (entries : List (String × α)) :
    (entries.filter fun e => keep e.1).lookup name = entries.lookup name := by
  induction entries with
  | nil => rfl
  | cons entry rest ih =>
    obtain ⟨key, value⟩ := entry
    -- an entry with the name is kept; one with another name is passed over, kept or not
    by_cases hname : key = name
    · subst hname
      simp [h]
    · rw [List.filter_cons, lookup_cons_of_ne hname]
      split
      · rw [lookup_cons_of_ne hname, ih]
      · exact ih

theorem lookup_block (key name : String) (document : Json.Members) :
    ((document.lookup key).bind (Json.get? name)) = (block key document).lookup name := by
  unfold block
  split
  · rename_i entries h
    rw [h]
    rfl
  · rename_i hne
    cases h : document.lookup key with
    | none => rfl
    | some value =>
      cases value with
      | obj entries => exact absurd h (hne entries)
      | _ => rfl

/-- The definitions that compiling goes by are those of the document. -/
theorem definition?_eq_lookup (document : Json.Members) (name : String) :
    definition? (.obj document) name = (definitions document).lookup name := by
  unfold definition? definitions
  simp only [Json.get?, lookup_block]
  rw [List.lookup_append]
  cases h : (block "definitions" document).lookup name with
  | some fragment => rfl
  | none =>
    have hkeep : ((block "definitions" document).lookup name).isNone = true := by rw [h]; rfl
    simp only [Option.none_or]
    exact (lookup_filter_of_kept
      (fun n => ((block "definitions" document).lookup n).isNone) hkeep _).symm

/-! ## Documents -/

section

variable {document : Json.Members}

theorem SupportedDocument.supported_definition {allowed : String → Prop}
    (h : SupportedDocument allowed document) {entry : String × Json}
    (hentry : entry ∈ Schema.definitions document) :
    Supported (fun name => DefinedOnce (.obj document) name ∧ allowed name) annotations
      entry.2 := by
  refine h.definitions entry ?_
  unfold Schema.definitions at hentry
  rcases List.mem_append.1 hentry with hentry | hentry
  · exact List.mem_append_left _ hentry
  · exact List.mem_append_right _ (List.mem_filter.1 hentry).1

/-- A name that is defined once is defined. -/
theorem mem_definitions_of_definedOnce {name : String} (h : DefinedOnce (.obj document) name) :
    name ∈ (definitions document).map (·.1) := by
  have hdefinition : (definition? (.obj document) name).isSome := by
    have hor : ∀ a b : Bool, a ≠ b → (a || b) = true := by decide
    unfold definition?
    rw [Option.isSome_or]
    exact hor _ _ h
  rw [definition?_eq_lookup] at hdefinition
  obtain ⟨fragment, hfragment⟩ := Option.isSome_iff_exists.1 hdefinition
  obtain ⟨before, after, heq, -⟩ := List.lookup_eq_some_iff.1 hfragment
  rw [heq]
  simp

/-- A compiled schema is the rendered root with the rendered definitions behind it. -/
theorem Compiled.toJson_eq (c : Compiled) :
    ∃ members, render c.root = .obj members ∧
      c.toJson = .obj (members ++ renderDefinitions c.dependencies) ∧
      ∀ entry ∈ members, entry.1 ∈ renderedKeys := by
  obtain ⟨members, hrender, hkeys⟩ := render_eq_obj c.root
  refine ⟨members, hrender, ?_, hkeys⟩
  unfold toJson
  rw [hrender]

/-- The definitions of a compiled schema are its rendered dependencies. -/
theorem Compiled.definition?_toJson (c : Compiled) (name : String) :
    definition? c.toJson name = (c.dependencies.lookup name).map render := by
  obtain ⟨members, -, hjson, hkeys⟩ := c.toJson_eq
  have hnone : ∀ key ∉ renderedKeys, members.lookup key = none := fun key hkey =>
    lookup_eq_none fun entry hentry heq => hkey (heq ▸ hkeys entry hentry)
  have hdefinitions : c.toJson.get? "definitions" = none := by
    rw [hjson, Json.get?, List.lookup_append, hnone "definitions" (by simp [renderedKeys])]
    unfold renderDefinitions
    split <;> rfl
  have hdefs : c.toJson.get? "$defs" = (renderDefinitions c.dependencies).lookup "$defs" := by
    rw [hjson, Json.get?, List.lookup_append, hnone "$defs" (by simp [renderedKeys]),
      Option.none_or]
  -- the definitions are under the second of the two blocks only
  unfold definition?
  rw [hdefinitions, hdefs, Option.bind_none, Option.none_or, ← lookup_map_snd]
  unfold renderDefinitions
  cases c.dependencies with
  | nil => rfl
  | cons dependency rest => rfl

/-- What is behind the root of a compiled schema does not change what the root admits. -/
theorem Compiled.admits_toJson (c : Compiled) (refers : String → Json → Prop) (value : Json) :
    Admits .plain refers c.toJson value ↔ Admits .plain refers (render c.root) value := by
  obtain ⟨members, hrender, hjson, -⟩ := c.toJson_eq
  rw [hrender, hjson]
  refine admits_append ?_ .plain refers value
  intro entry hentry
  unfold renderDefinitions at hentry
  split at hentry
  · simp at hentry
  · obtain rfl : entry = ("$defs", _) := List.mem_singleton.1 hentry
    simp [keywords]

/-- A supported document compiles, and the compiled schema, as it stands, admits just what the
document admits when its objects are closed and null branches left out. -/
theorem compile_preserves_meaning (h : SupportedDocument Referable document) :
    ∃ c, compile (.obj document) = .ok c ∧
      ∀ value, Valid .plain c.toJson value ↔ Valid .strict (.obj document) value := by
  have hknown : ∀ name, DefinedOnce (.obj document) name ∧ Referable name →
      name ∈ (definitions document).map (·.1) ∧ Referable name :=
    fun name hname => ⟨mem_definitions_of_definedOnce hname.1, hname.2⟩
  obtain ⟨shapes, hshapes, hadmits⟩ := resolveDefinitions_entries
    fun entry (hentry : entry ∈ definitions document) =>
      draft_agrees (h.supported_definition hentry) annotations_not_keywords hknown
  obtain ⟨shape, hshape, hagrees⟩ := draft_agrees h.root documentNotes_not_keywords hknown
  let defined := (definitions document).map (·.1)
  let named := nameDefinitions ⟨defined, 0⟩ shapes
  let c : Compiled := ⟨(name none (some "Root") named.2 shape).1, named.1⟩
  have hcompile : compile (.obj document) = .ok c := by
    simp only [compile, compileMembers, hshapes, hshape]
    rfl
  have hlookup : ∀ key, definition? c.toJson key = (shapes.lookup key).map render := by
    intro key
    rw [Compiled.definition?_toJson, ← lookup_map_snd, ← lookup_map_snd, render_nameDefinitions]
  -- at every depth, names mean the same before and after compiling
  have hmeaning : ∀ depth, meaning .plain c.toJson depth =
      meaning .strict (.obj document) depth := by
    intro depth
    induction depth with
    | zero => rfl
    | succ depth ih =>
      -- the definition of a name is rendered from the shape that agrees with what was written
      funext key value
      refine propext ?_
      rw [meaning, meaning, ih, hlookup, definition?_eq_lookup, ← hadmits]
      cases shapes.lookup key with
      | none => simp
      | some shape => simp [admits_render]
  refine ⟨c, hcompile, ?_⟩
  intro value
  unfold Valid
  refine exists_congr ?_
  intro depth
  rw [hmeaning, Compiled.admits_toJson, render_name, admits_render, hagrees]

end

/-- A text with a link to the next one, or with none. -/
def link : Json.Members :=
  [("type", .str "object"),
    ("properties", .obj [("text", .obj [("type", .str "string")]),
      ("next", .obj [("anyOf", .arr [.obj [("$ref", .str "#/definitions/Link")], nullBranch])])]),
    ("required", .arr [.str "text"])]

/-- The document of linked texts, whose definition refers to itself. -/
def linkedTexts : Json.Members :=
  [("$ref", .str "#/definitions/Link"), ("definitions", .obj [("Link", .obj link)])]

theorem supported_linkedTexts : SupportedDocument Referable linkedTexts := by
  have hlink : DefinedOnce (.obj linkedTexts) "Link" ∧ Referable "Link" := by
    simp [DefinedOnce, linkedTexts, Json.get?, List.lookup_cons, Referable]
  have htarget : Targets (.str "#/definitions/Link") "Link" := Or.inl rfl
  have hnext : Supported (fun name => DefinedOnce (.obj linkedTexts) name ∧ Referable name)
      annotations (.obj [("$ref", .str "#/definitions/Link")]) :=
    .reference rfl htarget hlink (by simp [Keys])
  constructor
  · exact .reference rfl htarget hlink (by simp [Keys, linkedTexts, documentNotes])
  · intro entry hentry
    obtain rfl : entry = ("Link", .obj link) := by
      simpa [block, linkedTexts, List.lookup_cons] using hentry
    have hrequired : link.lookup "required" = some (.arr (["text"].map .str)) := rfl
    refine .object rfl (.inl rfl) ?_ (.inl hrequired) ?_ ?_
    · intro property hproperty
      simp only [List.mem_cons, List.not_mem_nil, or_false] at hproperty
      rcases hproperty with rfl | rfl
      · exact .scalar .string rfl (by simp [Keys])
      · refine .anyOf rfl ⟨_, List.mem_cons_self, by simp [nullBranch]⟩ ?_ (by simp [Keys])
        intro branch hbranch hne
        simp only [List.mem_cons, List.not_mem_nil, or_false] at hbranch
        rcases hbranch with rfl | rfl
        · exact hnext
        · contradiction
    · simp
    · simp [Keys, link]

theorem compile_preserves_meaning_linkedTexts :
    SupportedDocument Referable linkedTexts ∧
      ∃ c, compile (.obj linkedTexts) = .ok c ∧
        ∀ value, Valid .plain c.toJson value ↔ Valid .strict (.obj linkedTexts) value :=
  ⟨supported_linkedTexts, compile_preserves_meaning supported_linkedTexts⟩

/-! ## Names that no reference gives -/

theorem referenceName_of_not_referable (defined : List String) {target : Json} {name : String}
    (h : Targets target name) (hname : ¬ Referable name) :
    ∃ cause, referenceName defined target = .error cause := by
  have hguard : name = "" ∨ '/' ∈ name.toList := by
    by_cases hempty : name = ""
    · exact Or.inl hempty
    · exact Or.inr (Decidable.not_not.1 fun hslash => hname ⟨hempty, hslash⟩)
  rcases h with rfl | rfl
  · simp [referenceName, afterHead?_definitions, hguard]
  · simp [referenceName, afterHead?_defs, hguard]

/-- A document that refers to a name that is empty or has a slash does not compile, whether the name
is defined or not. -/
theorem compile_error_of_not_referable {document : Json.Members} {target : Json} {name : String}
    (href : document.lookup "$ref" = some target) (htarget : Targets target name)
    (hname : ¬ Referable name) : ∃ defect, compile (.obj document) = .error defect := by
  obtain ⟨cause, hcause⟩ :=
    referenceName_of_not_referable ((definitions document).map (·.1)) htarget hname
  have hroot : Draft.ofJson (.obj document) = .reference target := by
    rw [Draft.ofJson_eq, Fragment.ofJson, ofMembers_reference href, Fragment.draft]
  simp only [compile, compileMembers, hroot, Shape.resolve, hcause]
  cases resolveDefinitions ((definitions document).map (·.1)) (definitions document) with
  | error earlier => exact ⟨_, rfl⟩
  | ok shapes => exact ⟨_, rfl⟩

/-- A document whose only definition has the empty name. -/
def emptyNamed : Json.Members :=
  [("$ref", .str "#/$defs/"), ("$defs", .obj [("", .obj [("type", .str "string")])])]

/-- A document may define the empty name and refer to it, and then it does not compile. -/
theorem compile_emptyNamed :
    SupportedDocument (fun _ => True) emptyNamed ∧
      ¬ ∃ c, compile (.obj emptyNamed) = .ok c := by
  have htarget : Targets (.str "#/$defs/") "" := by simp [Targets]
  constructor
  · constructor
    · refine .reference rfl htarget ⟨?_, trivial⟩ ?_
      · simp [DefinedOnce, emptyNamed, Json.get?, List.lookup_cons]
      · simp [Keys, emptyNamed, documentNotes]
    · intro entry hentry
      obtain rfl : entry = ("", .obj [("type", .str "string")]) := by
        simpa [block, emptyNamed, List.lookup_cons] using hentry
      exact .scalar .string rfl (by simp [Keys])
  · rintro ⟨c, hc⟩
    have href : emptyNamed.lookup "$ref" = some (.str "#/$defs/") := rfl
    obtain ⟨defect, hdefect⟩ :=
      compile_error_of_not_referable href htarget (by simp [Referable])
    rw [hc] at hdefect
    contradiction

end Dialogue.Schema
