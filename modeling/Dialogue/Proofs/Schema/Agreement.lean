import Dialogue.Proofs.Schema.Rendering
import Dialogue.Proofs.Schema.Supported

/-!
# Dialogue.Proofs.Schema.Agreement — a draft means what its fragment means

Compiling reads a fragment as a draft and replaces the references in it by names. A supported
fragment comes through both with its strict meaning: `draft_agrees` follows the fragment, constructor
by constructor. It needs nothing of what references mean, so definitions may refer to each other in
any way.
-/

namespace Dialogue.Schema

/-- A shape admits what a fragment admits when it is read strictly, whatever references mean. -/
def Agrees (fragment : Json) (shape : Shape String (Option String)) : Prop :=
  ∀ refers value, shape.Admits refers value ↔ Admits .strict refers fragment value

/-- A draft has all its references resolved to a shape that agrees with a fragment. -/
def ResolvesTo (defined : List String) (draft : Draft) (fragment : Json) : Prop :=
  ∃ shape, draft.resolve defined = .ok shape ∧ Agrees fragment shape

/-! ## References -/

theorem afterHead?_definitions (name : String) : afterHead? ("#/definitions/" ++ name) = some name := by
  have hlength : "#/definitions/".length = 14 := rfl
  simp [afterHead?, referenceHeads, hlength]

theorem afterHead?_defs (name : String) : afterHead? ("#/$defs/" ++ name) = some name := by
  have hlength : "#/$defs/".length = 8 := rfl
  simp [afterHead?, referenceHeads, hlength]

theorem referenceName_of_targets {defined : List String} {target : Json} {name : String}
    (h : Targets target name) (hname : Referable name) (hdefined : name ∈ defined) :
    referenceName defined target = .ok name := by
  obtain ⟨hne, hslash⟩ := hname
  rcases h with rfl | rfl
  · simp [referenceName, afterHead?_definitions, hne, hslash, hdefined]
  · simp [referenceName, afterHead?_defs, hne, hslash, hdefined]

/-! ## Branches -/

theorem isNullBranch_iff (branch : Json) : isNullBranch branch = true ↔ branch = nullBranch := by
  unfold isNullBranch
  split
  · exact iff_of_true rfl rfl
  · rename_i hne
    exact iff_of_false (by simp) hne

/-- A supported fragment that is a choice of one text admits just that text. -/
theorem admits_of_singleValue {known : String → Prop} {notes : List String} {fragment : Json}
    (h : Supported known notes fragment) (hnotes : ∀ note ∈ notes, note ∉ keywords)
    {text : String} (hsingle : singleValue? fragment = some text) (r : Reading)
    (refers : String → Json → Prop) (value : Json) :
    Admits r refers fragment value ↔ value = .str text := by
  cases h with
  | enumeration hvalues htype henum hkeys =>
    rename_i members values
    -- a list of values is a choice of one text only if it has one entry
    have hone : values = [text] := by
      cases values with
      | nil => contradiction
      | cons first rest =>
        cases rest with
        | nil => simpa [singleValue?, henum, valueText] using hsingle
        | cons second more => simp [singleValue?, henum] at hsingle
    rw [admits_values (only_of_keys ["type", "enum"] hkeys hnotes) htype henum, hone]
    simp
  | const htype hconst hkeys =>
    rename_i members only
    have honly := only_of_keys ["type", "const"] hkeys hnotes
    have henum : members.lookup "enum" = none := honly "enum" (by simp [keywords]) (by simp)
    obtain rfl : only = text := by simpa [singleValue?, henum, hconst, valueText] using hsingle
    exact admits_const honly htype hconst
  -- the others list no values and give none
  | scalar kind htype hkeys =>
    have honly := only_of_keys ["type"] hkeys hnotes
    rw [singleValue?_of_only honly (by simp) (by simp)] at hsingle
    contradiction
  | array htype hitems hsupported hleast hmost hkeys =>
    have honly := only_of_keys ["type", "items", "minItems", "maxItems"] hkeys hnotes
    rw [singleValue?_of_only honly (by simp) (by simp)] at hsingle
    contradiction
  | object htype hproperties hsupported hrequired hdeclared hkeys =>
    have honly := only_of_keys ["type", "properties", "required"] hkeys hnotes
    rw [singleValue?_of_only honly (by simp) (by simp)] at hsingle
    contradiction
  | anyOf hany hsome hsupported hkeys =>
    have honly := only_of_keys ["anyOf"] hkeys hnotes
    rw [singleValue?_of_only honly (by simp) (by simp)] at hsingle
    contradiction
  | reference href htarget hknown hkeys =>
    have honly := only_of_keys ["$ref"] hkeys hnotes
    rw [singleValue?_of_only honly (by simp) (by simp)] at hsingle
    contradiction

section

variable {known : String → Prop} {defined : List String}

theorem resolvesTo_branch {branch : Json} (hsupported : Supported known annotations branch)
    (h : ResolvesTo defined (Draft.ofJson branch) branch) :
    ResolvesTo defined (Branch.ofJson branch).draft branch := by
  unfold Branch.ofJson
  split
  · rename_i text hsingle
    refine ⟨.literal text, rfl, ?_⟩
    intro refers value
    rw [Shape.Admits, admits_of_singleValue hsupported annotations_not_keywords hsingle]
  · exact h

/-- The drafts of branches resolve to the variants of a union that admits what one branch does. -/
theorem resolveVariants_branches {branches : List Json}
    (h : ∀ branch ∈ branches, ResolvesTo defined (Branch.ofJson branch).draft branch) :
    ∃ variants, resolveVariants defined ((branches.map Branch.ofJson).map Branch.draft) =
        .ok variants ∧
      ∀ refers value, AdmitsSome refers variants value ↔
        ∃ branch ∈ branches, Admits .strict refers branch value := by
  induction branches with
  | nil => exact ⟨[], rfl, by simp [AdmitsSome]⟩
  | cons branch rest ih =>
    obtain ⟨shape, hshape, hagrees⟩ := h branch List.mem_cons_self
    obtain ⟨variants, hvariants, hsome⟩ := ih fun b hb => h b (List.mem_cons_of_mem branch hb)
    refine ⟨shape :: variants, ?_, ?_⟩
    · rw [List.map_cons, List.map_cons, resolveVariants, hshape, hvariants]
      rfl
    · intro refers value
      rw [AdmitsSome, hagrees, hsome]
      simp

/-- Branches that are all choices of one text admit the texts they give. -/
theorem exists_branch_of_singleValues {branches : List Json} {texts : List String}
    (hsupported : ∀ branch ∈ branches, Supported known annotations branch)
    (htexts : branches.mapM singleValue? = some texts) (refers : String → Json → Prop)
    (value : Json) :
    (∃ text ∈ texts, value = .str text) ↔
      ∃ branch ∈ branches, Admits .strict refers branch value := by
  induction branches generalizing texts with
  | nil =>
    obtain rfl : texts = [] := by simpa using htexts.symm
    simp
  | cons branch rest ih =>
    obtain ⟨text, hsingle, more, hmore, rfl⟩ : ∃ text, singleValue? branch = some text ∧
        ∃ more, rest.mapM singleValue? = some more ∧ text :: more = texts := by
      simpa [List.mapM_cons, Option.bind_eq_some_iff] using htexts
    have hhead := admits_of_singleValue (hsupported branch List.mem_cons_self)
      annotations_not_keywords hsingle .strict refers value
    have htail := ih (fun b hb => hsupported b (List.mem_cons_of_mem branch hb)) hmore
    simp only [List.mem_cons, or_and_right, exists_or, exists_eq_left]
    rw [hhead, htail]

/-- A choice between supported branches, one of them not null, resolves to a shape that admits what
one branch beside null does. -/
theorem resolvesTo_ofBranches {branches : List Json} (title : Option String)
    (hsome : ∃ branch ∈ branches, branch ≠ nullBranch)
    (hsupported : ∀ branch ∈ branches, branch ≠ nullBranch → Supported known annotations branch)
    (h : ∀ branch ∈ branches, branch ≠ nullBranch →
      ResolvesTo defined (Draft.ofJson branch) branch) :
    ∃ shape, (Fragment.ofBranches title branches).draft.resolve defined = .ok shape ∧
      ∀ refers value, shape.Admits refers value ↔
        ∃ branch ∈ branches, branch ≠ nullBranch ∧ Admits .strict refers branch value := by
  have hkept : ∀ branch, branch ∈ branches.filter (!isNullBranch ·) ↔
      branch ∈ branches ∧ branch ≠ nullBranch := by
    intro branch
    rw [List.mem_filter, ne_eq, ← isNullBranch_iff]
    simp
  -- it is enough to look at the kept branches
  suffices hagrees : ∃ shape, (Fragment.ofBranches title branches).draft.resolve defined =
      .ok shape ∧ ∀ refers value, shape.Admits refers value ↔
        ∃ branch ∈ branches.filter (!isNullBranch ·), Admits .strict refers branch value by
    obtain ⟨shape, hshape, hagrees⟩ := hagrees
    refine ⟨shape, hshape, ?_⟩
    intro refers value
    rw [hagrees]
    simp only [hkept, and_assoc]
  have hsupported : ∀ branch ∈ branches.filter (!isNullBranch ·),
      Supported known annotations branch := fun b hb =>
    hsupported b ((hkept b).1 hb).1 ((hkept b).1 hb).2
  have h : ∀ branch ∈ branches.filter (!isNullBranch ·),
      ResolvesTo defined (Draft.ofJson branch) branch := fun b hb =>
    h b ((hkept b).1 hb).1 ((hkept b).1 hb).2
  have hunion := resolveVariants_branches fun b hb => resolvesTo_branch (hsupported b hb) (h b hb)
  unfold Fragment.ofBranches
  simp only
  split
  · -- nothing is kept
    rename_i hnone
    obtain ⟨branch, hbranch⟩ := hsome
    have hmem := (hkept branch).2 hbranch
    rw [hnone] at hmem
    contradiction
  · rename_i branch hone
    rw [hone] at hsupported h hunion ⊢
    split
    · -- one branch, which is a choice of one text
      rename_i text hsingle
      refine ⟨.enumeration title [text], rfl, ?_⟩
      intro refers value
      have hadmits := admits_of_singleValue (hsupported branch List.mem_cons_self)
        annotations_not_keywords hsingle .strict refers value
      rw [Shape.Admits]
      simpa using hadmits.symm
    · rename_i hsingle
      split
      · -- one branch beside null takes the place of the choice
        obtain ⟨shape, hshape, hagrees⟩ := h branch List.mem_cons_self
        refine ⟨shape, hshape, ?_⟩
        intro refers value
        rw [hagrees]
        simp
      · -- one branch alone
        obtain ⟨variants, hvariants, hadmits⟩ := hunion
        refine ⟨.union title variants, ?_, ?_⟩
        · have hbranch : Branch.ofJson branch = .unread branch := by
            rw [Branch.ofJson, hsingle]
          rw [List.map_singleton, hbranch] at hvariants
          rw [Fragment.draft, Shape.resolve, hvariants]
          rfl
        · intro refers value
          rw [Shape.Admits, hadmits]
  · split
    · -- several choices of one text
      rename_i texts htexts
      refine ⟨.enumeration title texts, rfl, ?_⟩
      intro refers value
      rw [Shape.Admits, exists_branch_of_singleValues hsupported htexts]
    · -- several branches
      obtain ⟨variants, hvariants, hadmits⟩ := hunion
      refine ⟨.union title variants, ?_, ?_⟩
      · rw [Fragment.draft, Shape.resolve, hvariants]
        rfl
      · intro refers value
        rw [Shape.Admits, hadmits]

/-! ## Properties -/

theorem properties_eq {members entries : Json.Members} (h : ListsProperties members entries) :
    properties members = entries.map fun entry =>
      ⟨entry.1, entry.2, description? entry.2, !(required members).contains entry.1⟩ := by
  unfold properties
  rcases h with h | ⟨h, rfl⟩
  · rw [h]
  · rw [h]
    rfl

theorem required_eq {members : Json.Members} {names : List String}
    (h : members.lookup "required" = some (.arr (names.map .str)) ∨
      members.lookup "required" = none ∧ names = []) : required members = names := by
  unfold required
  rcases h with h | ⟨h, rfl⟩
  · rw [h]
    simp [List.filterMap_map, Function.comp_def, Json.text?]
  · rw [h]

/-- The drafts of properties resolve to properties that admit what the fragments do. -/
theorem resolveProperties_entries {entries : Json.Members} (optional : String → Bool)
    (h : ∀ entry ∈ entries, ResolvesTo defined (Draft.ofJson entry.2) entry.2) :
    ∃ properties,
      resolveProperties defined (entries.map fun entry =>
        ⟨entry.1, Draft.ofJson entry.2, description? entry.2, optional entry.1⟩) =
          .ok properties ∧
      requiredNames properties = (entries.map (·.1)).filter (!optional ·) ∧
      ∀ refers key value, AdmitsProperty refers properties key value ↔
        ∃ fragment, entries.lookup key = some fragment ∧ Admits .strict refers fragment value := by
  induction entries with
  | nil => exact ⟨[], rfl, rfl, by simp [AdmitsProperty]⟩
  | cons entry rest ih =>
    obtain ⟨name, fragment⟩ := entry
    obtain ⟨shape, hshape, hagrees⟩ := h (name, fragment) List.mem_cons_self
    obtain ⟨properties, hproperties, hrequired, hadmits⟩ :=
      ih fun e he => h e (List.mem_cons_of_mem _ he)
    refine ⟨⟨name, shape, description? fragment, optional name⟩ :: properties, ?_, ?_, ?_⟩
    · rw [List.map_cons, resolveProperties, hshape, hproperties]
      rfl
    · unfold requiredNames at hrequired ⊢
      cases hoptional : optional name <;> simp [hoptional, hrequired]
    · intro refers key value
      rw [AdmitsProperty]
      by_cases hname : name = key
      · subst hname
        simp [hagrees refers value]
      · rw [if_neg hname, hadmits, lookup_cons_of_ne hname]

/-! ## Fragments -/

/-- The draft of a supported fragment resolves to a shape that admits what the fragment does. -/
theorem draft_agrees {notes : List String} {fragment : Json}
    (h : Supported known notes fragment) (hnotes : ∀ note ∈ notes, note ∉ keywords)
    (hknown : ∀ name, known name → name ∈ defined ∧ Referable name) :
    ResolvesTo defined (Draft.ofJson fragment) fragment := by
  induction h with
  | scalar kind htype hkeys =>
    have honly := only_of_keys ["type"] hkeys hnotes
    rw [Draft.ofJson_eq, Fragment.ofJson, ofMembers_scalar honly htype]
    refine ⟨.scalar kind, rfl, ?_⟩
    intro refers value
    rw [Shape.Admits, admits_type kind.name_ne_object honly htype]
  | array htype hitems hsupported hleast hmost hkeys ih =>
    rename_i members entries
    have honly := only_of_keys ["type", "items", "minItems", "maxItems"] hkeys hnotes
    obtain ⟨element, helement, hagrees⟩ := ih annotations_not_keywords
    rw [Draft.ofJson_eq, Fragment.ofJson, ofMembers_array honly htype hitems]
    refine ⟨.array element (bound? "minItems" members) (bound? "maxItems" members), ?_, ?_⟩
    · rw [Fragment.draft, Shape.resolve, helement]
      rfl
    · intro refers value
      rw [Shape.Admits, admits_array honly htype hitems (bound?_of_plainBound hleast)
        (bound?_of_plainBound hmost)]
      simp only [hagrees refers]
  | object htype hproperties hsupported hrequired hdeclared hkeys ih =>
    rename_i members entries names
    -- a property is optional when the list of required names leaves it out
    have honly := only_of_keys ["type", "properties", "required"] hkeys hnotes
    obtain ⟨properties, hresolved, hneeded, hadmits⟩ := resolveProperties_entries
      (fun name => !names.contains name) fun e he => ih e he annotations_not_keywords
    rw [Draft.ofJson_eq, Fragment.ofJson, ofMembers_object honly htype, properties_eq hproperties,
      required_eq hrequired]
    refine ⟨.object (title? members) properties, ?_, ?_⟩
    · rw [Fragment.draft, Shape.resolve, List.map_map]
      simp only [Function.comp_def]
      rw [hresolved]
      rfl
    · intro refers value
      -- what is required is declared, so requiring the declared names in the list is enough
      have hnames : ∀ name, name ∈ requiredNames properties ↔ name ∈ names := by
        intro name
        rw [hneeded, List.mem_filter]
        simp only [Bool.not_not, List.contains_iff_mem, and_iff_right_iff_imp]
        intro hname
        obtain ⟨fragment, hfragment⟩ := hdeclared name hname
        exact List.mem_map.2 ⟨_, hfragment, rfl⟩
      have hclosed : members.lookup "additionalProperties" = none :=
        honly "additionalProperties" (by simp [keywords]) (by simp)
      have honly : Only ["type", "properties", "required", "additionalProperties"] members :=
        honly.mono (by simp)
      rw [Shape.Admits, admits_object honly htype hproperties hrequired (Or.inl ⟨rfl, hclosed⟩)]
      simp only [hadmits refers, hnames]
  | enumeration hvalues htype henum hkeys =>
    have honly := only_of_keys ["type", "enum"] hkeys hnotes
    rename_i members values
    rw [Draft.ofJson_eq, Fragment.ofJson, ofMembers_enumeration hvalues honly henum]
    refine ⟨.enumeration (title? members) values, rfl, ?_⟩
    intro refers value
    rw [Shape.Admits, admits_values honly htype henum]
  | const htype hconst hkeys =>
    have honly := only_of_keys ["type", "const"] hkeys hnotes
    rename_i members text
    rw [Draft.ofJson_eq, Fragment.ofJson, ofMembers_const honly hconst]
    refine ⟨.enumeration (title? members) [text], rfl, ?_⟩
    intro refers value
    rw [Shape.Admits, admits_const honly htype hconst]
    simp
  | anyOf hany hsome hsupported hkeys ih =>
    rename_i members branches
    have honly := only_of_keys ["anyOf"] hkeys hnotes
    have hne : branches ≠ [] := by
      rintro rfl
      simp at hsome
    -- null branches are dropped by the draft, and do not count in the strict reading
    obtain ⟨shape, hshape, hagrees⟩ := resolvesTo_ofBranches (title? members) hsome hsupported
      fun b hb hnot => ih b hb hnot annotations_not_keywords
    rw [Draft.ofJson_eq, Fragment.ofJson, ofMembers_anyOf hne honly hany]
    refine ⟨shape, hshape, ?_⟩
    intro refers value
    rw [hagrees, admits_anyOf honly hany]
    simp [Reading.strict]
  | reference href htarget hname hkeys =>
    rename_i members target name
    have honly := only_of_keys ["$ref"] hkeys hnotes
    obtain ⟨hdefined, hreferable⟩ := hknown name hname
    -- what the name means is left open: both sides ask `refers`
    rw [Draft.ofJson_eq, Fragment.ofJson, ofMembers_reference href]
    refine ⟨.reference name, ?_, ?_⟩
    · rw [Fragment.draft, Shape.resolve, referenceName_of_targets htarget hreferable hdefined]
      rfl
    · intro refers value
      rw [Shape.Admits, admits_reference honly href fun _ => targets_unique htarget]

end

end Dialogue.Schema
