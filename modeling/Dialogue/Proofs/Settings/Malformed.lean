import Dialogue.Proofs.Settings.RoundTrip

/-!
# Dialogue.Proofs.Settings.Malformed — which malformed settings are refused

A document has to be a mapping, and so has each section in it; null stands for an empty one. What is
neither is `Malformed`. It is refused just when it counts as given: an empty list, an empty text,
zeros and false pass for null.

* `findings_and`, `Below` — a check of several parts finds what the parts find, each at its place;
* `check_eq`, `within_check` — the findings of a whole mapping, told apart by the member they are in;
* `Section.read_runtime`, `Section.read_generation` — what the whole check makes of each section, in
  the same words for both;
* `Section.Read.settles` — what follows for every mapping;
* `malformed_refused_iff` — documents and the sections of mappings.
-/

namespace Dialogue

/-! ## Findings -/

namespace Lenient

variable {α β : Type}

/-- What a check found. -/
def findings : Checked α → List Finding
  | .ok _ => []
  | .error found => found

@[simp] theorem findings_ok (a : α) : findings (.ok a) = [] := rfl

@[simp] theorem findings_error (found : List Finding) :
    findings (.error found : Checked α) = found :=
  rfl

@[simp] theorem findings_and (f : Checked (α → β)) (x : Checked α) :
    findings (f.and x) = findings f ++ findings x := by
  rcases f with found | g <;> rcases x with found' | a <;> simp [Checked.and, both, Except.map]

@[simp] theorem findings_map (f : α → β) (x : Checked α) : findings (x.map f) = findings x := by
  cases x <;> rfl

@[simp] theorem findings_both (x : Checked α) (y : Checked β) :
    findings (both x y) = findings x ++ findings y := by
  rcases x with found | a <;> rcases y with found' | b <;> simp [both]

/-- The findings at a place or below it. -/
def Below (path : List Step) (found : List Finding) : Prop := ∀ f ∈ found, path <+: f.path

theorem below_nil (path : List Step) : Below path [] := by simp [Below]

theorem below_append {path : List Step} {found found' : List Finding} :
    Below path (found ++ found') ↔ Below path found ∧ Below path found' := by
  simp only [Below, List.mem_append, or_imp, forall_and]

theorem Below.up {path further : List Step} {found : List Finding}
    (h : Below (path ++ further) found) : Below path found := by
  intro f hf
  exact (List.prefix_append path further).trans (h f hf)

theorem below_placed (path : List Step) (convert : Conversion α) (j : Json) :
    Below path (findings (placed path convert j)) := by
  unfold placed
  cases convert j <;> simp [Below, Except.mapError]

theorem below_field (path : List Step) (members : Json.Members) (name : String)
    (convert : Conversion α) (default : α) :
    Below (path ++ [.key name]) (findings (field path members name convert default)) := by
  unfold field
  split
  · exact below_placed _ convert _
  · exact below_nil _

theorem below_textElements (path : List Step) (position : Nat) (elements : List Json) :
    Below path (findings (textElements path position elements)) := by
  induction elements generalizing position with
  | nil => exact below_nil path
  | cons x rest ih =>
    rw [textElements, findings_map, findings_both, below_append]
    exact ⟨(below_placed _ text x).up, ih (position + 1)⟩

end Lenient

namespace Settings

open Lenient

/-- The findings in a member of a mapping. -/
def within (name : String) (found : List Finding) : List Finding :=
  found.filter fun f => f.path.head? = some (.key name)

theorem within_append (name : String) (found found' : List Finding) :
    within name (found ++ found') = within name found ++ within name found' :=
  List.filter_append ..

theorem within_self {name : String} {found : List Finding} (h : Below [.key name] found) :
    within name found = found := by
  rw [within, List.filter_eq_self]
  intro f hf
  obtain ⟨rest, hrest⟩ := h f hf
  simp [← hrest]

theorem within_other {name other : String} (hne : other ≠ name) {found : List Finding}
    (h : Below [.key other] found) : within name found = [] := by
  rw [within, List.filter_eq_nil_iff]
  intro f hf
  obtain ⟨rest, hrest⟩ := h f hf
  simp [← hrest, hne]

/-! ## Sections -/

/-- A section of the settings. -/
structure Section (α : Type) where
  capital : String
  small : String
  default : α
  check : List Step → Json → Checked α
  /-- The section of the settings that were read. -/
  of : Settings → α

namespace Section

variable {α : Type}

def runtime : Section Runtime := ⟨"Runtime", "runtime", {}, Runtime.check, Settings.runtime⟩

def generation : Section Generation :=
  ⟨"Generation", "generation", {}, Generation.check, Settings.generation⟩

/-- What a mapping has for a section: what stands under the capital name, else under the small one. -/
def value (sec : Section α) (members : Json.Members) : Option Json :=
  (members.lookup sec.capital).or (members.lookup sec.small)

/-- What is read as a section. -/
def read (sec : Section α) (members : Json.Members) : Checked α :=
  sectionOr sec.default (sec.check [.key sec.small]) (section? sec.capital sec.small members)

/-- Mappings with the same members, apart from a section. -/
def Alike (sec : Section α) (members others : Json.Members) : Prop :=
  ∀ name ∉ [sec.capital, sec.small], members.lookup name = others.lookup name

/-- What the check of a whole mapping makes of a section. -/
structure Read (sec : Section α) : Prop where
  ok {members : Json.Members} {s : Settings} (h : Settings.check members = .ok s) :
    sec.read members = .ok (sec.of s)
  found (members : Json.Members) :
    within sec.small (findings (Settings.check members)) = findings (sec.read members)
  /-- Nothing outside a section depends on it. -/
  alike {members others : Json.Members} (h : sec.Alike members others)
    (hread : sec.read members = sec.read others) : Settings.check members = Settings.check others
  empty (path : List Step) : sec.check path (.obj []) = .ok sec.default
  notMapping (path : List Step) {j : Json} (h : ∀ inner, j ≠ .obj inner) :
    sec.check path j = .error [⟨path, .modelType⟩]

end Section

theorem Runtime.below_check (path : List Step) (j : Json) :
    Below path (findings (Runtime.check path j)) := by
  unfold Runtime.check
  split
  · rename_i members
    have hlanguages : Below path (findings (languageList path members)) := by
      unfold languageList texts
      split
      · split
        · exact (below_textElements _ 0 _).up
        · simp [Below]
      · exact below_nil path
    simp only [findings_and, findings_ok, List.nil_append, below_append, hlanguages, and_true,
      (below_field path members _ _ _).up]
  · simp [Below]

theorem Generation.below_check (path : List Step) (j : Json) :
    Below path (findings (Generation.check path j)) := by
  unfold Generation.check
  split
  · rename_i members
    simp only [findings_and, findings_ok, List.nil_append, below_append, and_true,
      (below_field path members _ _ _).up]
  · simp [Below]

theorem below_sectionOr {α : Type} {default : α} {check : List Step → Json → Checked α}
    (h : ∀ path j, Below path (findings (check path j))) (path : List Step) (given : Option Json) :
    Below path (findings (sectionOr default (check path) given)) := by
  cases given with
  | none => exact below_nil path
  | some j => exact h path j

theorem below_entry {α : Type} (members : Json.Members) (name : String) (convert : Conversion α)
    (default : α) : Below [.key name] (findings (entry members name convert default)) := by
  unfold entry
  split
  · exact below_nil _
  · exact below_field [] members name convert default

/-- The names of the sections. -/
def sectionNames : List String := ["Runtime", "runtime", "Generation", "generation"]

/-- The check of a whole mapping is made of those of its sections and of its entries. -/
theorem check_eq (members : Json.Members) :
    check members =
      (Checked.and (.ok Settings.mk) (Section.runtime.read members)
        |>.and (Section.generation.read members)
        |>.and (entry members "log_level" text ({} : Settings).logLevel)
        |>.and (entry members "log_dir" text ({} : Settings).logDir)
        |>.and (entry members "log_to_file" bool ({} : Settings).logToFile)
        |>.and (entry members "log_rotation" text ({} : Settings).logRotation)
        |>.and (entry members "log_retention" text ({} : Settings).logRetention)
        |>.and (entry members "log_json" bool ({} : Settings).logJson)) :=
  rfl

theorem entry_congr {α : Type} {members others : Json.Members} {name : String}
    (h : members.lookup name = others.lookup name) (convert : Conversion α) (default : α) :
    entry members name convert default = entry others name convert default := by
  simp only [entry, field, h]

theorem check_congr {members others : Json.Members}
    (hruntime : Section.runtime.read members = Section.runtime.read others)
    (hgeneration : Section.generation.read members = Section.generation.read others)
    (hentries : ∀ name ∉ sectionNames, members.lookup name = others.lookup name) :
    check members = check others := by
  rw [check_eq, check_eq, hruntime, hgeneration]
  iterate 6 rw [entry_congr (hentries _ (by decide))]

theorem within_entry {α : Type} {name other : String} (hne : other ≠ name) (members : Json.Members)
    (convert : Conversion α) (default : α) :
    within name (findings (entry members other convert default)) = [] :=
  within_other hne (below_entry members other convert default)

/-- In a section's member, the check of a whole mapping finds what the checks of sections find. -/
theorem within_check {name : String} (hname : name ∈ sectionNames) (members : Json.Members) :
    within name (findings (check members)) =
      within name (findings (Section.runtime.read members)) ++
        within name (findings (Section.generation.read members)) := by
  have hne : ∀ other, other ∉ sectionNames → other ≠ name := by
    rintro other hother rfl
    exact hother hname
  -- what the six entries find is in members of their own
  rw [check_eq]
  simp only [findings_and, findings_ok, List.nil_append, within_append]
  iterate 6 rw [within_entry (hne _ (by decide)), List.append_nil]

theorem Section.read_congr {α : Type} {sec : Section α} {members others : Json.Members}
    (hcapital : members.lookup sec.capital = others.lookup sec.capital)
    (hsmall : members.lookup sec.small = others.lookup sec.small) :
    sec.read members = sec.read others := by
  simp only [Section.read, section?, hcapital, hsmall]

theorem Section.below_runtime (members : Json.Members) :
    Below [.key "runtime"] (findings (Section.runtime.read members)) :=
  below_sectionOr Runtime.below_check _ _

theorem Section.below_generation (members : Json.Members) :
    Below [.key "generation"] (findings (Section.generation.read members)) :=
  below_sectionOr Generation.below_check _ _

theorem Section.read_runtime : Section.runtime.Read where
  ok h := (sections_of_check h).1
  found members := by
    show within "runtime" _ = _
    rw [within_check (by decide), within_self (below_runtime members),
      within_other (by decide) (below_generation members), List.append_nil]
  alike {members others} h hread := by
    refine check_congr hread ?_ fun name hname => h name ?_
    · exact Section.read_congr (h _ (by decide)) (h _ (by decide))
    · exact fun hmem => hname (List.mem_append_left _ hmem)
  empty path := rfl
  notMapping path {j} h := by
    cases j with
    | obj inner => exact absurd rfl (h inner)
    | _ => rfl

theorem Section.read_generation : Section.generation.Read where
  ok h := (sections_of_check h).2
  found members := by
    show within "generation" _ = _
    rw [within_check (by decide), within_self (below_generation members),
      within_other (by decide) (below_runtime members), List.nil_append]
  alike {members others} h hread := by
    refine check_congr ?_ hread fun name hname => h name ?_
    · exact Section.read_congr (h _ (by decide)) (h _ (by decide))
    · exact fun hmem => hname (List.mem_append_right ["Runtime", "runtime"] hmem)
  empty path := rfl
  notMapping path {j} h := by
    cases j with
    | obj inner => exact absurd rfl (h inner)
    | _ => rfl

/-! ## What is refused -/

/-- A value that is neither null nor a mapping. -/
def Malformed (j : Json) : Prop := j ≠ .null ∧ ∀ members, j ≠ .obj members

/-- What a section's value decides about the settings of a mapping. -/
structure Section.Settles {α : Type} (sec : Section α) (members : Json.Members) : Prop where
  /-- A malformed section that counts as given is refused, and nothing else is found in it. -/
  refused {j : Json} (hvalue : sec.value members = some j) (hmalformed : Malformed j)
    (hgiven : j.isGiven = true) :
    ∃ f, ofMembers members = .error f ∧ f.kind = .configuration ∧
      within sec.small f.findings = [⟨[.key sec.small], .modelType⟩]
  /-- One that does not is passed over, and so is null: it is as if the section were not there. -/
  ignored {j : Json} (hvalue : sec.value members = some j) (hgiven : j.isGiven = false)
    {others : Json.Members} (hothers : sec.Alike members others) (hnone : sec.value others = none) :
    ofMembers members = ofMembers others
  /-- The values of a mapping are those that are checked: if they pass, the settings have them, and
  if the settings are refused, it is not for this section. -/
  accepted {inner : Json.Members} {a : α} (hvalue : sec.value members = some (.obj inner))
    (hcheck : sec.check [.key sec.small] (.obj inner) = .ok a) :
    (∀ s, ofMembers members = .ok s → sec.of s = a) ∧
      ∀ f, ofMembers members = .error f → within sec.small f.findings = []
  /-- If they do not pass, the settings are refused for what is wrong with them. -/
  rejected {inner : Json.Members} {found : List Finding}
    (hvalue : sec.value members = some (.obj inner))
    (hcheck : sec.check [.key sec.small] (.obj inner) = .error found) :
    ∃ f, ofMembers members = .error f ∧ f.kind = .configuration ∧
      within sec.small f.findings = found

namespace Section.Read

variable {α : Type} {sec : Section α} {members : Json.Members}

theorem ofMembers_ok (h : sec.Read) {s : Settings} (hs : ofMembers members = .ok s) :
    sec.read members = .ok (sec.of s) := by
  unfold ofMembers at hs
  cases hcheck : Settings.check members with
  | error found => simp [hcheck, Except.mapError] at hs
  | ok t =>
    rw [hcheck] at hs
    obtain rfl := Except.ok.inj hs
    exact h.ok hcheck

theorem ofMembers_error (h : sec.Read) {f : Failure} (hf : ofMembers members = .error f) :
    f.kind = .configuration ∧ within sec.small f.findings = findings (sec.read members) := by
  unfold ofMembers at hf
  rw [← h.found members]
  cases hcheck : Settings.check members with
  | error found =>
    rw [hcheck] at hf
    obtain rfl := Except.error.inj hf
    exact ⟨rfl, rfl⟩
  | ok t => simp [hcheck, Except.mapError] at hf

theorem refused (h : sec.Read) {found : List Finding} (hread : sec.read members = .error found) :
    ∃ f, ofMembers members = .error f ∧ f.kind = .configuration ∧
      within sec.small f.findings = found := by
  cases hmembers : ofMembers members with
  | ok s =>
    have hok := h.ofMembers_ok hmembers
    rw [hread] at hok
    contradiction
  | error f =>
    obtain ⟨hkind, hfound⟩ := h.ofMembers_error hmembers
    rw [hread] at hfound
    exact ⟨f, rfl, hkind, hfound⟩

/-- A section that counts as given is checked. -/
theorem read_given {j : Json} (hvalue : sec.value members = some j) (hgiven : j.isGiven = true) :
    sec.read members = sec.check [.key sec.small] j := by
  have hsection : section? sec.capital sec.small members = some j := by
    rw [section?, show (members.lookup sec.capital).or _ = some j from hvalue]
    simp [Json.given?, hgiven]
  rw [Section.read, hsection]
  rfl

/-- A section that is not there or does not count as given takes its defaults. -/
theorem read_not_given (hvalue : ∀ j, sec.value members = some j → j.isGiven = false) :
    sec.read members = .ok sec.default := by
  have hsection : section? sec.capital sec.small members = none := by
    rw [section?, Option.bind_eq_none_iff]
    intro j hj
    simp [Json.given?, hvalue j hj]
  rw [Section.read, hsection]
  rfl

/-- A mapping is checked also when it is empty, since its defaults pass. -/
theorem read_mapping (h : sec.Read) {inner : Json.Members}
    (hvalue : sec.value members = some (.obj inner)) :
    sec.read members = sec.check [.key sec.small] (.obj inner) := by
  cases inner with
  | nil =>
    -- an empty mapping does not count as given
    rw [h.empty, read_not_given]
    intro j hj
    obtain rfl := Option.some.inj (hvalue.symm.trans hj)
    rfl
  | cons member rest => exact read_given hvalue rfl

theorem settles (h : sec.Read) (members : Json.Members) : sec.Settles members where
  refused {j} hvalue hmalformed hgiven := by
    refine h.refused ?_
    rw [read_given hvalue hgiven]
    exact h.notMapping _ hmalformed.2
  ignored {j} hvalue hgiven {others} hothers hnone := by
    have hmembers : sec.read members = .ok sec.default := by
      refine read_not_given ?_
      intro j' hj'
      obtain rfl := Option.some.inj (hvalue.symm.trans hj')
      exact hgiven
    have hread : sec.read others = .ok sec.default := by
      refine read_not_given ?_
      intro j' hj'
      rw [hnone] at hj'
      contradiction
    rw [ofMembers, ofMembers, h.alike hothers (hmembers.trans hread.symm)]
  accepted {inner a} hvalue hcheck := by
    have hread := (h.read_mapping hvalue).trans hcheck
    constructor
    · intro s hs
      exact Except.ok.inj ((h.ofMembers_ok hs).symm.trans hread)
    · intro f hf
      rw [(h.ofMembers_error hf).2, hread]
      rfl
  rejected {inner found} hvalue hcheck := h.refused ((h.read_mapping hvalue).trans hcheck)

end Section.Read

/-! ## Documents -/

/-- Settings are refused as a failure of the configuration. -/
def Refused (outcome : Except Fault Settings) : Prop :=
  ∃ f, outcome = .error (.failure f) ∧ f.kind = .configuration

section

variable {path text : String} {value : Json}

theorem ofDocument_value (hread : Yaml.read dateAt (Text.unifyLines text) = .ok value) :
    ofDocument path text = (ofDocumentValue path value).mapError .failure := by
  rw [ofDocument, hread]

theorem ofMembers_nil : ofMembers [] = .ok {} := rfl

theorem ofDocumentValue_not_given (hgiven : value.isGiven = false) :
    ofDocumentValue path value = .ok {} := by
  cases value with
  | obj members =>
    cases members with
    | nil => exact ofMembers_nil
    | cons member rest => contradiction
  | _ => simp only [ofDocumentValue, hgiven, ofMembers_nil, Bool.false_eq_true, if_false]

theorem ofDocumentValue_malformed (h : Malformed value) (hgiven : value.isGiven = true) :
    ofDocumentValue path value = .error (notMapping path) := by
  cases value with
  | obj members => exact absurd rfl (h.2 members)
  | _ => simp only [ofDocumentValue, hgiven, if_true]

theorem refused_malformed_iff (hread : Yaml.read dateAt (Text.unifyLines text) = .ok value)
    (h : Malformed value) : Refused (ofDocument path text) ↔ value.isGiven = true := by
  rw [ofDocument_value hread]
  cases hgiven : value.isGiven with
  | true =>
    rw [ofDocumentValue_malformed h hgiven]
    exact iff_of_true ⟨_, rfl, rfl⟩ rfl
  | false =>
    rw [ofDocumentValue_not_given hgiven]
    refine iff_of_false ?_ (by decide)
    rintro ⟨f, hf, -⟩
    contradiction

theorem refused_unreadable_iff {flaw : Yaml.Flaw}
    (hread : Yaml.read dateAt (Text.unifyLines text) = .error flaw) :
    Refused (ofDocument path text) ↔ flaw = .malformed := by
  rw [ofDocument, hread]
  cases flaw with
  | malformed => exact iff_of_true ⟨_, rfl, rfl⟩ rfl
  | badScalar message =>
    refine iff_of_false ?_ (by simp)
    rintro ⟨f, hf, -⟩
    simp at hf

end

/-- A document that is neither null nor a mapping is refused just when it counts as given, and what
cannot be read as one is refused unless a scalar in it is at fault. What does not count as given
describes the default settings. A document that is a mapping describes what the mapping does, and
there both sections decide alike: refused when they are neither null nor a mapping and count as
given, passed over when they do not, and checked value by value when they are a mapping. -/
theorem malformed_refused_iff {path : String} {files : File.Store} {text : String}
    (hfile : files.read (File.normalPath path) = .ok text) :
    (∀ value, Yaml.read dateAt (Text.unifyLines text) = .ok value → Malformed value →
      (Refused (ofFile path files) ↔ value.isGiven = true)) ∧
    (∀ value, Yaml.read dateAt (Text.unifyLines text) = .ok value → value.isGiven = false →
      ofFile path files = .ok {}) ∧
    (∀ flaw, Yaml.read dateAt (Text.unifyLines text) = .error flaw →
      (Refused (ofFile path files) ↔ flaw = .malformed)) ∧
    (∀ members, Yaml.read dateAt (Text.unifyLines text) = .ok (.obj members) →
      ofFile path files = (ofMembers members).mapError .failure) ∧
    ∀ members, Section.runtime.Settles members ∧ Section.generation.Settles members := by
  have hdocument : ofFile path files = ofDocument (File.normalPath path) text := by
    simp only [ofFile, hfile]
  rw [hdocument]
  refine ⟨?_, ?_, ?_, ?_, ?_⟩
  · intro value hread hmalformed
    exact refused_malformed_iff hread hmalformed
  · intro value hread hgiven
    rw [ofDocument_value hread, ofDocumentValue_not_given hgiven]
    rfl
  · intro flaw hread
    exact refused_unreadable_iff hread
  · intro members hread
    exact ofDocument_value hread
  · intro members
    exact ⟨Section.read_runtime.settles members, Section.read_generation.settles members⟩

/-- A store with one document. -/
def filed (text : String) : File.Store := File.Store.write "config.yaml" text none {}

theorem read_filed (text : String) :
    (filed text).read (File.normalPath "config.yaml") = .ok text :=
  File.Store.read_write "config.yaml" text {}

theorem malformed_refused_iff_zeroes :
    (filed "[0]\n").read (File.normalPath "config.yaml") = .ok "[0]\n" ∧
      Yaml.read dateAt (Text.unifyLines "[0]\n") = .ok (.arr [.int 0]) ∧
      Refused (ofFile "config.yaml" (filed "[0]\n")) ∧
      (∃ f, ofMembers [("Runtime", .int 1), ("runtime", .obj [])] = .error f ∧
        within "runtime" f.findings = [⟨[.key "runtime"], .modelType⟩]) ∧
      ofMembers [("generation", .str ""), ("log_json", .bool true)] =
        ofMembers [("log_json", .bool true)] := by
  have hfile := read_filed "[0]\n"
  have hread : Yaml.read dateAt (Text.unifyLines "[0]\n") = .ok (.arr [.int 0]) :=
    read_of_toOption (by decide +kernel)
  have hmalformed : Malformed (.arr [.int 0]) := ⟨by simp, by simp⟩
  obtain ⟨hdocument, -, -, -, hsections⟩ := malformed_refused_iff hfile
  obtain ⟨f, hf, -, hfound⟩ := (hsections [("Runtime", .int 1), ("runtime", .obj [])]).1.refused
    rfl ⟨by simp, by simp⟩ rfl
  refine ⟨hfile, hread, (hdocument _ hread hmalformed).2 rfl, ⟨f, hf, hfound⟩, ?_⟩
  refine (hsections _).2.ignored rfl rfl ?_ rfl
  intro name hname
  have hne : (name == "generation") = false := by
    rw [beq_eq_false_iff_ne]
    rintro rfl
    exact hname (by decide)
  rw [List.lookup_cons, hne]

/-- A document with an empty list, and a section that is one, are neither null nor a mapping. They
pass for the default settings. -/
theorem emptyList_not_refused :
    Yaml.read dateAt (Text.unifyLines "[]\n") = .ok (.arr []) ∧ Malformed (.arr []) ∧
      ofFile "config.yaml" (filed "[]\n") = .ok {} ∧
      ofMembers [("Runtime", .arr [])] = .ok {} := by
  have hread : Yaml.read dateAt (Text.unifyLines "[]\n") = .ok (.arr []) :=
    read_of_toOption (by decide +kernel)
  refine ⟨hread, ⟨by simp, by simp⟩, ?_, rfl⟩
  rw [ofFile, read_filed]
  show ofDocument _ _ = _
  rw [ofDocument_value hread]
  rfl

end Settings

end Dialogue
