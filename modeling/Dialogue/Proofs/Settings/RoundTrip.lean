import Dialogue.Proofs.File.Store
import Dialogue.Proofs.Yaml.Printer
import Dialogue.Settings.Document

/-!
# Dialogue.Proofs.Settings.RoundTrip — settings survive being saved

What a check lets through is `Valid`: the timeout is no number or positive, the temperature lies
between zero and one, and nothing that counts is negative. Valid settings are exactly those that
their own mapping describes, since every value of that mapping is of the type that its field has, so
no conversion changes it, and what is left out takes the default that it had.

* `ofMembers_toMembers_iff` — valid settings and their mapping;
* `valid_of_ofMembers` — settings that any mapping describes are valid;
* `ofFile_save` — settings that are saved are found again.
-/

namespace Dialogue

/-! ## Checks that found nothing wrong -/

namespace Lenient

variable {α β : Type}

@[simp] theorem Checked.ok_and_ok (g : α → β) (a : α) :
    Checked.and (.ok g) (.ok a) = .ok (g a) :=
  rfl

theorem Checked.and_eq_ok {f : Checked (α → β)} {x : Checked α} {b : β} (h : f.and x = .ok b) :
    ∃ g a, f = .ok g ∧ x = .ok a ∧ g a = b := by
  rcases f with es | g <;> rcases x with es' | a
  · contradiction
  · contradiction
  · contradiction
  · exact ⟨g, a, rfl, rfl, Except.ok.inj h⟩

theorem placed_eq_ok_iff {path : List Step} {convert : Conversion α} {j : Json} {a : α} :
    placed path convert j = .ok a ↔ convert j = .ok a := by
  unfold placed
  cases convert j <;> simp [Except.mapError]

theorem bounded_eq_ok_iff {convert : Conversion α} {fails : α → Bool} {kind : Finding.Kind}
    {j : Json} {x : α} :
    bounded convert fails kind j = .ok x ↔ convert j = .ok x ∧ fails x = false := by
  unfold bounded
  cases convert j with
  | error k => simp [bind, Except.bind]
  | ok y =>
    by_cases hfails : fails y = true
    · simp only [bind, Except.bind, hfails, if_true, throw, throwThe, MonadExceptOf.throw]
      grind
    · simp only [bind, Except.bind, hfails, pure, Except.pure]
      grind

theorem nullable_eq_ok {convert : Conversion α} {j : Json} {a : Option α}
    (h : nullable convert j = .ok a) : ∀ x ∈ a, convert j = .ok x := by
  intro x hx
  obtain rfl := Option.mem_def.mp hx
  unfold nullable at h
  split at h
  · simp at h
  · cases hconvert : convert j <;> simp_all [Except.map]

/-- What holds of the default and of every converted value holds of a field. -/
theorem field_eq_ok {path : List Step} {members : Json.Members} {name : String}
    {convert : Conversion α} {default a : α} {P : α → Prop} (hdefault : P default)
    (hconvert : ∀ j, convert j = .ok a → P a)
    (h : field path members name convert default = .ok a) : P a := by
  unfold field at h
  split at h
  · exact hconvert _ (placed_eq_ok_iff.mp h)
  · exact Except.ok.inj h ▸ hdefault

end Lenient

namespace Settings

open Lenient

/-! ## Valid settings -/

/-- What a check lets through as the section for the runtime. -/
structure Runtime.Valid (r : Runtime) : Prop where
  timeout : r.timeout = .nan ∨ r.timeout.isPositive = true
  maxRetries : 0 ≤ r.maxRetries

/-- What a check lets through as the section for generation. -/
structure Generation.Valid (g : Generation) : Prop where
  temperature : ∀ x ∈ g.temperature, x.exceedsOne = false ∧ x.isNegative = false
  maxTokens : ∀ n ∈ g.maxTokens, 0 ≤ n

/-- What a check lets through as settings. -/
structure Valid (s : Settings) : Prop where
  runtime : s.runtime.Valid
  generation : s.generation.Valid

theorem positiveSeconds_eq_ok {j : Json} {x : Binary64} (h : positiveSeconds j = .ok x) :
    x = .nan ∨ x.isPositive = true := by
  have hfits := (bounded_eq_ok_iff.mp h).2
  by_cases hnan : x = .nan
  · exact .inl hnan
  · right
    simpa [hnan] using hfits

theorem unitTemperature_eq_ok {j : Json} {x : Binary64} (h : unitTemperature j = .ok x) :
    x.exceedsOne = false ∧ x.isNegative = false := by
  obtain ⟨hbelow, hnegative⟩ := bounded_eq_ok_iff.mp h
  exact ⟨(bounded_eq_ok_iff.mp hbelow).2, hnegative⟩

theorem count_eq_ok {j : Json} {n : Int} (h : count j = .ok n) : 0 ≤ n := by
  simpa using (bounded_eq_ok_iff.mp h).2

theorem Runtime.valid_default : ({} : Runtime).Valid :=
  ⟨.inr (by decide), by decide⟩

theorem Generation.valid_default : ({} : Generation).Valid :=
  ⟨by simp, by simp⟩

theorem Runtime.valid_of_check {path : List Step} {j : Json} {r : Runtime}
    (h : Runtime.check path j = .ok r) : r.Valid := by
  unfold Runtime.check at h
  split at h
  · obtain ⟨_, _, h₁, -, rfl⟩ := Checked.and_eq_ok h
    obtain ⟨_, _, h₂, -, rfl⟩ := Checked.and_eq_ok h₁
    obtain ⟨_, maxRetries, h₃, hretries, rfl⟩ := Checked.and_eq_ok h₂
    obtain ⟨_, timeout, h₄, htimeout, rfl⟩ := Checked.and_eq_ok h₃
    obtain ⟨_, _, h₅, -, rfl⟩ := Checked.and_eq_ok h₄
    obtain ⟨_, _, h₆, -, rfl⟩ := Checked.and_eq_ok h₅
    obtain ⟨_, _, h₇, -, rfl⟩ := Checked.and_eq_ok h₆
    obtain rfl := Except.ok.inj h₇
    constructor
    · refine field_eq_ok (P := fun x => x = .nan ∨ x.isPositive = true) ?_ ?_ htimeout
      · exact .inr (by decide)
      · intro j
        exact positiveSeconds_eq_ok
    · refine field_eq_ok (P := fun n => 0 ≤ n) ?_ ?_ hretries
      · decide
      · intro j
        exact count_eq_ok
  · contradiction

theorem Generation.valid_of_check {path : List Step} {j : Json} {g : Generation}
    (h : Generation.check path j = .ok g) : g.Valid := by
  unfold Generation.check at h
  split at h
  · obtain ⟨_, _, h₁, -, rfl⟩ := Checked.and_eq_ok h
    obtain ⟨_, maxTokens, h₂, htokens, rfl⟩ := Checked.and_eq_ok h₁
    obtain ⟨_, temperature, h₃, htemperature, rfl⟩ := Checked.and_eq_ok h₂
    obtain rfl := Except.ok.inj h₃
    constructor
    · refine field_eq_ok
        (P := fun t => ∀ x ∈ t, x.exceedsOne = false ∧ x.isNegative = false) ?_ ?_ htemperature
      · simp
      · intro j hj x hx
        exact unitTemperature_eq_ok (nullable_eq_ok hj x hx)
    · refine field_eq_ok (P := fun t => ∀ n ∈ t, 0 ≤ n) ?_ ?_ htokens
      · simp
      · intro j hj n hn
        exact count_eq_ok (nullable_eq_ok hj n hn)
  · contradiction

/-- What holds of the default and of every section that passed its check holds of a section. -/
theorem sectionOr_eq_ok {α : Type} {default a : α} {check : Json → Checked α} {given : Option Json}
    {P : α → Prop} (hdefault : P default) (hcheck : ∀ j, check j = .ok a → P a)
    (h : sectionOr default check given = .ok a) : P a := by
  cases given with
  | none => exact Except.ok.inj h ▸ hdefault
  | some j => exact hcheck j h

/-- Settings that pass the check have the sections that passed theirs. -/
theorem sections_of_check {members : Json.Members} {s : Settings} (h : check members = .ok s) :
    sectionOr {} (Runtime.check [.key "runtime"]) (section? "Runtime" "runtime" members) =
        .ok s.runtime ∧
      sectionOr {} (Generation.check [.key "generation"])
        (section? "Generation" "generation" members) = .ok s.generation := by
  unfold check at h
  obtain ⟨_, _, h₁, -, rfl⟩ := Checked.and_eq_ok h
  obtain ⟨_, _, h₂, -, rfl⟩ := Checked.and_eq_ok h₁
  obtain ⟨_, _, h₃, -, rfl⟩ := Checked.and_eq_ok h₂
  obtain ⟨_, _, h₄, -, rfl⟩ := Checked.and_eq_ok h₃
  obtain ⟨_, _, h₅, -, rfl⟩ := Checked.and_eq_ok h₄
  obtain ⟨_, _, h₆, -, rfl⟩ := Checked.and_eq_ok h₅
  obtain ⟨_, _, h₇, hgeneration, rfl⟩ := Checked.and_eq_ok h₆
  obtain ⟨_, _, h₈, hruntime, rfl⟩ := Checked.and_eq_ok h₇
  obtain rfl := Except.ok.inj h₈
  exact ⟨hruntime, hgeneration⟩

theorem valid_of_check {members : Json.Members} {s : Settings} (h : check members = .ok s) :
    s.Valid := by
  obtain ⟨hruntime, hgeneration⟩ := sections_of_check h
  constructor
  · refine sectionOr_eq_ok Runtime.valid_default ?_ hruntime
    intro j
    exact Runtime.valid_of_check
  · refine sectionOr_eq_ok Generation.valid_default ?_ hgeneration
    intro j
    exact Generation.valid_of_check

/-- Settings that a mapping describes are valid, however its values are written. -/
theorem valid_of_ofMembers {members : Json.Members} {s : Settings}
    (h : ofMembers members = .ok s) : s.Valid := by
  unfold ofMembers at h
  cases hcheck : check members with
  | error findings => simp [hcheck, Except.mapError] at h
  | ok t =>
    rw [hcheck] at h
    exact Except.ok.inj h ▸ valid_of_check hcheck

/-! ## Settings and their mapping -/

theorem textElements_map_str (path : List Step) (position : Nat) (ss : List String) :
    textElements path position (ss.map .str) = .ok ss := by
  induction ss generalizing position with
  | nil => rfl
  | cons s rest ih =>
    simp [textElements, ih, placed, text, both, Except.mapError, Except.map]

theorem Runtime.Valid.check_toJson {r : Runtime} (h : r.Valid) (path : List Step) :
    Runtime.check path r.toJson = .ok r := by
  have htimeout : positiveSeconds (.float r.timeout) = .ok r.timeout := by
    rw [positiveSeconds, bounded_eq_ok_iff]
    rcases h.timeout with hnan | hpositive
    · simp [float, hnan]
    · simp [float, hpositive]
  have hretries : count (.int r.maxRetries) = .ok r.maxRetries := by
    rw [count, bounded_eq_ok_iff]
    simpa [int] using h.maxRetries
  simp [Runtime.check, Runtime.toJson, addressKey, field, languageList, List.lookup_cons, htimeout,
    hretries, texts, textElements_map_str, placed, text, Lenient.bool, Except.mapError]

theorem Generation.Valid.check_toJson {g : Generation} (h : g.Valid) (path : List Step) :
    Generation.check path g.toJson = .ok g := by
  have htemperature : ∀ x ∈ g.temperature, unitTemperature (.float x) = .ok x := by
    intro x hx
    obtain ⟨hbelow, hnegative⟩ := h.temperature x hx
    rw [unitTemperature, bounded_eq_ok_iff, bounded_eq_ok_iff]
    exact ⟨⟨rfl, hbelow⟩, hnegative⟩
  have htokens : ∀ n ∈ g.maxTokens, count (.int n) = .ok n := by
    intro n hn
    rw [count, bounded_eq_ok_iff]
    simpa [int] using h.maxTokens n hn
  obtain ⟨temperature, maxTokens, checkAvailability⟩ := g
  cases temperature <;> cases maxTokens <;>
    simp_all [Generation.check, Generation.toJson, optionalEntry, field, List.lookup_cons, nullable,
      placed, Lenient.bool, Except.mapError, Except.map]

/-- Valid settings are those that their own mapping describes. -/
theorem ofMembers_toMembers_iff (s : Settings) : ofMembers s.toMembers = .ok s ↔ s.Valid := by
  constructor
  · exact valid_of_ofMembers
  · intro h
    have hruntime := h.runtime.check_toJson [.key "runtime"]
    have hgeneration := h.generation.check_toJson [.key "generation"]
    have hgiven : s.runtime.toJson.isGiven = true ∧ s.generation.toJson.isGiven = true := by
      simp [Runtime.toJson, Generation.toJson, Json.isGiven]
    simp [ofMembers, check, toMembers, journalMembers, section?, sectionOr, entry, field,
      List.lookup_cons, Json.given?, hgiven, hruntime, hgeneration, placed, text, Lenient.bool,
      Except.mapError]

/-! ## Settings and their file -/

theorem toList_toDocument (s : Settings) :
    s.toDocument.toList = Yaml.writeEntries 0 s.toMembers ++ ['\n'] := by
  simp [toDocument, Yaml.write, toMembers]

/-- Settings that a mapping describes, in whatever way its values are written, are found again when
they are saved and loaded: wherever a file can be written they are saved, and in what was saved
every field has the value that it had. They are then equal to those that were saved, unless a field
is no number. What is taken for granted is that a document gives back the mapping that was
written. -/
theorem ofFile_save {members : Json.Members} {s : Settings} (haccepted : ofMembers members = .ok s)
    {path : String} {files : File.Store} (hpath : files.Writable path)
    (hyaml : Yaml.read dateAt s.toDocument = .ok (.obj s.toMembers)) :
    ∃ files', files.save path s.toDocument = .ok files' ∧ ofFile path files' = .ok s ∧
      (s.hasNaN = false → s.same s = true) := by
  refine ⟨_, hpath.save s.toDocument, ?_, ?_⟩
  · have hlines : Text.unifyLines s.toDocument = s.toDocument := Yaml.unifyLines_write s.toMembers
    have hvalid : ofMembers s.toMembers = .ok s :=
      (ofMembers_toMembers_iff s).mpr (valid_of_ofMembers haccepted)
    simp only [ofFile, File.Store.read_write, ofDocument, hlines, hyaml, ofDocumentValue, hvalid]
    rfl
  · intro hnumbers
    simp [same, hnumbers]

/-- A mapping with sections under either name, an address under its older name, and values that
are converted: a timeout as a text, a whole double, a truth value as a number and as a word. -/
def looseMembers : Json.Members :=
  [("Runtime", .obj [("base_url", .str "http://box:1/v1"), ("key", .str ""),
      ("timeout_s", .str " +2_0.5e0 "), ("max_retries", .float (.finite false 2 0)),
      ("supported_languages", .arr []), ("flatten_history", .str "YES")]),
    ("runtime", .str "not read"),
    ("generation", .obj [("temperature", .bool true), ("max_tokens", .null)]),
    ("log_level", .null), ("log_dir", .str ""), ("log_json", .int 1), ("other", .arr [.null])]

/-- The settings that `looseMembers` describes. -/
def looseSettings : Settings where
  runtime :=
    { api := "http://box:1/v1", timeout := .finite false 5770237022568448 (-48), maxRetries := 2,
      languages := [], flattenHistory := true }
  generation := { temperature := some (.finite false 4503599627370496 (-52)) }
  logDir := ""
  logJson := true

theorem read_of_toOption {text : String} {value : Json}
    (h : (Yaml.read dateAt text).toOption = some value) : Yaml.read dateAt text = .ok value := by
  cases hread : Yaml.read dateAt text with
  | error flaw => simp [hread, Except.toOption] at h
  | ok found => simpa [hread, Except.toOption] using h

/-- The document of `looseSettings` is read back. -/
theorem read_toDocument_loose :
    Yaml.read dateAt looseSettings.toDocument = .ok (.obj looseSettings.toMembers) := by
  -- The text is a variable here, so that only its characters are computed.
  have hread : ∀ cs, cs = Yaml.writeEntries 0 looseSettings.toMembers ++ ['\n'] →
      ∀ text : String, text.toList = cs →
        Yaml.read dateAt text = .ok (.obj looseSettings.toMembers) := by
    intro cs hcs text htext
    have hvalue : (Yaml.read dateAt text).toOption = some (.obj looseSettings.toMembers) := by
      simp only [Yaml.read, Yaml.readDocument, Yaml.tokens?, htext]
      clear htext
      subst hcs
      decide +kernel
    exact read_of_toOption hvalue
  exact hread _ rfl _ (toList_toDocument looseSettings)

theorem ofFile_save_loose :
    ofMembers looseMembers = .ok looseSettings ∧
      ∃ files, File.Store.save "conf.yaml" looseSettings.toDocument {} = .ok files ∧
        ofFile "conf.yaml" files = .ok looseSettings ∧
        looseSettings.same looseSettings = true := by
  have haccepted : ofMembers looseMembers = .ok looseSettings := by rfl
  have hpath : File.Store.Writable {} "conf.yaml" := ⟨by decide, by rfl, by rfl⟩
  obtain ⟨files, hsaved, hloaded, hsame⟩ := ofFile_save haccepted hpath read_toDocument_loose
  exact ⟨haccepted, files, hsaved, hloaded, hsame (by decide)⟩

end Settings

end Dialogue
