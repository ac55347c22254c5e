import Dialogue.Journal.Basic
import Dialogue.Settings.Document

/-!
# Dialogue.Proofs.Journal.Settings — the journal takes the same settings at any time

Settings set six entries of the journal's configuration, whatever they say. A journal that was set
up by settings alone forgets them when it is set up by others: the new configuration does not depend
on the old one. Neither does the answer, since adding sinks and setting thresholds fail for reasons
that lie in the configuration only.

* `change_settingsChanges` — the configuration that settings make out of another;
* `install_spec` — what a set-up answers, what it remembers, and which sinks it leaves;
* `HasSettings.applySettings_snd`, `HasSettings.applySettings` — settings after settings.
-/

namespace Dialogue

/-- The configuration of the journal that settings ask for. -/
def Settings.journalConfig (s : Settings) : Journal.Config :=
  { level := Text.upper s.logLevel
    logDir := File.normalPath s.logDir
    rotation := .str s.logRotation
    retention := .str s.logRetention
    logToFile := s.logToFile
    enableJson := s.logJson }

namespace Journal

/-! ## Writing keeps the configuration -/

theorem writeTo_config (e : Entry) (j : Journal) (s : Sink) :
    (j.writeTo e s).config = j.config := by
  unfold writeTo
  split
  · rfl
  · split <;> rfl

theorem write_config (e : Entry) (j : Journal) : (j.write e).config = j.config := by
  unfold write
  generalize j.sinks = sinks
  induction sinks generalizing j with
  | nil => rfl
  | cons s rest ih => rw [List.foldl_cons, ih, writeTo_config]

@[simp] theorem note_config (n : Note) (j : Journal) : (j.note n).config = j.config :=
  write_config _ j

/-! ## Setting up -/

/-- Which threshold cannot be set does not depend on those that are set. -/
theorem setAll_snd (values : List (String × Json)) (t t' : Thresholds) :
    (t.setAll values).2 = (t'.setAll values).2 := by
  induction values generalizing t t' with
  | nil => rfl
  | cons entry rest ih =>
    simp only [Thresholds.setAll]
    cases Thresholds.ofJson entry.2 with
    | error d => rfl
    | ok n => exact ih _ _

theorem connectForeign_snd (c : Config) (level : Level) (j j' : Journal) :
    (j.connectForeign c level).2 = (j'.connectForeign c level).2 := by
  simp only [connectForeign, setThresholds]
  exact setAll_snd _ _ _

theorem connectForeign_config (c : Config) (level : Level) (j : Journal) :
    (j.connectForeign c level).1.config = j.config :=
  rfl

theorem connectForeign_sinks (c : Config) (level : Level) (j : Journal) :
    (j.connectForeign c level).1.sinks = j.sinks :=
  rfl

/-- Adding files adds the same sinks to every journal and keeps its configuration, or fails for
every journal. -/
theorem addFiles_cases (c : Config) (level : Level) :
    (∃ d, ∀ j : Journal, j.addFiles c level = .error d) ∨
      ∃ added, ∀ j : Journal, ∃ j', j.addFiles c level = .ok j' ∧ j'.config = j.config ∧
        j'.sinks = j.sinks ++ added := by
  unfold addFiles
  cases c.logToFile with
  | false => exact .inr ⟨[], fun j => ⟨j, rfl, rfl, (List.append_nil _).symm⟩⟩
  | true =>
    cases rotation : Rotation.check c.rotation with
    | error d => exact .inl ⟨.rotation d, fun j => rfl⟩
    | ok =>
      cases retention : Rotation.checkRetention c.retention with
      | error d => exact .inl ⟨.rotation d, fun j => rfl⟩
      | ok =>
        cases c.enableJson with
        | false => exact .inr ⟨_, fun j => ⟨_, rfl, rfl, rfl⟩⟩
        | true => exact .inr ⟨_, fun j => ⟨_, rfl, rfl, List.append_assoc _ _ _⟩⟩

/-- What a set-up answers and which sinks it leaves lies in the configuration alone, and the
configuration is remembered, whether the set-up succeeds or not. -/
theorem install_spec (c : Config) :
    ∃ (answer : Except Defect Config) (sinks : List Sink), ∀ j : Journal,
      (j.install c).2 = answer ∧ (j.install c).1.config = some c ∧ (j.install c).1.sinks = sinks := by
  unfold install
  cases sinkLevel c with
  | error d => exact ⟨_, _, fun j => ⟨rfl, rfl, rfl⟩⟩
  | ok level =>
    rcases addFiles_cases c level with ⟨d, fails⟩ | ⟨files, succeeds⟩
    · exact ⟨.error d, [⟨.console, level⟩], fun j => by simp [fails]⟩
    · refine ⟨((({} : Journal).connectForeign c level).2.map .error).getD (.ok c),
        ⟨.console, level⟩ :: files, fun j => ?_⟩
      obtain ⟨added, ok, config, sinks⟩ :=
        succeeds { j with config := some c, sinks := [⟨.console, level⟩] }
      have defect := connectForeign_snd c level {} added
      replace config := (connectForeign_config c level added).trans config
      replace sinks := (connectForeign_sinks c level added).trans sinks
      simp only [ok, defect]
      generalize added.connectForeign c level = connected at config sinks ⊢
      obtain ⟨_, _ | d⟩ := connected <;> exact ⟨rfl, config, sinks⟩

theorem install_config (c : Config) (j : Journal) : (j.install c).1.config = some c := by
  obtain ⟨_, _, spec⟩ := install_spec c
  exact (spec j).2.1

theorem install_snd (c : Config) (j j' : Journal) : (j.install c).2 = (j'.install c).2 := by
  obtain ⟨_, _, spec⟩ := install_spec c
  rw [(spec j).1, (spec j').1]

theorem install_sinks (c : Config) (j j' : Journal) :
    (j.install c).1.sinks = (j'.install c).1.sinks := by
  obtain ⟨_, _, spec⟩ := install_spec c
  rw [(spec j).2.2, (spec j').2.2]

/-! ## Settings -/

/-- Settings set six entries of a configuration, and leave the others. -/
theorem change_settingsChanges (c : Config) (s : Settings) :
    c.change (settingsChanges s.journalMembers) =
      .ok { c with
        level := Text.upper s.logLevel
        logDir := File.normalPath s.logDir
        rotation := .str s.logRotation
        retention := .str s.logRetention
        logToFile := s.logToFile
        enableJson := s.logJson
        quietLevel := Text.upper c.quietLevel } := by
  rfl

/-- A journal that was set up by settings at most. -/
def HasSettings (j : Journal) : Prop :=
  j.config = none ∨ ∃ s : Settings, j.config = some s.journalConfig

theorem HasSettings.of_config {j j' : Journal} (h : j.HasSettings) (config : j'.config = j.config) :
    j'.HasSettings := by
  simpa only [HasSettings, config] using h

/-- Settings after settings are settings alone. -/
theorem HasSettings.applySettings_eq {j : Journal} (h : j.HasSettings) (s : Settings) :
    j.applySettings s.journalMembers = j.install s.journalConfig := by
  have quiet : Text.upper "WARNING" = "WARNING" := by decide
  rcases h with none | ⟨last, config⟩
  · simp [applySettings, setup, none, change_settingsChanges, quiet, Settings.journalConfig]
  · simp [applySettings, setup, config, change_settingsChanges, quiet, Settings.journalConfig]

theorem HasSettings.applySettings {j : Journal} (h : j.HasSettings) (s : Settings) :
    (j.applySettings s.journalMembers).1.HasSettings := by
  rw [h.applySettings_eq]
  exact .inr ⟨s, install_config _ _⟩

/-- Whether settings are refused, and why, does not depend on the settings before. -/
theorem HasSettings.applySettings_snd {j j' : Journal} (h : j.HasSettings) (h' : j'.HasSettings)
    (s : Settings) :
    (j.applySettings s.journalMembers).2 = (j'.applySettings s.journalMembers).2 := by
  rw [h.applySettings_eq, h'.applySettings_eq]
  exact install_snd _ _ _

end Journal

end Dialogue
