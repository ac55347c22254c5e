import Dialogue.Session
import Dialogue.Proofs.File.Store
import Dialogue.Proofs.Journal.Settings
import Mathlib.Data.List.Induction

/-!
# Dialogue.Proofs.Session.Keeping — kept settings are current

A session keeps the settings of one load, for all paths together: those of the last load that could
keep them and did not fail. Between loads files are written and deleted, and the path of settings
changes. As long as a time of writing tells the text, for each path, what is kept answers a load
just as loading anew would.

The invariant `Sound` holds along every run: what is in a file was written there, and what is kept
is what loading anew gave for one path, with the time of a text that was written there, or with none
for a file that was not there. So when path and time agree with the file that is there now, its text
is the one that was loaded; and the journal takes the settings now because it took them then. The
files of the journal are apart from those of the session.

* `loadNew_cases`, `load_cases` — all that a load can do;
* `settingsAnew_of_isFor` — what is kept, and loading anew;
* `Sound.after`, `sound_run` — one act, and a run;
* `kept_settings_current` — the answers of loads after a run.
-/

namespace Dialogue.Session

theorem normalPath_settingsPath (given : Option String) (s : Session) :
    File.normalPath (s.settingsPath given) = s.settingsPath given :=
  File.normalPath_normalPath _

/-! ## Loading anew -/

/-- Fails for settings that the journal refuses. -/
def checkJournal (settings : Settings) : Except Fault Unit :=
  (discard (({} : Journal).applySettings settings.journalMembers).2).mapError .journal

/-- The settings that loading anew gives. -/
def settingsAnew (path : String) (files : File.Store) : Except Fault Settings :=
  match settingsAt path files with
  | .error e => .error e
  | .ok settings =>
    match checkJournal settings with
    | .error e => .error e
    | .ok () => .ok settings

theorem settingsAnew_eq_ok_iff {path : String} {files : File.Store} {settings : Settings} :
    settingsAnew path files = .ok settings ↔
      settingsAt path files = .ok settings ∧ checkJournal settings = .ok () := by
  unfold settingsAnew
  constructor
  · intro h
    split at h
    · contradiction
    · split at h
      · contradiction
      · cases h
        exact ⟨‹_›, ‹_›⟩
  · rintro ⟨found, accepted⟩
    simp only [found, accepted]

/-- Settings are refused for the same reason at any time. -/
theorem checkJournal_eq {j : Journal} (h : j.HasSettings) (settings : Settings) :
    (discard (j.applySettings settings.journalMembers).2).mapError .journal =
      checkJournal settings := by
  have fresh : ({} : Journal).HasSettings := .inl rfl
  rw [checkJournal, h.applySettings_snd fresh]

theorem tellMissing_eq {s : Session} (h : s.journal.HasSettings) (path : String) :
    ∃ journal : Journal, journal.HasSettings ∧ s.tellMissing path = { s with journal } := by
  unfold tellMissing
  split
  · exact ⟨s.journal, h, rfl⟩
  · exact ⟨_, h.of_config (Journal.note_config _ _), rfl⟩

/-- Loading anew changes the journal, and how many settings were made. It answers with the settings
that are there, and keeps them if it may and does not fail. -/
theorem loadNew_cases {s : Session} (h : s.journal.HasSettings) (path : String) (keep : Bool) :
    ∃ (journal : Journal) (settingsMade : Nat), journal.HasSettings ∧
      ((∃ e, settingsAnew path s.files = .error e ∧
          s.loadNew path keep = ({ s with journal, settingsMade }, .error e)) ∨
        ∃ loaded : Loaded, settingsAnew path s.files = .ok loaded.settings ∧
          s.loadNew path keep =
            ({ s with
                journal
                settingsMade
                kept := if keep then some ⟨path, s.files.stamp? path, loaded⟩ else s.kept },
              .ok loaded)) := by
  obtain ⟨told, hasTold, tell⟩ := tellMissing_eq h path
  simp only [loadNew, settingsAnew, tell]
  cases settingsAt path s.files with
  | error e => exact ⟨told, s.settingsMade, hasTold, .inl ⟨e, rfl, rfl⟩⟩
  | ok settings =>
    have check := checkJournal_eq hasTold settings
    have hasApplied := hasTold.applySettings settings
    refine ⟨(told.applySettings settings.journalMembers).1, s.settingsMade + 1, hasApplied, ?_⟩
    simp only [applySettings, check]
    cases checkJournal settings with
    | error e => exact .inl ⟨e, rfl, rfl⟩
    | ok =>
      refine .inr ⟨⟨s.settingsMade, settings⟩, rfl, ?_⟩
      cases keep <;> rfl

/-- What a load does: it refuses a path below a file, answers with what is kept, or loads anew. -/
theorem load_cases (given : Option String) (useKept : Bool) (s : Session) :
    (s.files.isBelowFile (s.settingsPath given) = true ∧
        s.load given useKept = (s, .error (.file (.notFolder (s.settingsPath given))))) ∨
      s.files.isBelowFile (s.settingsPath given) = false ∧
        ((∃ loaded n, useKept = true ∧ s.kept? (s.settingsPath given) = some loaded ∧
            s.load given useKept = (s.tell n, .ok loaded)) ∨
          s.load given useKept = s.loadNew (s.settingsPath given) useKept) := by
  cases below : s.files.isBelowFile (s.settingsPath given) with
  | true => exact .inl ⟨rfl, by simp [load, below]⟩
  | false =>
    refine .inr ⟨rfl, ?_⟩
    cases useKept with
    | false => exact .inr (by simp [load, below])
    | true =>
      cases kept : s.kept? (s.settingsPath given) with
      | none => exact .inr (by simp [load, below, kept])
      | some loaded => exact .inl ⟨loaded, _, rfl, rfl, by simp only [load, below, kept]; rfl⟩

/-! ## Runs -/

/-- What happens around a session. -/
inductive Act where
  /-- A file is created or written anew. -/
  | write (w : File.Write)
  | delete (path : String)
  /-- The environment variable is set or unset. -/
  | setVariable (value : Option String)
  | load (given : Option String) (useKept : Bool)

/-- The write that an act is, if it is one. -/
def Act.write? : Act → Option File.Write
  | .write w => some w
  | _ => none

/-- The session after an act. Nothing is deleted where no file is; a load that fails may have been
noted in the journal, which settings may have set up. -/
def after (s : Session) : Act → Session
  | .write w => { s with files := s.files.write w.path w.text w.time }
  | .delete path =>
    match s.files.delete path with
    | .ok files => { s with files }
    | .error _ => s
  | .setVariable value => { s with pathVariable := value }
  | .load given useKept => (s.load given useKept).1

/-- A new session after acts, in order. -/
def run (acts : List Act) : Session := acts.foldl after {}

/-- The writes of a run. -/
def writes (acts : List Act) : List File.Write := acts.filterMap Act.write?

theorem writes_concat (acts : List Act) (act : Act) :
    writes (acts ++ [act]) = writes acts ++ act.write?.toList := by
  cases h : act.write? <;> simp [writes, h]

/-! ## The invariant -/

/-- Whether kept settings are those of a file as some write left it, or of a missing file. -/
structure Kept.IsLoaded (writes : List File.Write) (k : Kept) : Prop where
  normal : File.normalPath k.path = k.path
  accepted : checkJournal k.loaded.settings = .ok ()
  missing : k.stamp = none → k.loaded.settings = {}
  written : ∀ {stamp}, k.stamp = some stamp → ∃ c, File.Wrote writes k.path c ∧ c.stamp = stamp ∧
    Settings.ofDocument k.path c.text = .ok k.loaded.settings

/-- What holds in a session after writes to its files. -/
structure Sound (writes : List File.Write) (s : Session) : Prop where
  files : s.files.Holds writes
  journal : s.journal.HasSettings
  kept : ∀ {k}, s.kept = some k → k.IsLoaded writes

theorem Kept.IsLoaded.append {writes : List File.Write} {k : Kept} (h : k.IsLoaded writes)
    (more : List File.Write) : k.IsLoaded (writes ++ more) where
  normal := h.normal
  accepted := h.accepted
  missing := h.missing
  written stamp := by
    obtain ⟨c, wrote, h⟩ := h.written stamp
    exact ⟨c, wrote.append more, h⟩

/-! ## The settings at a path -/

section

variable {path : String} {files : File.Store} (normal : File.normalPath path = path)

include normal

theorem settingsAt_of_found {c : File.Content} (found : files.find? path = some c) :
    settingsAt path files = Settings.ofDocument path c.text := by
  simp [settingsAt, found, Settings.ofFile, normal, File.Store.read]

/-- Where no file is there are the default settings, unless it is a folder. -/
theorem settingsAt_of_missing (missing : files.find? path = none) :
    settingsAt path files =
      if files.isFolder path then .error (.file (.folder path)) else .ok {} := by
  cases folder : files.isFolder path <;>
    simp [settingsAt, missing, folder, Settings.ofFile, normal, File.Store.read,
      File.Store.troubleAt]

/-- Settings that were loaded anew can be kept with the time of the file. -/
theorem isLoaded_of_settingsAnew {writes : List File.Write} {loaded : Loaded}
    (holds : files.Holds writes) (anew : settingsAnew path files = .ok loaded.settings) :
    Kept.IsLoaded writes ⟨path, files.stamp? path, loaded⟩ := by
  obtain ⟨there, accepted⟩ := settingsAnew_eq_ok_iff.mp anew
  cases found : files.find? path with
  | none =>
    have empty : loaded.settings = {} := by
      rw [settingsAt_of_missing normal found] at there
      split at there
      · contradiction
      · exact (Except.ok.inj there).symm
    exact ⟨normal, accepted, fun _ => empty, by simp [File.Store.stamp?, found]⟩
  | some c =>
    refine ⟨normal, accepted, by simp [File.Store.stamp?, found], fun {stamp} h => ⟨c, ?_, ?_, ?_⟩⟩
    · exact normal ▸ holds.found found
    · simpa [File.Store.stamp?, found] using h
    · rw [← there, settingsAt_of_found normal found]

/-- Kept settings that came from a path, and from the file that is there now, are those that loading
anew gives. -/
theorem settingsAnew_of_isFor {writes : List File.Write} {k : Kept} (holds : files.Holds writes)
    (tell : File.TimesTell writes) (h : k.IsLoaded writes) (isFor : k.isFor path files = true) :
    settingsAnew path files = .ok k.loaded.settings := by
  simp only [Kept.isFor, Bool.and_eq_true, beq_iff_eq, Bool.not_eq_true'] at isFor
  obtain ⟨⟨samePath, sameStamp⟩, noFolder⟩ := isFor
  refine settingsAnew_eq_ok_iff.mpr ⟨?_, h.accepted⟩
  cases found : files.find? path with
  | none =>
    -- without a time, what is kept are the settings of a missing file
    have missing : k.stamp = none := by rw [sameStamp, File.Store.stamp?, found]; rfl
    rw [settingsAt_of_missing normal found, noFolder, h.missing missing]
    rfl
  | some c =>
    -- the text that was loaded had the time of the one that is there now
    have stamp : k.stamp = some c.stamp := by rw [sameStamp, File.Store.stamp?, found]; rfl
    obtain ⟨old, wrote, time, loads⟩ := h.written stamp
    have sameText : old.text = c.text :=
      tell.text_eq (samePath ▸ wrote) (normal ▸ holds.found found) time
    rw [settingsAt_of_found normal found, ← sameText, ← samePath]
    exact loads

end

/-! ## What an act keeps -/

theorem Sound.load {writes : List File.Write} {s : Session} (h : Sound writes s)
    (given : Option String) (useKept : Bool) : Sound writes (s.load given useKept).1 := by
  rcases load_cases given useKept s with ⟨-, below⟩ | ⟨-, ⟨loaded, n, -, -, hit⟩ | new⟩
  · rwa [below]
  · rw [hit]
    exact ⟨h.files, h.journal.of_config (Journal.note_config _ _), h.kept⟩
  · rw [new]
    obtain ⟨journal, made, hasJournal, ⟨e, -, failed⟩ | ⟨loaded, anew, loadedNew⟩⟩ :=
      loadNew_cases h.journal (s.settingsPath given) useKept
    · rw [failed]
      exact ⟨h.files, hasJournal, h.kept⟩
    · rw [loadedNew]
      refine ⟨h.files, hasJournal, fun {k} kept => ?_⟩
      split at kept
      · cases kept
        exact isLoaded_of_settingsAnew (normalPath_settingsPath given s) h.files anew
      · exact h.kept kept

theorem Sound.after {acts : List Act} {s : Session} (h : Sound (writes acts) s) (act : Act) :
    Sound (writes (acts ++ [act])) (s.after act) := by
  rw [writes_concat]
  cases act with
  | write w => exact ⟨h.files.write w, h.journal, fun kept => (h.kept kept).append [w]⟩
  | delete path =>
    simp only [Act.write?, Option.toList_none, List.append_nil, Session.after]
    split
    · rename_i files deleted
      exact ⟨h.files.delete deleted, h.journal, h.kept⟩
    · exact h
  | setVariable value =>
    simp only [Act.write?, Option.toList_none, List.append_nil]
    exact ⟨h.files, h.journal, h.kept⟩
  | load given useKept =>
    simp only [Act.write?, Option.toList_none, List.append_nil]
    exact h.load given useKept

theorem sound_run (acts : List Act) : Sound (writes acts) (run acts) := by
  induction acts using List.reverseRecOn with
  | nil => exact ⟨File.Store.holds_nil, .inl rfl, by simp [run]⟩
  | append_singleton acts act ih =>
    rw [run, List.foldl_append]
    exact ih.after act

/-! ## Loads -/

/-- A load answers with the settings that are there now, with and without what is kept. -/
theorem Sound.load_settings {writes : List File.Write} {s : Session} (h : Sound writes s)
    (tell : File.TimesTell writes) (given : Option String) (useKept : Bool) :
    (s.load given useKept).2.map (·.settings) =
      if s.files.isBelowFile (s.settingsPath given) then
        .error (.file (.notFolder (s.settingsPath given)))
      else settingsAnew (s.settingsPath given) s.files := by
  rcases load_cases given useKept s with
    ⟨below, refused⟩ | ⟨notBelow, ⟨loaded, n, -, kept, hit⟩ | new⟩
  · rw [refused, if_pos below]
    rfl
  · rw [hit, if_neg (by simp [notBelow])]
    obtain ⟨k, isKept, rfl⟩ := Option.map_eq_some_iff.mp kept
    obtain ⟨isKept, isFor⟩ := Option.filter_eq_some_iff.mp isKept
    have anew := settingsAnew_of_isFor (normalPath_settingsPath given s) h.files tell
      (h.kept isKept) isFor
    exact anew.symm
  · rw [new, if_neg (by simp [notBelow])]
    obtain ⟨journal, made, -, ⟨e, anew, failed⟩ | ⟨loaded, anew, loadedNew⟩⟩ :=
      loadNew_cases h.journal (s.settingsPath given) useKept
    · rw [failed, anew]
      rfl
    · rw [loadedNew, anew]
      rfl

/-- A load that fails keeps what is kept. -/
theorem load_kept_of_error {s : Session} (h : s.journal.HasSettings) {given : Option String}
    {useKept : Bool} {e : Fault} (failed : (s.load given useKept).2 = .error e) :
    (s.load given useKept).1.kept = s.kept := by
  rcases load_cases given useKept s with ⟨-, refused⟩ | ⟨-, ⟨loaded, n, -, -, hit⟩ | new⟩
  · rw [refused]
  · rw [hit] at failed
    contradiction
  · rw [new] at failed ⊢
    obtain ⟨journal, made, -, ⟨e, -, failedNew⟩ | ⟨loaded, -, loadedNew⟩⟩ :=
      loadNew_cases h (s.settingsPath given) useKept
    · rw [failedNew]
    · rw [loadedNew] at failed
      contradiction

/-- After any run a load that may use what is kept answers as one that may not: with the same
settings or with the same fault. The run writes and deletes files, sets the environment variable and
loads settings from any path, with what is kept or without; what fails on the way does not end it.
The times that writes give for a path tell the texts. A load that fails leaves what is kept as it
was. -/
theorem kept_settings_current (acts : List Act) (tell : File.TimesTell (writes acts))
    (given : Option String) :
    ((run acts).load given true).2.map (·.settings) =
        ((run acts).load given false).2.map (·.settings) ∧
      ∀ useKept e, ((run acts).load given useKept).2 = .error e →
        ((run acts).load given useKept).1.kept = (run acts).kept := by
  have sound := sound_run acts
  refine ⟨?_, fun useKept e failed => load_kept_of_error sound.journal failed⟩
  rw [sound.load_settings tell, sound.load_settings tell]

/-- Settings are loaded and kept; then a document that cannot be loaded stands in their place, and
then the first one again, with its old time. -/
def restoredRun : List Act :=
  [.write ⟨"config.yaml", "log_level: debug\n", some 1⟩, .load none true,
    .write ⟨"config.yaml", "[", some 2⟩, .load none true,
    .write ⟨"./config.yaml", "log_level: debug\n", some 1⟩]

/-- The settings of the first load are still kept, and loading anew gives the same. -/
theorem kept_settings_current_restoredRun :
    File.TimesTell (writes restoredRun) ∧ ((run restoredRun).kept? "config.yaml").isSome = true ∧
      ((run restoredRun).load none true).2.map (·.settings) =
        ((run restoredRun).load none false).2.map (·.settings) := by
  have tell : File.TimesTell (writes restoredRun) := by decide +kernel
  have kept : ((run restoredRun).kept? "config.yaml").isSome = true := by decide +kernel
  exact ⟨tell, kept, (kept_settings_current restoredRun tell none).1⟩

end Dialogue.Session
