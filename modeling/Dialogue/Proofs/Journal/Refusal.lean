import Dialogue.Proofs.Journal.Entries
import Dialogue.Proofs.Journal.Settings

/-!
# Dialogue.Proofs.Journal.Refusal — what a refused set-up leaves behind

A call that sets the journal up merges its changes into a configuration, remembers it, removes all
sinks and adds new ones. Merging is refused before anything has changed. What is refused later has
changed the journal: it remembers the configuration that was refused and has the sinks that were
added before. Later calls merge their changes into that configuration.

* `IsSettled.after` — what every history of calls keeps: the sinks are those that the configuration
  in use leaves;
* `call_alike_iff` — when a call does the same to two journals;
* `IsStuck.after` — a configuration without a level refuses all later calls that do not mend it;
* `refused_call_keeps_iff` — a refused call, and the calls after it.
-/

namespace Dialogue.Journal

/-! ## Calls -/

/-- A call that sets the journal up. -/
inductive Call where
  | setup (given : Option Config) (changes : Json.Members)
  | setLevel (level : Json)
  | applySettings (settings : Json.Members)

namespace Call

/-- The configuration that a call gives. -/
def given : Call → Option Config
  | setup given _ => given
  | setLevel _ => none
  | applySettings _ => none

/-- The changes that a call asks for. -/
def changes : Call → Json.Members
  | setup _ changes => changes
  | setLevel level => [("level", level)]
  | applySettings settings => settingsChanges settings

/-- The names of the entries that a call sets. -/
def sets (k : Call) : List String := Config.changed k.changes

end Call

/-- Makes a call. -/
def call (k : Call) (j : Journal) : Journal × Except Defect Config :=
  match k with
  | .setup given changes => j.setup given changes
  | .setLevel level => j.setLevel level
  | .applySettings settings => j.applySettings settings

/-- The journal after calls, whether they succeed or not. -/
def after (calls : List Call) (j : Journal) : Journal :=
  calls.foldl (fun j k => (j.call k).1) j

/-- The configuration that changes are merged into. -/
def current (j : Journal) : Config := j.config.getD {}

/-- What a call makes of the configuration that it gives, or else of the current one. -/
def Call.merged (k : Call) (j : Journal) : Except Defect Config :=
  (k.given.getD j.current).change k.changes

/-- The sinks that setting up leaves: those that are added before the first that cannot be. -/
def Config.sinks (c : Config) : List Sink := (({} : Journal).install c).1.sinks

/-- Whether two journals have the same configuration and the same sinks. -/
def SameSetUp (j j' : Journal) : Prop := j.config = j'.config ∧ j.sinks = j'.sinks

/-- Whether the configuration in use is one that setting up accepts. -/
def Works (j : Journal) : Prop := ∀ c, j.config = some c → (j.install c).2 = .ok c

section

variable {j j' : Journal} {k : Call} {c : Config} {d : Defect}

theorem call_eq (k : Call) (j : Journal) :
    j.call k =
      match k.merged j with
      | .error d => (j, .error d)
      | .ok c => j.install c := by
  have base (given : Option Config) : (given.or j.config).getD {} = given.getD j.current := by
    cases given <;> rfl
  cases k with
  | setup given changes =>
    show j.setup given changes = _
    rw [setup, base]
    rfl
  | setLevel level => rfl
  | applySettings settings => rfl

theorem call_of_refused (h : k.merged j = .error d) : j.call k = (j, .error d) := by
  rw [call_eq, h]

theorem call_of_merged (h : k.merged j = .ok c) : j.call k = j.install c := by
  rw [call_eq, h]

/-! ## The configuration in use and its sinks -/

/-- A call whose changes are merged leaves its configuration, and the sinks that this one leaves. -/
theorem config_call (h : k.merged j = .ok c) : (j.call k).1.config = some c := by
  rw [call_of_merged h, install_config]

theorem sinks_call (h : k.merged j = .ok c) : (j.call k).1.sinks = c.sinks := by
  rw [call_of_merged h]
  exact install_sinks c j {}

theorem current_call (h : k.merged j = .ok c) : (j.call k).1.current = c := by
  rw [current, config_call h]
  rfl

/-- The sinks are those that the configuration in use leaves, which is in normal form; before the
first configuration there are none. -/
def IsSettled (j : Journal) : Prop :=
  match j.config with
  | none => j.sinks = []
  | some c => j.sinks = c.sinks ∧ c.normalized = c

theorem IsSettled.normalized_current (h : j.IsSettled) : j.current.normalized = j.current := by
  unfold IsSettled at h
  unfold current
  cases config : j.config with
  | none => exact Config.normalized_default
  | some c =>
    rw [config] at h
    exact h.2

theorem IsSettled.call (h : j.IsSettled) (k : Call) : (j.call k).1.IsSettled := by
  cases merged : k.merged j with
  | error d => rwa [call_of_refused merged]
  | ok c =>
    rw [IsSettled, config_call merged]
    exact ⟨sinks_call merged, Config.normalized_change merged⟩

theorem IsSettled.after (h : j.IsSettled) (calls : List Call) : (j.after calls).IsSettled := by
  induction calls generalizing j with
  | nil => exact h
  | cons k rest ih => exact ih (h.call k)

/-! ## The same call in two journals -/

/-- A call merges the same in two journals when it gives the configuration, or sets all entries that
differ. -/
theorem merged_eq_iff (hj : j.IsSettled) (hj' : j'.IsSettled) (h : k.merged j = .ok c) :
    k.merged j' = .ok c ↔
      k.given ≠ none ∨
        ∀ name ∉ k.sets, j'.current.entries.lookup name = j.current.entries.lookup name := by
  unfold Call.merged at h ⊢
  cases given : k.given with
  | none =>
    rw [given] at h
    simpa [Call.sets] using
      Config.change_eq_ok_iff hj.normalized_current hj'.normalized_current h
  | some own =>
    rw [given] at h
    simpa using h

/-- Whether merging is refused does not depend on the configuration in use. -/
theorem exists_merged (h : k.merged j = .ok c) (j' : Journal) : ∃ c', k.merged j' = .ok c' := by
  obtain ⟨merge, -, ok, -⟩ := Config.exists_merge h
  exact ⟨_, ok _⟩

/-- A call answers and leaves the same in two journals exactly when it merges the same. -/
theorem call_alike_iff (h : k.merged j = .ok c) :
    ((j'.call k).2 = (j.call k).2 ∧ (j'.call k).1.SameSetUp (j.call k).1) ↔ k.merged j' = .ok c := by
  obtain ⟨c', h'⟩ := exists_merged h j'
  rw [call_of_merged h, call_of_merged h', h', Except.ok.injEq]
  constructor
  · rintro ⟨-, config, -⟩
    rw [install_config, install_config] at config
    exact Option.some.inj config
  · rintro rfl
    refine ⟨install_snd c' j' j, ?_, install_sinks c' j' j⟩
    rw [install_config, install_config]

/-! ## A configuration without a level -/

/-- Whether a call leaves the level and the entries that every record carries to the journal. -/
def Call.Spares (k : Call) : Prop := k.given = none ∧ "level" ∉ k.sets ∧ "extra" ∉ k.sets

/-- Whether the configuration in use has no level for the sinks. -/
def IsStuck (j : Journal) (d : Defect) : Prop :=
  j.IsSettled ∧ ∃ c, j.config = some c ∧ sinkLevel c = .error d

theorem sinks_of_sinkLevel (h : sinkLevel c = .error d) : c.sinks = [] := by
  rw [Config.sinks, install]
  simp only [h]

theorem install_of_sinkLevel (h : sinkLevel c = .error d) (j : Journal) :
    (j.install c).2 = .error d := by
  rw [install]
  simp only [h]

/-- A stuck journal has no sinks, so nothing is written. -/
theorem IsStuck.sinks (h : j.IsStuck d) : j.sinks = [] := by
  obtain ⟨settled, c, config, bad⟩ := h
  rw [IsSettled, config] at settled
  rw [settled.1, sinks_of_sinkLevel bad]

theorem IsStuck.sinkLevel_merged (h : j.IsStuck d) (spares : k.Spares) (merged : k.merged j = .ok c) :
    sinkLevel c = .error d := by
  obtain ⟨settled, before, config, bad⟩ := h
  obtain ⟨notGiven, level, extra⟩ := spares
  have current : j.current = before := by
    rw [current, config]
    rfl
  have normal : before.normalized = before := current ▸ settled.normalized_current
  rw [Call.merged, notGiven, Option.getD_none, current] at merged
  have sameLevel : c.level = before.level :=
    Json.str.inj (Option.some.inj (Config.lookup_change normal merged level))
  have sameExtra : c.extra = before.extra :=
    Json.obj.inj (Option.some.inj (Config.lookup_change normal merged extra))
  rw [← bad, sinkLevel, sinkLevel, sameLevel, sameExtra]

/-- A call that spares the level is refused by a stuck journal, and leaves it stuck. -/
theorem IsStuck.call (h : j.IsStuck d) (spares : k.Spares) :
    (j.call k).1.IsStuck d ∧ ∃ d', (j.call k).2 = .error d' := by
  cases merged : k.merged j with
  | error d' =>
    rw [call_of_refused merged]
    exact ⟨h, d', rfl⟩
  | ok c =>
    have bad := h.sinkLevel_merged spares merged
    have refused : (j.call k).2 = .error d := by
      rw [call_of_merged merged, install_of_sinkLevel bad]
    exact ⟨⟨h.1.call k, c, config_call merged, bad⟩, d, refused⟩

theorem IsStuck.after (h : j.IsStuck d) {calls : List Call} (spare : ∀ k ∈ calls, k.Spares) :
    (j.after calls).IsStuck d := by
  induction calls generalizing j with
  | nil => exact h
  | cons k rest ih =>
    obtain ⟨first, others⟩ := List.forall_mem_cons.1 spare
    exact ih (h.call first).1 others

/-! ## Refused calls -/

/-- Such a call changes nothing only if its configuration is in use already. -/
theorem IsSettled.sameSetUp_call_iff (hj : j.IsSettled) (h : k.merged j = .ok c) :
    (j.call k).1.SameSetUp j ↔ j.config = some c := by
  constructor
  · rintro ⟨sameConfig, -⟩
    rw [← sameConfig, config_call h]
  · intro used
    rw [IsSettled, used] at hj
    exact ⟨(config_call h).trans used.symm, (sinks_call h).trans hj.1.symm⟩

/-- A refused call changes what works. -/
theorem IsSettled.not_sameSetUp_call (hj : j.IsSettled) (works : j.Works) (h : k.merged j = .ok c)
    (refused : (j.call k).2 = .error d) : ¬ (j.call k).1.SameSetUp j := by
  intro same
  have accepted := works c ((hj.sameSetUp_call_iff h).1 same)
  rw [← call_of_merged h, refused] at accepted
  contradiction

end

/-- A call that is refused while its changes are merged has changed nothing. One that is refused
later has left its configuration and the sinks that this one leaves. That is what was there before
only if the same configuration was in use already, and never if the one in use works. A later call
answers and leaves the same as without the refused call exactly when it gives a configuration of its
own or sets every entry that differs. When there was no level for the sinks, all calls that do not
mend it are refused from then on, and nothing is written. -/
theorem refused_call_keeps_iff (history : List Call) (k : Call) (d : Defect)
    (refused : ((after history {}).call k).2 = .error d) :
    let before := after history {}
    let left := (before.call k).1
    (∀ d', k.merged before = .error d' → left = before) ∧
    ∀ c, k.merged before = .ok c →
      (left.config = some c ∧ left.sinks = c.sinks) ∧
      (left.SameSetUp before ↔ before.config = some c) ∧
      (before.Works → ¬ left.SameSetUp before) ∧
      (∀ later c', later.merged before = .ok c' →
        ((left.call later).2 = (before.call later).2 ∧
            (left.call later).1.SameSetUp (before.call later).1 ↔
          later.given ≠ none ∨
            ∀ name ∉ later.sets, c.entries.lookup name = before.current.entries.lookup name)) ∧
      ∀ d', sinkLevel c = .error d' → ∀ calls : List Call, (∀ k ∈ calls, k.Spares) →
        (left.after calls).sinks = [] ∧
        ∀ later : Call, later.Spares → ∃ d'', ((left.after calls).call later).2 = .error d'' := by
  intro before left
  have empty : IsSettled {} := rfl
  have settled : before.IsSettled := empty.after history
  refine ⟨fun d' merged => congrArg Prod.fst (call_of_refused merged), fun c merged => ?_⟩
  refine ⟨⟨config_call merged, sinks_call merged⟩, settled.sameSetUp_call_iff merged,
    fun works => settled.not_sameSetUp_call works merged refused, ?_, ?_⟩
  · intro later c' merged'
    rw [call_alike_iff merged', merged_eq_iff settled (settled.call k) merged', current_call merged]
  · intro d' bad calls spare
    have stuck : left.IsStuck d' := ⟨settled.call k, c, config_call merged, bad⟩
    have stays := stuck.after spare
    exact ⟨stays.sinks, fun later spares => (stays.call spares).2⟩

/-- A set-up of the console alone. -/
def consoleOnly : Call := .setup none [("log_to_file", .bool false)]

/-- A change to a level that there is not. -/
def toUnknownLevel : Call := .setLevel (.str "bogus")

theorem refused_call_keeps_iff_unknownLevel :
    let before := after [consoleOnly] {}
    let left := (before.call toUnknownLevel).1
    (before.call toUnknownLevel).2 = .error (.unknownLevel "BOGUS") ∧
      ¬ left.SameSetUp before ∧
      ∀ calls : List Call, (∀ k ∈ calls, k.Spares) → (left.after calls).sinks = [] := by
  have refused : ((after [consoleOnly] {}).call toUnknownLevel).2 =
      .error (.unknownLevel "BOGUS") := by
    rfl
  have works : (after [consoleOnly] {}).Works := by
    intro c config
    obtain rfl := Option.some.inj config
    rfl
  obtain ⟨-, later⟩ := refused_call_keeps_iff [consoleOnly] toUnknownLevel _ refused
  obtain ⟨-, -, changed, -, stuck⟩ := later _ rfl
  exact ⟨refused, changed works, fun calls spare => (stuck _ rfl calls spare).1⟩

/-- The level that was refused is remembered, the console is gone, and a later call that would have
succeeded is refused for that level. -/
theorem toUnknownLevel_spoils :
    let before := after [consoleOnly] {}
    let left := (before.call toUnknownLevel).1
    let later : Call := .setup none [("colorize", .bool false)]
    (before.call toUnknownLevel).2 = .error (.unknownLevel "BOGUS") ∧
      (before.current.level = "INFO" ∧ left.current.level = "BOGUS") ∧
      (before.sinks = [⟨.console, .info⟩] ∧ left.sinks = []) ∧
      (before.call later).2 = .ok { logToFile := false, colorize := false } ∧
      (left.call later).2 = .error (.unknownLevel "BOGUS") :=
  ⟨rfl, ⟨rfl, rfl⟩, ⟨rfl, rfl⟩, rfl, rfl⟩

end Dialogue.Journal
