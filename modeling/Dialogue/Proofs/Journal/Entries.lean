import Dialogue.Journal.Basic
import Dialogue.Proofs.File.Path
import Dialogue.Proofs.Text.Case
import Mathlib.Data.List.Basic
import Mathlib.Tactic.Choose

/-!
# Dialogue.Proofs.Journal.Entries — changing a configuration entry by entry

A configuration is the record of its entries. What a change makes of an entry lies in the change
alone, and the entries that it does not name stay as they are. So two configurations are the same
after a change when they agree on the other entries, and only then.

* `set_cases`, `setAll_cases` — all that setting entries can do;
* `exists_merge` — changes that one configuration takes are taken by all;
* `change_eq_ok_iff` — when the same changes to two configurations give the same.
-/

namespace Dialogue

/-! ## Members -/

theorem Json.lookup_put (key name : String) (value : Json) (members : Json.Members) :
    (Json.put key value members).lookup name =
      if name = key then some value else members.lookup name := by
  induction members with
  | nil =>
    rw [Json.put, List.lookup_cons]
    split <;> simp_all
  | cons member rest ih =>
    obtain ⟨k, v⟩ := member
    rw [Json.put]
    by_cases here : k = key
    · rw [if_pos here, here, List.lookup_cons, List.lookup_cons]
      split <;> simp_all
    · rw [if_neg here, List.lookup_cons, List.lookup_cons, ih]
      split <;> simp_all

namespace Journal

theorem lookup_withEntries_of_notMem {name : String} {entries : Json.Members}
    (h : name ∉ entries.map (·.1)) (context : Json.Members) :
    (withEntries entries context).lookup name = context.lookup name := by
  induction entries generalizing context with
  | nil => rfl
  | cons entry rest ih =>
    obtain ⟨other, unnamed⟩ := not_or.1 (mt List.mem_cons.2 h)
    calc (withEntries (entry :: rest) context).lookup name
        = (Json.put entry.1 entry.2 context).lookup name := ih unnamed _
      _ = context.lookup name := by rw [Json.lookup_put, if_neg other]

/-- What is put under a name does not depend on what was there. -/
theorem lookup_withEntries_of_mem {name : String} {entries : Json.Members}
    (h : name ∈ entries.map (·.1)) (context context' : Json.Members) :
    (withEntries entries context).lookup name = (withEntries entries context').lookup name := by
  induction entries generalizing context context' with
  | nil => contradiction
  | cons entry rest ih =>
    by_cases later : name ∈ rest.map (·.1)
    · exact ih later _ _
    · obtain rfl : name = entry.1 := (List.mem_cons.1 h).resolve_right later
      have first (context : Json.Members) :
          (withEntries (entry :: rest) context).lookup entry.1 = some entry.2 :=
        calc (withEntries (entry :: rest) context).lookup entry.1
            = (Json.put entry.1 entry.2 context).lookup entry.1 :=
              lookup_withEntries_of_notMem later _
          _ = some entry.2 := by rw [Json.lookup_put, if_pos rfl]
      rw [first, first]

/-! ## Setting entries -/

namespace Config

/-- The entries of a configuration, by name. -/
def entries (c : Config) : Json.Members := c.toJson.members?.getD []

/-- Configurations with the same entries are the same. -/
theorem ext_entries {c c' : Config} (h : ∀ name, c.entries.lookup name = c'.entries.lookup name) :
    c = c' := by
  obtain ⟨level, logDir, logFile, jsonFile, rotation, retention, logToFile, enableJson, colorize,
    enqueue, backtrace, diagnose, extra, quietLibs, quietLevel⟩ := c
  have texts : Function.Injective (List.map Json.str) :=
    List.map_injective_iff.2 fun _ _ => Json.str.inj
  obtain rfl := Json.str.inj (Option.some.inj (h "level"))
  obtain rfl := Json.str.inj (Option.some.inj (h "log_dir"))
  obtain rfl := Json.str.inj (Option.some.inj (h "log_file"))
  obtain rfl := Json.str.inj (Option.some.inj (h "json_file"))
  obtain rfl := Option.some.inj (h "rotation")
  obtain rfl := Option.some.inj (h "retention")
  obtain rfl := Json.bool.inj (Option.some.inj (h "log_to_file"))
  obtain rfl := Json.bool.inj (Option.some.inj (h "enable_json"))
  obtain rfl := Json.bool.inj (Option.some.inj (h "colorize"))
  obtain rfl := Json.bool.inj (Option.some.inj (h "enqueue"))
  obtain rfl := Json.bool.inj (Option.some.inj (h "backtrace"))
  obtain rfl := Json.bool.inj (Option.some.inj (h "diagnose"))
  obtain rfl := Json.obj.inj (Option.some.inj (h "extra"))
  obtain rfl := texts (Json.arr.inj (Option.some.inj (h "quiet_libs")))
  obtain rfl := Json.str.inj (Option.some.inj (h "quiet_level"))
  rfl

/-- Setting an entry is refused for every configuration, or puts the same value into each. -/
theorem set_cases (name : String) (value : Json) :
    (∃ d, ∀ c, set name value c = .error d) ∨
      ∃ entry, ∀ c, ∃ c', set name value c = .ok c' ∧ c'.entries = Json.put name entry c.entries := by
  unfold set
  split
  -- an entry is a text, a flag, any value, members or texts, and the last name is none
  all_goals first
    | exact .inr ⟨.str value.shown, fun _ => ⟨_, rfl, rfl⟩⟩
    | exact .inr ⟨.bool value.isGiven, fun _ => ⟨_, rfl, rfl⟩⟩
    | exact .inr ⟨value, fun _ => ⟨_, rfl, rfl⟩⟩
    | exact .inr ⟨.obj (value.members?.getD []), fun _ => ⟨_, rfl, rfl⟩⟩
    | exact .inr ⟨.arr (((value.elements?.getD []).filterMap Json.text?).map .str),
        fun _ => ⟨_, rfl, rfl⟩⟩
    | exact .inl ⟨_, fun _ => rfl⟩

/-- Setting entries is refused for every configuration, or puts the same values into each. -/
theorem setAll_cases (changes : Json.Members) :
    (∃ d, ∀ c, setAll changes c = .error d) ∨
      ∃ entries, entries.map (·.1) = changes.map (·.1) ∧
        ∀ c, ∃ c', setAll changes c = .ok c' ∧ c'.entries = withEntries entries c.entries := by
  induction changes with
  | nil => exact .inr ⟨[], rfl, fun c => ⟨c, rfl, rfl⟩⟩
  | cons change rest ih =>
    obtain ⟨name, value⟩ := change
    have step (c : Config) : setAll ((name, value) :: rest) c = (set name value c).bind (setAll rest) :=
      rfl
    rcases set_cases name value with ⟨d, refused⟩ | ⟨entry, sets⟩
    · exact .inl ⟨d, fun c => by rw [step, refused c]; rfl⟩
    · rcases ih with ⟨d, refused⟩ | ⟨entries, names, setsAll⟩
      · refine .inl ⟨d, fun c => ?_⟩
        obtain ⟨c₁, ok, -⟩ := sets c
        rw [step, ok]
        exact refused c₁
      · refine .inr ⟨(name, entry) :: entries, by simp [names], fun c => ?_⟩
        obtain ⟨c₁, ok, put⟩ := sets c
        obtain ⟨c₂, okRest, putRest⟩ := setsAll c₁
        refine ⟨c₂, by rw [step, ok]; exact okRest, ?_⟩
        rw [putRest, put]
        rfl

/-! ## Normal form -/

theorem normalized_normalized (c : Config) : c.normalized.normalized = c.normalized := by
  simp [normalized, Text.upper_upper]

/-- The defaults are in normal form. -/
theorem normalized_default : ({} : Config).normalized = {} := by
  have level : Text.upper "INFO" = "INFO" := by decide
  have logDir : File.normalPath "logs" = "logs" := by decide
  have quietLevel : Text.upper "WARNING" = "WARNING" := by decide
  simp [normalized, level, logDir, quietLevel]

/-- The normal form of an entry lies in the entry alone. -/
theorem lookup_normalized_congr {c c' : Config} {name : String}
    (h : c.entries.lookup name = c'.entries.lookup name) :
    c.normalized.entries.lookup name = c'.normalized.entries.lookup name := by
  have entries_normalized (c : Config) :
      c.normalized.entries = withEntries [("level", .str (Text.upper c.level)),
        ("log_dir", .str (File.normalPath c.logDir)),
        ("quiet_level", .str (Text.upper c.quietLevel))] c.entries := rfl
  by_cases level : name = "level"
  · subst level
    obtain same : c.level = c'.level := Json.str.inj (Option.some.inj h)
    exact congrArg (fun level => some (Json.str (Text.upper level))) same
  by_cases logDir : name = "log_dir"
  · subst logDir
    obtain same : c.logDir = c'.logDir := Json.str.inj (Option.some.inj h)
    exact congrArg (fun logDir => some (Json.str (File.normalPath logDir))) same
  by_cases quietLevel : name = "quiet_level"
  · subst quietLevel
    obtain same : c.quietLevel = c'.quietLevel := Json.str.inj (Option.some.inj h)
    exact congrArg (fun level => some (Json.str (Text.upper level))) same
  · have other : name ∉ ["level", "log_dir", "quiet_level"] := by simp [level, logDir, quietLevel]
    rw [entries_normalized, entries_normalized, lookup_withEntries_of_notMem other,
      lookup_withEntries_of_notMem other, h]

/-! ## Merging changes -/

/-- The names of the entries that changes set. -/
def changed (changes : Json.Members) : List String :=
  (changes.filter fun (_, value) => isChange value).map (·.1)

/-- Changes that one configuration takes are taken by all. What is merged agrees on the entries that
the changes set, and on any other with the configuration before. -/
theorem exists_merge {changes : Json.Members} {c merged : Config}
    (h : change changes c = .ok merged) :
    ∃ merge : Config → Config, merge c = merged ∧ (∀ c, change changes c = .ok (merge c)) ∧
      (∀ c, (merge c).normalized = merge c) ∧
      (∀ c c', ∀ name ∈ changed changes,
        (merge c).entries.lookup name = (merge c').entries.lookup name) ∧
      ∀ c, ∀ name ∉ changed changes,
        (merge c).entries.lookup name = c.normalized.entries.lookup name := by
  unfold change at h ⊢
  rcases setAll_cases (changes.filter fun (_, value) => isChange value) with
    ⟨d, refused⟩ | ⟨entries, names, sets⟩
  · rw [refused c] at h
    contradiction
  · choose merge ok put using sets
    have named : changed changes = entries.map (·.1) := names.symm
    rw [ok c] at h
    refine ⟨fun c => (merge c).normalized, Except.ok.inj h, fun c => by rw [ok c]; rfl,
      fun c => normalized_normalized _, fun c c' name set => ?_, fun c name unset => ?_⟩
    · apply lookup_normalized_congr
      rw [put, put]
      exact lookup_withEntries_of_mem (named ▸ set) _ _
    · apply lookup_normalized_congr
      rw [put]
      exact lookup_withEntries_of_notMem (named ▸ unset) _

section

variable {changes : Json.Members} {c c' merged : Config}

theorem normalized_change (h : change changes c = .ok merged) : merged.normalized = merged := by
  obtain ⟨merge, rfl, -, normal, -⟩ := exists_merge h
  exact normal c

/-- An entry that changes do not set stays as it is. -/
theorem lookup_change (hc : c.normalized = c) (h : change changes c = .ok merged) {name : String}
    (unset : name ∉ changed changes) : merged.entries.lookup name = c.entries.lookup name := by
  obtain ⟨merge, rfl, -, -, -, keeps⟩ := exists_merge h
  rw [keeps c name unset, hc]

/-- Changes to two configurations in normal form give the same exactly when the configurations agree
on the entries that the changes do not set. -/
theorem change_eq_ok_iff (hc : c.normalized = c) (hc' : c'.normalized = c')
    (h : change changes c = .ok merged) :
    change changes c' = .ok merged ↔
      ∀ name ∉ changed changes, c'.entries.lookup name = c.entries.lookup name := by
  constructor
  · intro same name unset
    rw [← lookup_change hc h unset, ← lookup_change hc' same unset]
  · intro agree
    obtain ⟨merge, rfl, ok, -, sets, -⟩ := exists_merge h
    rw [ok c', Except.ok.injEq]
    apply ext_entries
    intro name
    by_cases set : name ∈ changed changes
    · exact sets c' c name set
    · rw [lookup_change hc h set, lookup_change hc' (ok c') set, agree name set]

end

end Config

end Journal

end Dialogue
