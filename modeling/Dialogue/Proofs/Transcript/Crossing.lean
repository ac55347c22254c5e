import Dialogue.Transcript
import Dialogue.Proofs.Message.Refusal
import Dialogue.Proofs.Text.Case

/-!
# Dialogue.Proofs.Transcript.Crossing — transcripts of messages that were sent as JSON

A conversation can be split into a transcript as it is, or after it was written as JSON and read
back. Reading trims a role and puts it in small letters; the transcript puts it in small letters and
does not trim it. So the two agree on every role that has no blanks around it, however it is
written, and on every role that counts as a prompt in any case. A padded `system` or `assistant` is
a prompt before crossing, and what it says after.

* `Kind.ofRole_lower`, `Kind.strip_eq_self` — letter case and blanks of a role;
* `exists_readList_writeList` — what is read of messages that were written;
* `split?_crossed_iff` — the transcript after crossing, and when it is the one before.
-/

namespace Dialogue

/-! ## Roles -/

namespace Transcript.Kind

theorem ofRole_lower (role : String) : ofRole (Text.lower role) = ofRole role := by
  rw [ofRole, ofRole, Text.lower_lower]

/-- The roles that are known to be no prompt. -/
theorem lower_of_ofRole_ne_prompt {role : String} (h : ofRole role ≠ prompt) :
    Text.lower role = "system" ∨ Text.lower role = "assistant" := by
  unfold ofRole at h
  split at h
  · exact .inl ‹_›
  · exact .inr ‹_›
  · contradiction

/-- A role that counts as no prompt has no blanks around it. -/
theorem strip_eq_self {role : String} (h : ofRole role ≠ prompt) : Text.strip role = role := by
  apply Text.strip_eq_self_of_lower
  rcases lower_of_ofRole_ne_prompt h with lower | lower <;>
    · rw [lower]
      decide

/-- Trimming a role changes its kind just when blanks hide that it is no prompt. -/
theorem ofRole_strip_eq_iff (role : String) :
    ofRole (Text.strip role) = ofRole role ↔
      Text.strip role = role ∨ ofRole (Text.strip role) = prompt := by
  constructor
  · intro same
    by_cases known : ofRole role = prompt
    · exact .inr (same.trans known)
    · exact .inl (strip_eq_self known)
  · rintro (trimmed | unknown)
    · rw [trimmed]
    · by_contra changed
      have known : ofRole role ≠ prompt := fun h => changed (unknown.trans h.symm)
      exact changed (by rw [strip_eq_self known])

end Transcript.Kind

/-! ## Messages -/

namespace Message

/-- What is read of a message that was written: the role is trimmed and in small letters, the
content is the same, and an empty name is dropped. -/
structure Crosses (m read : Message) : Prop where
  role : read.role = Text.lower (Text.strip m.role)
  content : read.content = m.content
  name : read.name = m.name.filter (· != "")

/-- A message is read back if its role is not blank. -/
theorem exists_describes_toJson {m : Message} (h : Text.isBlankText m.role = false) :
    ∃ read, Describes m.toJson read ∧ m.Crosses read := by
  let read : Message := ⟨Text.lower (Text.strip m.role), m.content, m.name.filter (· != ""),
    Text.lower_strip_ne_empty h⟩
  refine ⟨read, ofJson_eq_ok_iff.1 ?_, rfl, rfl, rfl⟩
  rw [ofJson_toJson, h, if_neg Bool.false_ne_true]
  exact make_eq_ok_iff.2 ⟨rfl, rfl, rfl⟩

theorem exists_forall₂_describes {messages : List Message}
    (h : ∀ m ∈ messages, Text.isBlankText m.role = false) :
    ∃ read, List.Forall₂ Describes (messages.map toJson) read ∧
      List.Forall₂ Crosses messages read := by
  induction messages with
  | nil => exact ⟨[], .nil, .nil⟩
  | cons m rest ih =>
    obtain ⟨first, others⟩ := List.forall_mem_cons.1 h
    obtain ⟨r, describes, crosses⟩ := exists_describes_toJson first
    obtain ⟨read, describe, cross⟩ := ih others
    exact ⟨r :: read, .cons describes describe, .cons crosses cross⟩

/-- Messages are read back from their text, one for one, if no role is blank. -/
theorem exists_readList_writeList {messages : List Message}
    (h : ∀ m ∈ messages, Text.isBlankText m.role = false) :
    ∃ read, readList (writeList messages) = .ok read ∧ List.Forall₂ Crosses messages read := by
  obtain ⟨read, describe, cross⟩ := exists_forall₂_describes h
  exact ⟨read, readList_eq_ok_iff.2 ⟨_, read_writeList messages, describe⟩, cross⟩

end Message

/-! ## Transcripts -/

namespace Transcript

/-- The entry of a message under its trimmed role. -/
def Entry.ofTrimmed (m : Message) : Entry := ⟨Kind.ofRole (Text.strip m.role), m.content⟩

theorem Entry.ofMessage_of_crosses {m read : Message} (h : m.Crosses read) :
    Entry.ofMessage read = Entry.ofTrimmed m := by
  rw [Entry.ofMessage, Entry.ofTrimmed, h.role, h.content, Kind.ofRole_lower]

/-- The entries of messages as history and current prompt. -/
def splitEntries? (entries : List Entry) : Option (List Entry × String) :=
  entries.getLast?.map fun last => (entries.dropLast, last.text)

theorem split?_eq (messages : List Message) :
    split? messages = splitEntries? (messages.map Entry.ofMessage) := by
  simp [split?, splitEntries?, List.getLast?_map, List.map_dropLast, Function.comp_def,
    Entry.ofMessage]

theorem map_ofMessage_of_crosses {messages read : List Message}
    (h : List.Forall₂ Message.Crosses messages read) :
    read.map Entry.ofMessage = messages.map Entry.ofTrimmed := by
  induction h with
  | nil => simp only [List.map_nil]
  | cons crosses _ ih =>
    simp only [List.map_cons, Entry.ofMessage_of_crosses crosses, ih]

/-- A conversation without blank roles can be read back once it was written, and splits into the
same texts and the same current prompt as before, each message of the history being of the kind of
its trimmed role. That is the transcript from before just when no blanks around a role of the
history hide that it is no prompt. -/
theorem split?_crossed_iff {messages : List Message} (hne : messages ≠ [])
    (hroles : ∀ m ∈ messages, Text.isBlankText m.role = false) :
    ∃ read, Message.readList (Message.writeList messages) = .ok read ∧
      split? read =
        some (messages.dropLast.map Entry.ofTrimmed, (messages.getLast hne).content) ∧
      (split? read = split? messages ↔ ∀ m ∈ messages.dropLast,
        Text.strip m.role = m.role ∨ Kind.ofRole (Text.strip m.role) = .prompt) := by
  obtain ⟨read, hread, crosses⟩ := Message.exists_readList_writeList hroles
  have last : messages.getLast? = some (messages.getLast hne) := List.getLast?_eq_some_getLast hne
  have after : split? read =
      some (messages.dropLast.map Entry.ofTrimmed, (messages.getLast hne).content) := by
    rw [split?_eq, map_ofMessage_of_crosses crosses]
    simp [splitEntries?, List.getLast?_map, List.map_dropLast, last, Entry.ofTrimmed]
  have before : split? messages =
      some (messages.dropLast.map Entry.ofMessage, (messages.getLast hne).content) := by
    simp [split?, last]
  refine ⟨read, hread, after, ?_⟩
  rw [after, before, Option.some_inj, Prod.mk.injEq, and_iff_left rfl, List.map_inj_left]
  simp only [Entry.ofTrimmed, Entry.ofMessage, Entry.mk.injEq, and_true, Kind.ofRole_strip_eq_iff]

/-- Roles in capitals, with blanks around them, and unknown. -/
def mixedRoles : List Message :=
  [⟨"SYSTEM", "be brief", none, by decide⟩, ⟨" Robot\n", "hi", some "", by decide⟩,
    ⟨" Assistant", "bye", none, by decide⟩]

/-- No known role of the history has blanks around it, and the transcript is the same. -/
theorem split?_crossed_iff_mixedRoles :
    mixedRoles ≠ [] ∧ (∀ m ∈ mixedRoles, Text.isBlankText m.role = false) ∧
      ∃ read, Message.readList (Message.writeList mixedRoles) = .ok read ∧
        split? read = split? mixedRoles := by
  have hne : mixedRoles ≠ [] := by simp [mixedRoles]
  have hroles : ∀ m ∈ mixedRoles, Text.isBlankText m.role = false := by decide
  obtain ⟨read, hread, -, same⟩ := split?_crossed_iff hne hroles
  exact ⟨hne, hroles, read, hread, same.2 (by decide +kernel)⟩

/-- The role of an answer with blanks around it. -/
def paddedTurns : List Message :=
  [⟨" Assistant ", "hello", none, by decide⟩, ⟨"user", "bye", none, by decide⟩]

/-- The answer is a prompt in the transcript, and an answer once the messages have crossed. -/
theorem split?_paddedTurns :
    paddedTurns ≠ [] ∧ (∀ m ∈ paddedTurns, Text.isBlankText m.role = false) ∧
      (Message.readList (Message.writeList paddedTurns)).map split? ≠ .ok (split? paddedTurns) := by
  have hroles : ∀ m ∈ paddedTurns, Text.isBlankText m.role = false := by decide
  obtain ⟨read, hread, crosses⟩ := Message.exists_readList_writeList hroles
  have before : split? paddedTurns = some ([⟨.prompt, "hello"⟩], "bye") := by decide +kernel
  have after : split? read = some ([⟨.response, "hello"⟩], "bye") := by
    rw [split?_eq, map_ofMessage_of_crosses crosses]
    decide +kernel
  refine ⟨by simp [paddedTurns], hroles, ?_⟩
  rw [hread, Except.map, before, after]
  simp

end Transcript

end Dialogue
