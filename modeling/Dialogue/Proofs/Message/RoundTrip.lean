import Dialogue.Message
import Dialogue.Proofs.Json.RoundTrip

/-!
# Dialogue.Proofs.Message.RoundTrip — messages written as text are read back

A list of messages is written as a JSON array and read back element by element. Reading normalises a
message, so exactly those lists come back as they were whose messages are `Normalised` already.

* `ofJson_toJson` — what becomes of one message between the two: its role is trimmed and put in small
  letters, and an empty name is dropped;
* `readList_writeList_iff` — the statement for lists, with contents of any characters.
-/

namespace Dialogue.Message

/-- The form that reading gives a message: the role has no blanks around it and is in small letters,
and the name, if there is one, is not empty. -/
structure Normalised (m : Message) : Prop where
  role : Text.lower (Text.strip m.role) = m.role
  name : m.name ≠ some ""

/-! ## One message -/

/-- Parts make up a message just when they are its parts. -/
theorem make_eq_ok_iff {role content : String} {name : Option String} {m : Message} :
    make role content name = .ok m ↔ role = m.role ∧ content = m.content ∧ name = m.name := by
  obtain ⟨mrole, mcontent, mname, hne⟩ := m
  unfold make
  split
  · rename_i hempty
    constructor
    · intro h
      contradiction
    · rintro ⟨rfl, -, -⟩
      contradiction
  · simp

/-! ### The members of a written message -/

/-- A message is written as its role and content, and its name unless that is empty. -/
theorem toMembers_eq (m : Message) :
    m.toMembers = [("role", .str m.role), ("content", .str m.content)] ++
      ((m.name.filter (· != "")).map fun name => ("name", Json.str name)).toList := by
  cases hname : m.name with
  | none => simp [toMembers, hname]
  | some name =>
    by_cases hempty : name = ""
    · simp [toMembers, hname, hempty, Option.filter]
    · simp [toMembers, hname, hempty, Option.filter]

theorem lookup_role (m : Message) : m.toMembers.lookup "role" = some (.str m.role) := rfl

theorem lookup_content (m : Message) : m.toMembers.lookup "content" = some (.str m.content) := rfl

theorem lookup_name (m : Message) :
    m.toMembers.lookup "name" = (m.name.filter (· != "")).map .str := by
  rw [toMembers_eq]
  cases m.name.filter (· != "") <;> rfl

/-- A name that was written is read as it is. -/
theorem shown_name (name : Option String) :
    (((name.filter (· != "")).map Json.str).bind Json.given?).map Json.shown =
      name.filter (· != "") := by
  cases name with
  | none => rfl
  | some name =>
    by_cases hempty : name = ""
    · simp [Option.filter, hempty]
    · simp [Option.filter, hempty, Json.given?, Json.isGiven, Json.shown]

/-- What is read of a message that was written. -/
theorem ofJson_toJson (m : Message) :
    ofJson m.toJson =
      if Text.isBlankText m.role then .error .noRole
      else make (Text.lower (Text.strip m.role)) m.content (m.name.filter (· != "")) := by
  simp only [ofJson, toJson, lookup_role, lookup_content, lookup_name, shown_name, contentText]

/-- A text whose trimmed form in small letters is not empty has a character that is not blank. -/
theorem not_isBlankText_of_lower_strip {s : String} (h : Text.lower (Text.strip s) ≠ "") :
    Text.isBlankText s = false := by
  cases hblank : Text.isBlankText s with
  | false => rfl
  | true =>
    have hstrip : Text.stripChars s.toList = [] :=
      Text.stripChars_eq_nil_iff.2 (List.all_eq_true.1 hblank)
    simp [Text.strip, hstrip, Text.lower, Text.lowerAfter] at h

/-- A message that is written is read back as it was just when it is normalised. -/
theorem ofJson_toJson_eq_ok_iff (m : Message) : ofJson m.toJson = .ok m ↔ m.Normalised := by
  rw [ofJson_toJson]
  constructor
  · intro h
    split at h
    · contradiction
    · obtain ⟨hrole, -, hname⟩ := make_eq_ok_iff.1 h
      refine ⟨hrole, ?_⟩
      intro hempty
      simp [hempty] at hname
  · intro h
    have hblank : Text.isBlankText m.role = false :=
      not_isBlankText_of_lower_strip (by rw [h.role]; exact m.role_ne)
    have hname : m.name.filter (· != "") = m.name := by
      cases hgiven : m.name with
      | none => rfl
      | some name =>
        have hne : name ≠ "" := fun hempty => h.name (hempty ▸ hgiven)
        simp [Option.filter, hne]
    rw [hblank, if_neg Bool.false_ne_true]
    exact make_eq_ok_iff.2 ⟨h.role, rfl, hname⟩

/-- A written message holds texts only, under distinct keys. -/
theorem faithful_toJson (m : Message) : Json.Faithful m.toJson := by
  rw [toJson, toMembers_eq]
  cases m.name.filter (· != "") with
  | none =>
    refine Json.faithful_obj (by simp) ?_
    simp [Json.faithful_str]
  | some name =>
    refine Json.faithful_obj (by simp) ?_
    simp [Json.faithful_str]

/-! ## Lists -/

theorem mapM_ofJson_eq_ok_iff (messages : List Message) :
    (messages.map toJson).mapM ofJson = .ok messages ↔ ∀ m ∈ messages, m.Normalised := by
  induction messages with
  | nil => simp [pure, Except.pure]
  | cons m rest ih =>
    rw [List.map_cons, List.mapM_cons, List.forall_mem_cons, ← ih, ← ofJson_toJson_eq_ok_iff]
    cases ofJson m.toJson with
    | error d => simp [bind, Except.bind]
    | ok m' =>
      cases (rest.map toJson).mapM ofJson with
      | error d => simp [bind, Except.bind]
      | ok rest' => simp [bind, Except.bind, pure, Except.pure]

/-- The text of a list of messages is a JSON array of them. -/
theorem read_writeList (messages : List Message) :
    Json.read (writeList messages) = .ok (.arr (messages.map toJson)) := by
  refine Json.read_compact (Json.faithful_arr ?_)
  intro j hj
  obtain ⟨m, -, rfl⟩ := List.mem_map.1 hj
  exact m.faithful_toJson

/-- A list of messages is read back from its text, message for message, just when its messages are
normalised. Nothing is asked of the contents. -/
theorem readList_writeList_iff (messages : List Message) :
    readList (writeList messages) = .ok messages ↔ ∀ m ∈ messages, m.Normalised := by
  rw [readList, read_writeList, ← mapM_ofJson_eq_ok_iff]
  show ((messages.map toJson).mapM ofJson).mapError ListDefect.badMessage = .ok messages ↔ _
  cases (messages.map toJson).mapM ofJson with
  | error d =>
    constructor
    · intro h
      cases h
    · intro h
      cases h
  | ok read =>
    show Except.ok read = Except.ok messages ↔ _
    simp only [Except.ok.injEq]

end Dialogue.Message
