import Dialogue.Fault
import Dialogue.Proofs.Json.Limit
import Dialogue.Proofs.Message.RoundTrip
import Dialogue.Proofs.Text.Trimming
import Mathlib.Data.List.Forall2

/-!
# Dialogue.Proofs.Message.Refusal — texts that are no list of messages

A text is read as a list of messages just when it writes an array each of whose elements `Describes`
a message, and then the list has one message for each element. Every other text is to be refused as
wrong input. One refusal is of another kind: a number with too many digits, which is met while the
text is read as JSON.

* `ofJson_eq_ok_iff` — the values that are messages, and which ones they are;
* `readList_eq_ok_iff` — the same for texts;
* `ofMessageList_eq` — what is reported of a text that is no list of messages;
* `listedOrRefused_iff` — the texts for which one of the two happens: those without such a number.
-/

namespace Dialogue.Message

/-- A JSON value describes a message: it is an object whose role is a text that is not blank and
whose content is given. The role is trimmed and put in small letters, and a content that is no text
becomes its JSON text. -/
def Describes (element : Json) (m : Message) : Prop :=
  ∃ members role content, element = .obj members ∧
    members.lookup "role" = some (.str role) ∧ Text.isBlankText role = false ∧
    members.lookup "content" = some content ∧ content ≠ .null ∧
    m.role = Text.lower (Text.strip role) ∧ m.content = contentText content ∧
    m.name = ((members.lookup "name").bind Json.given?).map Json.shown

/-! ## One message -/

/-- A value is read as a message just when it describes it. -/
theorem ofJson_eq_ok_iff {element : Json} {m : Message} :
    ofJson element = .ok m ↔ Describes element m := by
  constructor
  · intro h
    unfold ofJson at h
    split at h
    · rename_i members
      split at h
      · rename_i role hrole
        split at h
        · contradiction
        · rename_i hblank
          split at h
          · contradiction
          · contradiction
          · rename_i content hnull hcontent
            obtain ⟨heq, htext, hname⟩ := make_eq_ok_iff.1 h
            exact ⟨members, role, content, rfl, hrole, Bool.eq_false_iff.2 hblank, hcontent, hnull,
              heq.symm, htext.symm, hname.symm⟩
      · contradiction
    · contradiction
  · rintro ⟨members, role, content, rfl, hrole, hblank, hcontent, hgiven, heq, htext, hname⟩
    simp only [ofJson, hrole, hblank, hcontent, Bool.false_eq_true, if_false]
    exact make_eq_ok_iff.2 ⟨heq.symm, htext.symm, hname.symm⟩

/-- The role of a message that a value describes has no blanks around it. -/
theorem Describes.strip_role {element : Json} {m : Message} (h : Describes element m) :
    Text.strip m.role = m.role := by
  obtain ⟨-, role, -, -, -, -, -, -, hrole, -, -⟩ := h
  rw [hrole]
  exact Text.strip_lower_strip role

/-! ## Lists -/

theorem mapM_ofJson_eq_ok {elements : List Json} {messages : List Message} :
    elements.mapM ofJson = .ok messages ↔ List.Forall₂ Describes elements messages := by
  induction elements generalizing messages with
  | nil =>
    rw [List.mapM_nil, List.forall₂_nil_left_iff]
    simp [pure, Except.pure, eq_comm]
  | cons element rest ih =>
    rw [List.mapM_cons]
    cases messages with
    | nil =>
      rw [List.forall₂_nil_right_iff]
      cases ofJson element <;> cases rest.mapM ofJson <;>
        simp [bind, Except.bind, pure, Except.pure]
    | cons m others =>
      rw [List.forall₂_cons, ← ih, ← ofJson_eq_ok_iff]
      cases ofJson element <;> cases rest.mapM ofJson <;>
        simp [bind, Except.bind, pure, Except.pure]

/-- The roles of the messages that values describe are trimmed and not empty. -/
theorem roles_of_describes {elements : List Json} {messages : List Message}
    (h : List.Forall₂ Describes elements messages) :
    ∀ m ∈ messages, m.role ≠ "" ∧ Text.strip m.role = m.role := by
  induction h with
  | nil => exact List.forall_mem_nil _
  | cons hm _ ih => exact List.forall_mem_cons.2 ⟨⟨Message.role_ne _, hm.strip_role⟩, ih⟩

/-- A text is read as a list of messages just when it writes an array that describes them, one for
each element. -/
theorem readList_eq_ok_iff {text : String} {messages : List Message} :
    readList text = .ok messages ↔
      ∃ elements, Json.read text = .ok (.arr elements) ∧
        List.Forall₂ Describes elements messages := by
  unfold readList
  split
  · rename_i flaw hread
    simp [hread]
  · rename_i elements hread
    have hmapped : (elements.mapM ofJson).mapError ListDefect.badMessage = .ok messages ↔
        elements.mapM ofJson = .ok messages := by
      cases elements.mapM ofJson <;> simp [Except.mapError]
    rw [hmapped, mapM_ofJson_eq_ok, hread]
    constructor
    · intro h
      exact ⟨elements, rfl, h⟩
    · rintro ⟨other, heq, h⟩
      obtain rfl := Json.arr.inj (Except.ok.inj heq)
      exact h
  · rename_i j hother hread
    rw [hread]
    refine iff_of_false (by simp) ?_
    rintro ⟨elements, heq, -⟩
    exact hother elements (Except.ok.inj heq)

/-! ## What is reported -/

/-- A value that is no message is wrong input. -/
theorem Defect.kind_failure (d : Defect) : d.failure.kind = .invalidInput := by
  cases d <;> rfl

/-- What is reported of a text that is no list of messages is wrong input, unless a number in it has
too many digits. -/
theorem ofMessageList_eq (d : ListDefect) :
    (∃ f, Fault.ofMessageList d = .failure f ∧ f.kind = .invalidInput) ∨
      ∃ text n, d = .notJson text (.digitLimit n) := by
  cases d with
  | notText kind => exact Or.inl ⟨_, rfl, rfl⟩
  | notJson text flaw =>
    cases flaw with
    | misread problem remaining => exact Or.inl ⟨_, rfl, rfl⟩
    | digitLimit n => exact Or.inr ⟨text, n, rfl⟩
  | notArray => exact Or.inl ⟨_, rfl, rfl⟩
  | badMessage cause => exact Or.inl ⟨_, rfl, cause.kind_failure⟩

/-- Only a number with too many digits is reported as one. -/
theorem readList_digitLimit_iff {text other : String} {n : Nat} :
    readList text = .error (.notJson other (.digitLimit n)) ↔
      other = text ∧ Json.read text = .error (.digitLimit n) := by
  unfold readList
  split
  · rename_i flaw hread
    simp [hread, eq_comm]
  · rename_i elements hread
    rw [hread]
    cases elements.mapM ofJson <;> simp [Except.mapError]
  · rename_i j _ hread
    rw [hread]
    simp

/-- A text is read as a list with one message for each element of the array that it writes, each
with a role that is not empty and has no blanks around it; or it is refused as wrong input. -/
def ListedOrRefused (text : String) : Prop :=
  (∃ elements messages, Json.read text = .ok (.arr elements) ∧ readList text = .ok messages ∧
    List.Forall₂ Describes elements messages ∧
    ∀ m ∈ messages, m.role ≠ "" ∧ Text.strip m.role = m.role) ∨
  ∃ d f, readList text = .error d ∧ Fault.ofMessageList d = .failure f ∧ f.kind = .invalidInput

/-- A text with a number that has too many digits is neither. -/
theorem not_listedOrRefused {text : String} {n : Nat}
    (hlimit : Json.read text = .error (.digitLimit n)) : ¬ ListedOrRefused text := by
  rintro (⟨elements, messages, hread, -, -, -⟩ | ⟨d, f, hd, hfault, -⟩)
  · rw [hread] at hlimit
    contradiction
  · obtain rfl := Except.error.inj (hd.symm.trans (readList_digitLimit_iff.2 ⟨rfl, hlimit⟩))
    contradiction

/-- Every text is read as a list of messages or refused as wrong input, unless reading it meets a
number with more digits than are read. Such a text has that many digits in a row, and what is
reported of it is not counted as wrong input. -/
theorem listedOrRefused_iff (text : String) :
    (ListedOrRefused text ↔ ∀ n, Json.read text ≠ .error (.digitLimit n)) ∧
    ∀ n, Json.read text = .error (.digitLimit n) →
      Json.maxDigits < n ∧ Json.HasDigits n text.toList ∧
      ∃ d, readList text = .error d ∧ Fault.ofMessageList d = .digitLimit text n ∧
        (Fault.ofMessageList d).name = "ValueError" := by
  refine ⟨⟨fun h n hlimit => not_listedOrRefused hlimit h, ?_⟩, ?_⟩
  · intro hlimit
    cases hresult : readList text with
    | ok messages =>
      obtain ⟨elements, hread, hall⟩ := readList_eq_ok_iff.1 hresult
      exact Or.inl ⟨elements, messages, hread, hresult, hall, roles_of_describes hall⟩
    | error d =>
      rcases ofMessageList_eq d with ⟨f, hfault, hkind⟩ | ⟨other, n, rfl⟩
      · exact Or.inr ⟨d, f, hresult, hfault, hkind⟩
      · exact absurd (readList_digitLimit_iff.1 hresult).2 (hlimit n)
  · intro n hlimit
    obtain ⟨hlong, hdigits⟩ := Json.digits_of_digitLimit hlimit
    exact ⟨hlong, hdigits, _, readList_digitLimit_iff.2 ⟨rfl, hlimit⟩, rfl, rfl⟩

/-- One message, with a role that is to be trimmed and a content that is no text. -/
def userText : String := "[\x7b\"role\": \" User\", \"content\": [1]\x7d]"

/-- An array of one number, one digit longer than any that is read. -/
def longNumber : String :=
  String.ofList ('[' :: '1' :: (List.replicate Json.maxDigits '1' ++ [']']))

theorem read_longNumber : Json.read longNumber = .error (.digitLimit (Json.maxDigits + 1)) := by
  have hdigits : ∀ c ∈ List.replicate Json.maxDigits '1', Json.isDigit c = true := fun c hc => by
    rw [List.eq_of_mem_replicate hc]
    decide
  have hread : Json.read longNumber =
      .error (.digitLimit ((List.replicate Json.maxDigits '1').length + 1)) :=
    Json.read_tooLong (by decide) (by decide) hdigits (by rw [List.length_replicate]) (by decide) []
  rwa [List.length_replicate] at hread

/-- Both sides occur: a message is read from one text, and the other one is too long a number. -/
theorem listedOrRefused_iff_userText :
    ListedOrRefused userText ∧ Json.HasDigits (Json.maxDigits + 1) longNumber.toList := by
  have hread : (Json.read userText).isOk = true := by decide +kernel
  refine ⟨(listedOrRefused_iff userText).1.2 ?_,
    ((listedOrRefused_iff longNumber).2 _ read_longNumber).2.1⟩
  intro n hlimit
  rw [hlimit] at hread
  contradiction

/-- An array of one number that is too long is no list of messages, but it is not refused as wrong
input. -/
theorem longNumber_not_refused : ¬ ListedOrRefused longNumber :=
  not_listedOrRefused read_longNumber

end Dialogue.Message
