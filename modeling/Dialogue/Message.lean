import Dialogue.Json.Reader
import Dialogue.Json.Printer
import Dialogue.Failure
import Dialogue.Text.Blank
import Dialogue.Text.Case

/-!
# Dialogue.Message — the turns of a conversation

A message has a role, a content and perhaps the name of its author. The last message of a list is
the current turn. Messages cross the library's boundary as JSON objects, which are normalised on the
way in: the role is trimmed and put in small letters, a content that is no text becomes its JSON
text, and a name that is not given is dropped.
-/

namespace Dialogue

/-- One turn of a conversation. -/
structure Message where
  role : String
  content : String
  name : Option String := none
  role_ne : role ≠ "" := by decide

namespace Message

/-- Why something is not a message. -/
inductive Defect where
  | notObject
  | noRole
  | noContent
  | badRole
  | badContent
deriving DecidableEq, Repr

/-- The failure that a defect causes. -/
def Defect.failure : Defect → Failure
  | .notObject => .invalidInput "message must be a JSON object" "messages"
  | .noRole => .invalidInput "message is missing a role" "role"
  | .noContent => .invalidInput "message is missing content" "content"
  | .badRole => .invalidInput "message role must be a non-empty string" "role"
  | .badContent => .invalidInput "message content must be a string" "content"

/-- A message with the given parts; the role must not be empty. -/
def make (role content : String) (name : Option String := none) : Except Defect Message :=
  if h : role = "" then .error .badRole else .ok ⟨role, content, name, h⟩

/-- A message whose role and content are values of any kind; both must be texts. -/
def ofParts (role content : Json) (name : Option String) : Except Defect Message :=
  match role with
  | .str role =>
    if role = "" then .error .badRole
    else
      match content with
      | .str content => make role content name
      | _ => .error .badContent
  | _ => .error .badRole

/-- A content as text: a text itself, anything else its JSON text. -/
def contentText : Json → String
  | .str text => text
  | j => j.compact

/-- The message that a JSON object describes. -/
def ofJson : Json → Except Defect Message
  | .obj members =>
    match members.lookup "role" with
    | some (.str role) =>
      if Text.isBlankText role then .error .noRole
      else
        match members.lookup "content" with
        | none | some .null => .error .noContent
        | some content =>
          make (Text.lower (Text.strip role)) (contentText content)
            (((members.lookup "name").bind Json.given?).map Json.shown)
    | _ => .error .noRole
  | _ => .error .notObject

/-- A message as a caller passes it: made, or described by a JSON value. -/
inductive Input where
  | made (m : Message)
  | described (payload : Json)

/-- The message that a caller passed. -/
def Input.read : Input → Except Defect Message
  | .made m => .ok m
  | .described payload => ofJson payload

/-- The messages that a caller passed. -/
def readInputs (inputs : List Input) : Except Defect (List Message) :=
  inputs.mapM Input.read

/-- The members of a message as a JSON object; an empty name is left out. -/
def toMembers (m : Message) : Json.Members :=
  let name : Json.Members :=
    match m.name with
    | some name => if name = "" then [] else [("name", .str name)]
    | none => []
  [("role", .str m.role), ("content", .str m.content)] ++ name

/-- The message as a JSON object. -/
def toJson (m : Message) : Json := .obj m.toMembers

/-! ## Lists of messages as text -/

/-- Why a text is not a list of messages. -/
inductive ListDefect where
  /-- The value is no text at all. -/
  | notText (kind : String)
  | notJson (text : String) (flaw : Json.Flaw)
  | notArray
  | badMessage (cause : Defect)
deriving DecidableEq, Repr

/-- The messages that a text writes, one for each element of an array. -/
def readList (text : String) : Except ListDefect (List Message) :=
  match Json.read text with
  | .error flaw => .error (.notJson text flaw)
  | .ok (.arr elements) => (elements.mapM ofJson).mapError .badMessage
  | .ok _ => .error .notArray

/-- The messages that a value writes, which must be a text. -/
def readListOf : Json → Except ListDefect (List Message)
  | .str text => readList text
  | j => .error (.notText j.kindName)

/-- The text of a list of messages. -/
def writeList (messages : List Message) : String :=
  (Json.arr (messages.map toJson)).compact

end Message

end Dialogue
