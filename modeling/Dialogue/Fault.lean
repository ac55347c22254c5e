import Dialogue.Failure
import Dialogue.Endpoint
import Dialogue.File.Store
import Dialogue.Journal.Defect
import Dialogue.Options
import Dialogue.Message
import Dialogue.Schema.Compile
import Dialogue.Tool.Registry

/-!
# Dialogue.Fault — everything an operation can end with besides a result

A `Failure` is what the library reports about its own work. The other faults come from below it: a
value that does not fit a record, a misuse of one of the library's types, or whatever a model server
raised. Each has a name and a text; the text of an error that is passed on is its name when there is
no other.
-/

namespace Dialogue

/-- What a chat service raises. -/
inductive ServiceFault where
  | general
  | connection
  | timeout
  /-- Any other kind, by its name. -/
  | other (name : String)
deriving DecidableEq, Repr

/-- What anything below the library may raise. -/
inductive PlainFault where
  | state
  | value
  | key
  /-- Any other kind, by its name. -/
  | other (name : String)
deriving DecidableEq, Repr

/-- Why an operation has no result. -/
inductive Fault where
  | failure (cause : Failure)
  | invalid (findings : List Finding)
  | tool (cause : ToolSpec.Defect)
  /-- A value without members was used like an object. -/
  | noMembers (kind : String)
  | taken (cause : ToolRegistry.Taken)
  | endpoint (cause : Endpoint.Defect)
  /-- A number that does not fit into double precision. -/
  | tooLarge
  | digitLimit (text : String) (digits : Nat)
  /-- A value that names no reason of unavailability. -/
  | unknownReason (value : Json)
  /-- A second consumer asked for an event while the first was waiting. -/
  | busy
  /-- The text feed was asked for a delta, or was to be closed, while a task used it. -/
  | feedBusy
  | feedClosing
  | journal (cause : Journal.Defect)
  | file (cause : File.Trouble)
  /-- There is no file of settings at a path. -/
  | noSettings (path : String)
  | service (kind : ServiceFault) (message : String)
  | plain (kind : PlainFault) (message : String)
deriving Repr

namespace Fault

def ServiceFault.name : ServiceFault → String
  | .general => "OpenAIError"
  | .connection => "APIConnectionError"
  | .timeout => "APITimeoutError"
  | .other name => name

def PlainFault.name : PlainFault → String
  | .state => "RuntimeError"
  | .value => "ValueError"
  | .key => "KeyError"
  | .other name => name

/-- The name of a tool defect's kind of error. -/
def toolDefectName : ToolSpec.Defect → String
  | .unnamed => "ValueError"
  | .noMembers _ => "AttributeError"
  | .notIterable _ => "TypeError"
  | .entryLength .. => "ValueError"
  | .entryKind _ => "TypeError"
  | .unusableKey _ => "TypeError"

/-- The name of a journal defect's kind of error: a value is wrong, or its kind is. -/
def journalDefectName : Journal.Defect → String
  | .unknownEntry _ => "TypeError"
  | .boundTwice _ => "TypeError"
  | .levelKind _ => "TypeError"
  | .thresholdKind _ => "TypeError"
  | .rotation (.rotationKind _) => "TypeError"
  | .rotation (.retentionKind _) => "TypeError"
  | _ => "ValueError"

/-- The name of a file trouble's kind of error. -/
def fileTroubleName : File.Trouble → String
  | .missing _ => "FileNotFoundError"
  | .folder _ => "IsADirectoryError"
  | .notFolder _ => "NotADirectoryError"

/-- The name of a fault. -/
def name : Fault → String
  | .failure f => f.kind.name
  | .invalid _ => "ValidationError"
  | .tool d => toolDefectName d
  | .noMembers _ => "AttributeError"
  | .taken _ => "ValueError"
  | .endpoint _ => "ValueError"
  | .tooLarge => "OverflowError"
  | .digitLimit .. => "ValueError"
  | .unknownReason _ => "ValueError"
  | .busy => "RuntimeError"
  | .feedBusy => "RuntimeError"
  | .feedClosing => "RuntimeError"
  | .journal d => journalDefectName d
  | .file t => fileTroubleName t
  | .noSettings _ => "FileNotFoundError"
  | .service k _ => ServiceFault.name k
  | .plain k _ => PlainFault.name k

/-- The text of a fault. A missing key shows the key in quotes, and a timeout says so whatever it
was raised with. -/
def text : Fault → String
  | .failure f => f.text
  | .invalid _ => ""
  | .tool d => d.message
  | .noMembers kind => (ToolSpec.Defect.noMembers kind).message
  | .taken t => t.message
  | .endpoint d => d.message
  | .tooLarge => "int too large to convert to float"
  | .digitLimit text digits => Json.Flaw.message text (.digitLimit digits)
  | .unknownReason value => s!"{value.quoted} is not a valid AvailabilityReason"
  | .busy => "StreamBridge supports one consumer; next_event() already pending"
  | .feedBusy => "anext(): asynchronous generator is already running"
  | .feedClosing => "aclose(): asynchronous generator is already running"
  | .journal d => d.message
  | .file t => t.message
  | .noSettings path => s!"配置文件不存在: {path}"
  | .service .timeout _ => "Request timed out."
  | .service _ message => message
  | .plain .key message => (Json.str message).quoted
  | .plain _ message => message

/-- The text of a fault, or its name when the text is empty. -/
def textOrName (f : Fault) : String :=
  if f.text = "" then f.name else f.text

/-- Whether a chat service raised the fault. -/
def isService : Fault → Bool
  | .service .. => true
  | _ => false

/-- Whether the fault says that a chat service could not be reached. -/
def isUnreachable : Fault → Bool
  | .service .connection _ => true
  | .service .timeout _ => true
  | _ => false

/-! ## Faults of the parts -/

def ofMessage (d : Message.Defect) : Fault := .failure d.failure

def ofSchema (d : Schema.Defect) : Fault := .failure d.failure

/-- The fault of options that cannot be used. -/
def ofOptions : Options.Defect → Fault
  | .tooLarge => .tooLarge
  | .outOfRange t =>
    let shown := t.toJson.shown
    .failure (.invalidInput s!"temperature must be within [0, 1], got {shown}" "temperature")

/-- The fault of a text that is no list of messages. A number with too many digits is not counted
among the malformed texts. -/
def ofMessageList : Message.ListDefect → Fault
  | .notText kind =>
    .failure (.invalidInput
      s!"malformed message JSON: the JSON object must be str, bytes or bytearray, not {kind}"
      "messages")
  | .notJson text (.digitLimit digits) => .digitLimit text digits
  | .notJson text flaw =>
    .failure (.invalidInput s!"malformed message JSON: {flaw.message text}" "messages")
  | .notArray => .failure (.invalidInput "message JSON must be an array" "messages")
  | .badMessage cause => ofMessage cause

end Fault

end Dialogue
