import Dialogue.Model.Basic
import Dialogue.Record
import Dialogue.Settings.Basic
import Dialogue.Tool.Extraction
import Dialogue.Tool.Prompt

/-!
# Dialogue.Client.Basic — asking a model

A client has a model and settings. Every operation goes the same way: its arguments are read, then
the sampling options are made from the call and the settings, then the model is asked whether it is
available, unless the settings say not to, and only then it generates.

* Arguments that cannot be used end an operation before the model is called at all.
* A model that is not available ends it with the model's own words.
-/

namespace Dialogue

/-- A client of a model. -/
structure Client where
  model : Model
  settings : Settings := {}

/-- What one call says about sampling; what it leaves out is taken from the settings. -/
structure Sampling where
  temperature : Option Numeral := none
  maxTokens : Option Numeral := none
deriving DecidableEq, Repr

namespace Client

def source : String := "localfm.client"

def note (level : Journal.Level) (message : String) : Journal.Note :=
  ⟨level, source, message, .caller []⟩

def modelName (c : Client) : String := c.settings.modelName

/-! ## Before generating -/

/-- The options of a call. -/
def options (c : Client) (s : Sampling) : Except Fault Options :=
  let defaults := c.settings.generation
  let temperature := s.temperature <|> defaults.temperature.map .float
  let maxTokens := s.maxTokens <|> defaults.maxTokens.map .int
  (Options.make temperature maxTokens).mapError Fault.ofOptions

/-- Asks the model whether it is available. -/
def checkAvailability (c : Client) : Attempt Availability := do
  Attempt.recordCall .probe
  c.model.probe

/-- Fails unless the model is available. -/
def ensureAvailable (c : Client) : Attempt Unit := do
  let a ← c.checkAvailability
  if a.available then return
  Attempt.tell [note .warning s!"模型不可用: {a.reason.name}"]
  Attempt.fail (.failure (.unavailable a.reasonText a.reason.name))

/-- Fails unless the model is available or the settings say not to ask. -/
def guard (c : Client) : Attempt Unit :=
  if c.settings.generation.checkAvailability then c.ensureAvailable else return

/-- The options of a call to a model that is available. -/
def prepare (c : Client) (s : Sampling) : Attempt Options := do
  let options ← Attempt.ofExcept (c.options s)
  c.guard
  return options

/-- The messages that a caller passed. -/
def readMessages (inputs : List Message.Input) : Attempt (List Message) :=
  Attempt.ofExcept ((Message.readInputs inputs).mapError Fault.ofMessage)

/-- The messages that a caller passed, at least one. -/
def readConversation (inputs : List Message.Input) : Attempt (List Message) := do
  let messages ← readMessages inputs
  if messages.isEmpty then Attempt.fail (.failure .emptyConversation)
  return messages

/-- The tools that a caller passed. -/
def readTools (inputs : List ToolSpec.Input) : Attempt (List ToolSpec) :=
  Attempt.ofExcept ((ToolSpec.readInputs inputs).mapError .tool)

/-! ## Generating text -/

/-- The reply to a prompt. -/
def generate (c : Client) (prompt : String) (s : Sampling := {}) : Attempt String := do
  let options ← c.prepare s
  Attempt.recordCall (.generate prompt options)
  c.model.generate prompt options

/-- The reply to a conversation that has been read. -/
def reply (c : Client) (messages : List Message) (s : Sampling) : Attempt String := do
  let options ← c.prepare s
  Attempt.recordCall (.converse messages options)
  c.model.converse messages options

/-- The reply to a conversation. -/
def converse (c : Client) (messages : List Message.Input) (s : Sampling := {}) :
    Attempt String := do
  c.reply (← readConversation messages) s

/-! ## Calling tools -/

/-- A conversation behind the prompt that offers the tools. -/
def withToolPrompt (messages : List Message) (tools : List ToolSpec) (choice : ToolChoice) :
    List Message :=
  if tools.isEmpty then messages
  else { role := "system", content := toolPrompt tools choice } :: messages

/-- A reply that may call tools. -/
structure ToolReply where
  text : Option String
  calls : List ToolCall
deriving DecidableEq, Repr

/-- Why a reply with the given calls is finished. -/
def finishReason (calls : List ToolCall) : String :=
  if calls.isEmpty then "stop" else "tool_calls"

def ToolReply.finishReason (r : ToolReply) : String := Client.finishReason r.calls

/-- The calls in a model's text, and how many fresh ids have been used after it. -/
def extract (ids : IdSource) (next : Nat) (text : String) (tools : List ToolSpec) :
    Attempt (Tool.Extraction × Nat) := do
  Attempt.tell (Tool.extractNotes ids next text tools)
  return Tool.extract ids next text tools

/-- The reply to a conversation in which tools are offered, and how many fresh ids have been used
after it. -/
def converseWithTools (c : Client) (messages : List Message.Input) (tools : List ToolSpec.Input)
    (choice : ToolChoice) (s : Sampling) (ids : IdSource) (next : Nat) :
    Attempt (ToolReply × Nat) := do
  let tools ← readTools tools
  let messages ← readConversation messages
  let text ← c.reply (withToolPrompt messages tools choice) s
  let (found, next) ← extract ids next text tools
  return (⟨found.text, found.calls⟩, next)

/-! ## Structured replies -/

/-- What a structured reply has to be. -/
inductive Target where
  | document (schema : Json)
  | record (type : RecordType)

/-- The schema of a target. -/
def Target.schema : Target → Json
  | .document schema => schema
  | .record type => type.schema

/-- A structured reply: its text, the value that the text writes, and what was made of it. -/
structure StructuredReply where
  text : String
  value : Json
  parsed : Json
deriving Repr

/-- The failure of a value that is no record of the type. -/
def misfit (type : RecordType) (text : String) (findings : List Finding) : Failure :=
  { Failure.encoding s!"结构化结果未通过 {type.name} 校验: {Settings.causeMark}" (some text) with
    findings }

/-- What a target makes of a value. -/
def Target.parse (t : Target) (text : String) (value : Json) : Except Failure Json :=
  match t with
  | .document _ => .ok value
  | .record type => (type.check value).mapError (misfit type text)

/-- The compiled schema of a target. -/
def compile (t : Target) : Attempt Schema.Compiled := do
  Attempt.tell (Schema.compileNotes t.schema)
  Attempt.ofExcept ((Schema.compile t.schema).mapError Fault.ofSchema)

/-- A reply that keeps to a schema. -/
def generateStructured (c : Client) (prompt : String) (target : Target) (s : Sampling := {}) :
    Attempt StructuredReply := do
  let schema ← compile target
  let options ← c.prepare s
  Attempt.recordCall (.structured prompt schema options)
  let out ← c.model.structured prompt schema options
  let parsed ← Attempt.ofExcept ((target.parse out.text out.value).mapError .failure)
  return ⟨out.text, out.value, parsed⟩

end Client

end Dialogue
