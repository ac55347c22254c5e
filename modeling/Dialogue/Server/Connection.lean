import Dialogue.Model.Basic
import Dialogue.Reply
import Dialogue.Server.Worker
import Dialogue.Settings.Basic

/-!
# Dialogue.Server.Connection — a chat server as a model

A `Connection` is a server and the settings to reach it. `Connection.model` is the model behind it:
a prompt or a conversation becomes a request, and the reply's text is the answer. What the service
raises while completing is reported as a failed generation; a stream reports it to its consumer.
-/

namespace Dialogue

/-- A server and the settings to reach it. -/
structure Connection where
  settings : Settings.Runtime
  /-- The address in normal form. -/
  address : String
  server : Server

namespace Connection

def source : String := Server.Work.source

def note (level : Journal.Level) (message : String) : Journal.Note :=
  ⟨level, source, message, .caller []⟩

/-- A connection with the given settings, whose address has to be one. -/
def make (settings : Settings.Runtime) (server : Server) : Except Fault Connection :=
  match Endpoint.normalize settings.api with
  | .ok address => .ok ⟨settings, address, server⟩
  | .error d => .error (.endpoint d)

/-- The key that is sent; a server that wants none gets a stand-in. -/
def sentKey (settings : Settings.Runtime) : String :=
  let key := Text.strip settings.key
  if key = "" then "not-needed" else key

/-! ## Availability -/

/-- What is shown when the server cannot be reached. -/
def unreachableText (c : Connection) : String :=
  s!"Cannot reach the local model server at {c.address}. " ++
    "Start the server (llama.cpp, Ollama, LM Studio) or fix Runtime.api in config.yaml."

/-- What is shown when the server does not have the model. -/
def notLoadedText (c : Connection) (ids : List String) : String :=
  let offered := ", ".intercalate ids
  s!"Model '{c.settings.model}' is not loaded on {c.address}. " ++
    s!"Load or pull it first, or set Runtime.model to one of: {offered}."

/-- Whether the server has the model. A server that lists no models is trusted to have it. -/
def probe (c : Connection) : Attempt Availability :=
  match c.server.models with
  | .error e =>
    if e.isUnreachable then do
      Attempt.tell [note .debug s!"model server unreachable: {e.text}"]
      return .unavailable .featureDisabled c.unreachableText
    else do
      Attempt.tell [note .warning s!"availability check failed: {e.text}"]
      return .unavailable .unknown
        s!"The local model server at {c.address} returned an error: {e.text}"
  | .ok ids =>
    if ids.isEmpty || ids.contains c.settings.model then return .ok
    else return .unavailable .modelNotReady (c.notLoadedText ids)

/-! ## Generation -/

/-- The fault of a completion that failed: what the service raised is a failed generation, anything
else is passed on. -/
def completionFault (c : Connection) (e : Fault) : Fault :=
  if e.isService then .failure (.generation e.text c.settings.model) else e

/-- The text of the reply to a request. -/
def complete (c : Connection) (request : ChatRequest) : Attempt String := do
  Attempt.recordRequest request
  let completion ← Attempt.ofExcept ((c.server.complete request).mapError c.completionFault)
  let text := completion.text
  Attempt.tell [note .debug s!"completion received ({text.length} chars)"]
  return text

/-- The request for a reply to a prompt. -/
def promptRequest (c : Connection) (prompt : String) (options : Options) : ChatRequest where
  model := c.settings.model
  turns := [.user prompt]
  options

/-- The request for the next turn of a conversation. -/
def historyRequest? (c : Connection) (messages : List Message) (options : Options) :
    Option ChatRequest :=
  (ChatTurn.ofMessages? c.settings.flattenHistory messages).map fun turns =>
    { model := c.settings.model, turns, options }

/-- The request for a stream. -/
def streamRequest (c : Connection) (prompt : String) (history : List Message) (options : Options) :
    ChatRequest where
  model := c.settings.model
  turns := ChatTurn.ofTranscript c.settings.flattenHistory (history.map .ofMessage) prompt
  options
  streaming := true

/-- The request for a reply that keeps to a schema. -/
def structuredRequest (c : Connection) (prompt : String) (schema : Schema.Compiled)
    (options : Options) : ChatRequest :=
  { c.promptRequest prompt options with
    format := some (ChatRequest.schemaFormat schema.name schema.toJson) }

def generate (c : Connection) (prompt : String) (options : Options) : Attempt String :=
  c.complete (c.promptRequest prompt options)

def converse (c : Connection) (messages : List Message) (options : Options) : Attempt String :=
  match c.historyRequest? messages options with
  | none => Attempt.fail (.failure .emptyConversation)
  | some request => c.complete request

/-- The work of the worker that reads a stream. -/
def work (c : Connection) (prompt : String) (history : List Message) (options : Options)
    (stop : Server.StopSignal) : Attempt Server.Work := do
  let request := c.streamRequest prompt history options
  Attempt.recordRequest request
  let work := Server.Work.run (c.server.stream request) stop
  Attempt.tell work.notes
  return work

def stream (c : Connection) (prompt : String) (history : List Message) (options : Options) :
    Attempt Model.Output := do
  let work ← c.work prompt history options .never
  return ⟨work.payloads, true⟩

def structured (c : Connection) (prompt : String) (schema : Schema.Compiled) (options : Options) :
    Attempt Model.Structured := do
  let text ← c.complete (c.structuredRequest prompt schema options)
  let value ← Attempt.ofExcept ((Reply.decode (some text)).mapError .failure)
  return ⟨text, value⟩

/-- Leaves the server; true unless that fails. -/
def close (c : Connection) : Attempt Bool :=
  match c.server.closeFailure with
  | none => return true
  | some e => do
    Attempt.tell [note .debug s!"closing OpenAI client failed: {e.text}"]
    return false

/-- The model behind a connection. -/
def model (c : Connection) : Model where
  probe := c.probe
  languages := c.settings.languages
  generate := c.generate
  converse := c.converse
  stream := c.stream
  structured := c.structured

end Connection

end Dialogue
