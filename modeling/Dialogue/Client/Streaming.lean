import Dialogue.Client.Basic
import Dialogue.Stream.Reading

/-!
# Dialogue.Client.Streaming — streams of a model's reply

`Client.stream` starts a stream and gives its bridge. The readers above it read the bridge until the
stream is over or the caller has as many items as it wants, and then leave it:

* `readEvents` reads events;
* `streamText` reads the text deltas;
* `streamChat` reads the deltas of a conversation, and after the last one the calls in the whole
  text and the end.
-/

namespace Dialogue.Client

open Dialogue.Stream

/-- The notes of delivering a model's output. -/
def outputNotes (out : Model.Output) : List Journal.Note :=
  let notes := Bridge.deliverAllNotes out.payloads {}
  if out.fromWorker then notes.map (·.detach) else notes

/-- Starts the stream of a reply after a history that has been read. -/
def openStream (c : Client) (prompt : String) (history : List Message) (s : Sampling) :
    Attempt Bridge := do
  let options ← c.prepare s
  Attempt.recordCall (.stream prompt history options)
  let out ← c.model.stream prompt history options
  Attempt.tell (outputNotes out)
  return Bridge.deliverAll out.payloads {}

/-- Starts the stream of a reply to a prompt. -/
def stream (c : Client) (prompt : String) (history : List Message.Input := [])
    (s : Sampling := {}) : Attempt Bridge := do
  c.openStream prompt (← readMessages history) s

/-- Starts the stream of a reply to a conversation that has been read; the last message is the
prompt. -/
def streamConversation (c : Client) (messages : List Message) (s : Sampling) : Attempt Bridge :=
  match messages.getLast? with
  | none => Attempt.fail (.failure .emptyConversation)
  | some last => c.openStream last.content messages.dropLast s

/-- Leaves the stream that was read. -/
def leaveStream {α : Type} (r : Reading α) : Attempt (Reading α) := do
  Attempt.tell r.leaveNotes
  return r.leave

/-- Reads the events of a bridge. -/
def readEvents (limit : Option Nat) (b : Bridge) : Attempt (Reading Event) :=
  leaveStream (b.read some limit)

/-- The text deltas of a reply to a prompt. -/
def streamText (c : Client) (prompt : String) (s : Sampling) (limit : Option Nat) :
    Attempt (Reading String) := do
  let b ← c.stream prompt [] s
  leaveStream (b.read Event.delta? limit)

/-! ## Conversations -/

/-- The deltas of a stream. -/
def readDeltas (limit : Option Nat) (b : Bridge) : Reading Event :=
  b.read (fun e => e.delta?.map .textDelta) limit

/-- The events after the last delta. -/
def closingEvents (calls : List ToolCall) : List Event :=
  calls.map .toolCall ++ [.done (some (finishReason calls))]

/-- Reads a conversation's stream, and how many fresh ids have been used after it. The calls are
looked for only once the stream is over. -/
def readChat (tools : List ToolSpec) (limit : Option Nat) (ids : IdSource) (next : Nat)
    (b : Bridge) : Attempt (Reading Event × Nat) :=
  let r := readDeltas limit b
  match r.ending with
  | .complete => do
    let (found, next) ← extract ids next (String.ofList r.bridge.text) tools
    let r ← leaveStream (r.map fun ds => Reading.cut limit (ds ++ closingEvents found.calls))
    return (r, next)
  | _ => do
    let r ← leaveStream r
    return (r, next)

/-- The events of a reply to a conversation in which tools may be offered, and how many fresh ids
have been used after it. -/
def streamChat (c : Client) (messages : List Message.Input) (tools : List ToolSpec.Input)
    (choice : ToolChoice) (s : Sampling) (limit : Option Nat) (ids : IdSource) (next : Nat) :
    Attempt (Reading Event × Nat) := do
  let tools ← readTools tools
  let messages ← readConversation messages
  let b ← c.streamConversation (withToolPrompt messages tools choice) s
  readChat tools limit ids next b

end Dialogue.Client
