import Dialogue.Event
import Dialogue.Journal.Note
import Dialogue.Stream.Payload

/-!
# Dialogue.Stream.Bridge — from pushed payloads to awaited events

A bridge stands between a producer that pushes the whole text again and again and one consumer that
asks for events. Payloads become events: the part of a text beyond the last one is a delta, and the
first terminal payload is the last event. An event goes to the call that waits for it, or into a
queue when none does.

A call is known by a number. `request` begins one: it is answered at once, or it waits. An answer
for a waiting call is put into `handed`, and the call takes it when it goes on (`resume`), which may
be after further deliveries. `abandon` gives up a call before it goes on. `cancel` ends the stream
from the consumer's side.

* A payload is dropped once a terminal payload or a cancellation has been processed.
* Nothing is put into a queue while a call waits that has not been abandoned.
* A cancelled bridge has no queue, and its stop signal is set.
-/

namespace Dialogue.Stream

/-- The number of a call for the next event. -/
abbrev CallId := Nat

/-- A call that waits for an event. -/
structure Waiter where
  call : CallId
  abandoned : Bool := false
deriving DecidableEq, Repr

/-- An answer on its way to a call that waited: an event, or none after a cancellation. -/
structure Handed where
  call : CallId
  answer : Option Event
  abandoned : Bool := false
deriving DecidableEq, Repr

/-- The state of a stream between its producer and its consumer. -/
structure Bridge where
  queue : List Event := []
  waiter : Option Waiter := none
  handed : List Handed := []
  /-- The last text received. -/
  text : List Char := []
  /-- A terminal payload has been received. -/
  terminal : Bool := false
  /-- The consumer has seen the end. -/
  finished : Bool := false
  cancelled : Bool := false
  /-- The signal that asks the producer to stop. -/
  stopSignal : Bool := false
  /-- Whether a cancellation is reported to a hook, and how often it was. -/
  hasHook : Bool := false
  hookRuns : Nat := 0
deriving DecidableEq, Repr

namespace Bridge

/-! ## Producer side -/

/-- Gives an event to the waiting call, or to the queue when no call can take it. -/
def push (e : Event) (b : Bridge) : Bridge :=
  match b.waiter with
  | some ⟨call, false⟩ => { b with waiter := none, handed := b.handed ++ [⟨call, some e, false⟩] }
  | _ => { b with queue := b.queue ++ [e] }

/-- The part of a text beyond the text received before, counted in characters. -/
def deltaOf (b : Bridge) (text : List Char) : List Char := text.drop b.text.length

/-- Takes in one payload. -/
def deliver (raw : RawPayload) (b : Bridge) : Bridge :=
  if b.terminal || b.cancelled then b
  else
    match Payload.ofRaw raw with
    | .done => { b with terminal := true }.push .finished
    | .error message => { b with terminal := true }.push (.error message)
    | .text text =>
      let delta := b.deltaOf text
      let b := { b with text }
      if delta.isEmpty then b else b.push (.textDelta (String.ofList delta))

/-! ## Consumer side -/

/-- What a call for the next event comes to. -/
inductive Answer where
  | event (e : Event)
  /-- The stream is over. -/
  | ended
  /-- The producer reported an error. -/
  | failed (message : String)
  /-- Another call is waiting. -/
  | busy
  /-- The call waits. -/
  | waiting
  /-- The call was abandoned. -/
  | abandoned
deriving DecidableEq, Repr

/-- Hands an event to the consumer; a terminal event ends the stream, an error as a failure. -/
def consume (e : Event) (b : Bridge) : Bridge × Answer :=
  match e with
  | .error message => ({ b with finished := true }, .failed message)
  | .done reason => ({ b with finished := true }, .event (.done reason))
  | e => (b, .event e)

/-- Begins a call for the next event. -/
def request (call : CallId) (b : Bridge) : Bridge × Answer :=
  if b.waiter.isSome then (b, .busy)
  else if b.finished then (b, .ended)
  else
    match b.queue with
    | e :: rest => { b with queue := rest }.consume e
    | [] => ({ b with waiter := some ⟨call, false⟩ }, .waiting)

/-- The bridge without the wait of a call, if it is the one that waits. -/
def forget (call : CallId) (b : Bridge) : Bridge :=
  match b.waiter with
  | some w => if w.call = call then { b with waiter := none } else b
  | none => b

/-- A call that waited goes on: with the answer it was handed, or abandoned. -/
def resume (call : CallId) (b : Bridge) : Bridge × Answer :=
  match b.handed.find? (·.call == call) with
  | some h =>
    let b := { b with handed := b.handed.filter (·.call != call) }
    if h.abandoned then (b, .abandoned)
    else
      match h.answer with
      | some e => b.consume e
      | none => (b, .ended)
  | none => (b.forget call, .abandoned)

/-- Whether a call still waits for its answer. -/
def isWaiting (call : CallId) (b : Bridge) : Bool :=
  b.waiter == some ⟨call, false⟩

/-- Gives up a call that has not gone on: its wait can no longer be answered, and an answer that it
was handed already is lost. -/
def abandon (call : CallId) (b : Bridge) : Bridge :=
  if b.isWaiting call then { b with waiter := some ⟨call, true⟩ }
  else
    { b with
      handed := b.handed.map fun h =>
        if h.call = call then { h with abandoned := true } else h }

/-- Ends the stream from the consumer's side: the queue is dropped and a waiting call is answered
with nothing. -/
def cancel (b : Bridge) : Bridge :=
  if b.cancelled then b
  else
    let handed :=
      match b.waiter with
      | some ⟨call, false⟩ => b.handed ++ [⟨call, none, false⟩]
      | _ => b.handed
    { b with
      queue := [], waiter := none, handed, finished := true, cancelled := true, stopSignal := true
      hookRuns := if b.hasHook then b.hookRuns + 1 else b.hookRuns }

/-- Leaves the stream: one that has not ended is cancelled. -/
def leave (b : Bridge) : Bridge :=
  if b.finished then b else b.cancel

/-! ## What a bridge has to tell -/

def source : String := "localfm.native.stream_bridge"

/-- The notes of a delivery. -/
def deliverNotes (raw : RawPayload) (b : Bridge) : List Journal.Note :=
  if b.terminal || b.cancelled then
    [⟨.debug, source, "stream payload dropped after stream end", .caller []⟩]
  else
    match Payload.ofRaw raw with
    | .text text =>
      if b.text.isPrefixOf text then []
      else
        [⟨.warning, source, "cumulative stream payload is not prefix-stable " ++
          s!"(previous={b.text.length} chars, current={text.length} chars)", .caller []⟩]
    | _ => []

/-- The notes of a cancellation. -/
def cancelNotes (b : Bridge) : List Journal.Note :=
  if b.cancelled then []
  else
    [⟨.debug, source, s!"stream cancelled by consumer, dropped {b.queue.length} queued events",
      .caller []⟩]

/-- The notes of leaving. -/
def leaveNotes (b : Bridge) : List Journal.Note :=
  if b.finished then [] else b.cancelNotes

/-- The note of a payload that finds its loop closed. -/
def closedNote : Journal.Note :=
  ⟨.debug, source, "stream payload dropped, event loop is closed", .caller []⟩

end Bridge

end Dialogue.Stream
