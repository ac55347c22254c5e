import Dialogue.Stream.Bridge

/-!
# Dialogue.Stream.Reading — reading a stream in one go

A model's output is delivered to a bridge, and a consumer reads the bridge until the stream is over,
fails, or has given as many items as the consumer wants. Whoever stops reading leaves the stream, so
that a stream which has not ended is cancelled.
-/

namespace Dialogue.Stream

/-- How reading ended. -/
inductive Ending where
  /-- The stream is over. -/
  | complete
  /-- The consumer has enough. -/
  | enough
  /-- The producer reported an error. -/
  | failed (message : String)
  /-- There is nothing more to read as yet. -/
  | pending
deriving DecidableEq, Repr

/-- What a consumer read, and the bridge that it left. -/
structure Reading (α : Type) where
  items : List α
  ending : Ending
  bridge : Bridge

namespace Reading

variable {α β : Type}

/-- Whether so many items are enough. -/
def enough (limit : Option Nat) (count : Nat) : Bool :=
  match limit with
  | some n => n ≤ count
  | none => false

/-- The first items, as many as are wanted. -/
def cut (limit : Option Nat) (items : List α) : List α :=
  match limit with
  | some n => items.take n
  | none => items

/-- The reading with other items. -/
def map (f : List α → List β) (r : Reading α) : Reading β :=
  { r with items := f r.items }

end Reading

namespace Bridge

/-- Takes in payloads one after the other. -/
def deliverAll (raws : List RawPayload) (b : Bridge) : Bridge :=
  raws.foldl (fun b raw => b.deliver raw) b

/-- The notes of several deliveries. -/
def deliverAllNotes : List RawPayload → Bridge → List Journal.Note
  | [], _ => []
  | raw :: rest, b => b.deliverNotes raw ++ (b.deliver raw).deliverAllNotes rest

/-- The number of the only consumer's calls. -/
def consumer : CallId := 0

/-- Asks for events and keeps those that are wanted, for at most the given number of calls. -/
def readLoop {α : Type} (wanted : Event → Option α) (limit : Option Nat) :
    Nat → List α → Bridge → Reading α
  | 0, items, b => ⟨items, .pending, b⟩
  | calls + 1, items, b =>
    match b.request consumer with
    | (b, .event e) =>
      match wanted e with
      | none => readLoop wanted limit calls items b
      | some item =>
        let items := items ++ [item]
        if Reading.enough limit items.length then ⟨items, .enough, b⟩
        else readLoop wanted limit calls items b
    | (b, .ended) => ⟨items, .complete, b⟩
    | (b, .failed message) => ⟨items, .failed message, b⟩
    | (b, _) => ⟨items, .pending, b⟩

/-- Reads the events that are wanted. Every call takes an event from the queue, so there are no more
calls than events, and one that finds the end. -/
def read {α : Type} (wanted : Event → Option α) (limit : Option Nat) (b : Bridge) : Reading α :=
  b.readLoop wanted limit (b.queue.length + 1) []

end Bridge

namespace Reading

variable {α : Type}

/-- Leaves the stream after reading. -/
def leave (r : Reading α) : Reading α := { r with bridge := r.bridge.leave }

/-- The notes of leaving. -/
def leaveNotes (r : Reading α) : List Journal.Note := r.bridge.leaveNotes

end Reading

end Dialogue.Stream
