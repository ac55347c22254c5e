import Dialogue.Fault
import Dialogue.Journal.Note
import Dialogue.Model.Call
import Dialogue.Server.Request

/-!
# Dialogue.Attempt — operations that leave a trace

An `Attempt` is an operation that has been carried out: its result, or the fault that ended it, and
the trace of what it did until then: the calls that a model received, the requests that a server
received, and the notes for the journal, each oldest first. Attempts in a row stop at the first
fault, and their traces add up.
-/

namespace Dialogue

/-- What an operation did. -/
structure Trace where
  calls : List Model.Call := []
  requests : List ChatRequest := []
  notes : List Journal.Note := []

/-- First one trace, then the other. -/
def Trace.append (a b : Trace) : Trace where
  calls := a.calls ++ b.calls
  requests := a.requests ++ b.requests
  notes := a.notes ++ b.notes

instance : Append Trace := ⟨Trace.append⟩

/-- An operation that has been carried out. -/
structure Attempt (α : Type) where
  result : Except Fault α
  trace : Trace := {}

namespace Attempt

variable {α β : Type}

/-- An operation that does nothing. -/
def pure (a : α) : Attempt α := ⟨.ok a, {}⟩

/-- One operation and, unless it ended with a fault, the next. -/
def bind (x : Attempt α) (f : α → Attempt β) : Attempt β :=
  match x.result with
  | .error e => ⟨.error e, x.trace⟩
  | .ok a => ⟨(f a).result, x.trace ++ (f a).trace⟩

instance : Monad Attempt where
  pure := pure
  bind := bind

/-- An operation that fails. -/
def fail (e : Fault) : Attempt α := ⟨.error e, {}⟩

/-- An operation that only has a result. -/
def ofExcept (r : Except Fault α) : Attempt α := ⟨r, {}⟩

/-- An operation that only gives notes. -/
def tell (notes : List Journal.Note) : Attempt Unit := ⟨.ok (), { notes }⟩

/-- An operation that records the call of a model. -/
def recordCall (call : Model.Call) : Attempt Unit := ⟨.ok (), { calls := [call] }⟩

/-- An operation that records the request to a server. -/
def recordRequest (request : ChatRequest) : Attempt Unit := ⟨.ok (), { requests := [request] }⟩

/-- The operation with more entries bound in the context of its notes. -/
def within (entries : Json.Members) (x : Attempt α) : Attempt α :=
  { x with trace := { x.trace with notes := x.trace.notes.map (·.bind entries) } }

end Attempt

end Dialogue
