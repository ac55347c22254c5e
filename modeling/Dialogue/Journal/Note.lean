import Dialogue.Journal.Level
import Dialogue.Json.Value

/-!
# Dialogue.Journal.Note — what an operation has to tell

A `Note` is one message on its way to the journal. Operations give their notes beside their result,
oldest first; whether and where a note is written is for the journal to decide.
-/

namespace Dialogue.Journal

/-- In which context a note is written. -/
inductive Scope where
  /-- The context of the caller, with more entries bound. -/
  | caller (bound : Json.Members)
  /-- No context: the note comes from a worker that was started without one. -/
  | detached
deriving Repr

/-- One message for the journal. -/
structure Note where
  level : Level
  /-- The part of the library that speaks. -/
  source : String
  message : String
  scope : Scope := .caller []
deriving Repr

/-- The note with more entries bound in its context; a detached note has no context to bind. -/
def Note.bind (entries : Json.Members) (n : Note) : Note :=
  match n.scope with
  | .caller bound => { n with scope := .caller (entries ++ bound) }
  | .detached => n

/-- The note as a worker without context gives it. -/
def Note.detach (n : Note) : Note :=
  { n with scope := .detached }

end Dialogue.Journal
