import Dialogue.Attempt
import Dialogue.Availability
import Dialogue.Stream.Payload

/-!
# Dialogue.Model.Basic — the boundary to a language model

A `Model` is whatever can answer: it tells whether it is available and which languages it knows, and
generates text, a stream of payloads, or a structured value. A stream that has started does not
fail: its producer reports the whole text so far again and again, then an error or the end.
-/

namespace Dialogue

/-- What a model pushes into a stream. -/
structure Model.Output where
  payloads : List Stream.RawPayload
  /-- Whether a worker pushes, which has no context of its own. -/
  fromWorker : Bool := true

/-- A structured reply: its text and the value that the text writes. -/
structure Model.Structured where
  text : String
  value : Json
deriving Repr

/-- A language model. -/
structure Model where
  probe : Attempt Availability
  languages : List String
  generate : String → Options → Attempt String
  converse : List Message → Options → Attempt String
  /-- A stream for a prompt after a history. -/
  stream : String → List Message → Options → Attempt Model.Output
  structured : String → Schema.Compiled → Options → Attempt Model.Structured

end Dialogue
