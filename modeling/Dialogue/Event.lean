import Dialogue.Tool.Call

/-!
# Dialogue.Event — what a stream tells its consumer

A stream is a run of text deltas and calls that ends with one terminal event: it is done, or it
failed.
-/

namespace Dialogue

/-- One event of a stream. -/
inductive Event where
  | textDelta (delta : String)
  | toolCall (call : ToolCall)
  | error (message : String)
  | done (finishReason : Option String)
deriving DecidableEq, Repr

/-- Whether nothing can follow the event. -/
def Event.isTerminal : Event → Bool
  | .done _ => true
  | .error _ => true
  | _ => false

/-- The text that the event adds, if it adds any. -/
def Event.delta? : Event → Option String
  | .textDelta delta => some delta
  | _ => none

/-- The event as a record. -/
def Event.toJson : Event → Json
  | .textDelta delta => .obj [("type", .str "text.delta"), ("delta", .str delta)]
  | .toolCall call => .obj [("type", .str "tool_call"), ("tool_call", call.toJson)]
  | .error message => .obj [("type", .str "error"), ("message", .str message)]
  | .done reason =>
    .obj [("type", .str "done"), ("finish_reason", (reason.map Json.str).getD .null)]

/-- The end of a stream that ran its course. -/
def Event.finished : Event := .done (some "stop")

end Dialogue
