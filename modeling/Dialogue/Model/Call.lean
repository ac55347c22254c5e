import Dialogue.Options
import Dialogue.Message
import Dialogue.Schema.Compile

/-!
# Dialogue.Model.Call — calls that a model receives

A model is asked whether it is available, or to generate in one of four ways. Options are recorded
as they were given.
-/

namespace Dialogue

/-- One call of a model. -/
inductive Model.Call where
  | probe
  | generate (prompt : String) (options : Options)
  | converse (messages : List Message) (options : Options)
  | stream (prompt : String) (history : List Message) (options : Options)
  | structured (prompt : String) (schema : Schema.Compiled) (options : Options)

end Dialogue
