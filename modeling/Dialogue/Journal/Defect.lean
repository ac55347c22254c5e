import Dialogue.Display
import Dialogue.Journal.Rotation

/-!
# Dialogue.Journal.Defect — why the journal refuses something
-/

namespace Dialogue.Journal

/-- Why the journal refuses something. -/
inductive Defect where
  /-- There is no such entry in a configuration. -/
  | unknownEntry (name : String)
  /-- An entry that every record carries is bound already. -/
  | boundTwice (name : String)
  /-- There is no such level. -/
  | unknownLevel (name : String)
  | negativeLevel (value : Int)
  | levelKind (kind : String)
  | rotation (cause : Rotation.Defect)
  /-- No level of a named logger. -/
  | unknownThreshold (name : String)
  | thresholdKind (value : Json)
deriving Repr

/-- The wording of a defect. -/
def Defect.message : Defect → String
  | .unknownEntry name => s!"LoggerConfig.__init__() got an unexpected keyword argument '{name}'"
  | .boundTwice name =>
    s!"loguru._logger.Logger.bind() got multiple values for keyword argument '{name}'"
  | .unknownLevel name => s!"Level '{name}' does not exist"
  | .negativeLevel value => s!"Invalid level value, it should be a positive integer, not: {value}"
  | .levelKind kind =>
    s!"Invalid level, it should be an integer or a string, not: '{kind}'"
  | .rotation cause => cause.message
  | .unknownThreshold name =>
    let shown := (Json.str name).quoted
    s!"Unknown level: {shown}"
  | .thresholdKind value => s!"Level not an integer or a valid string: {value.quoted}"

end Dialogue.Journal
