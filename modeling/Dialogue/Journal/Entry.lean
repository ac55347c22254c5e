import Dialogue.Display

/-!
# Dialogue.Journal.Entry — records as they are written

An entry shows its level, who speaks, the message and the context in which it was said. A context is
shown as `name=value` pairs.
-/

namespace Dialogue.Journal

/-- A record on its way to the sinks. -/
structure Entry where
  levelName : String
  severity : Int
  source : String
  message : String
  /-- The text of the context. -/
  context : Json
deriving Repr

/-- The text of a context. -/
def contextText (context : Json.Members) : String :=
  " ".intercalate (context.map fun (name, value) => name ++ "=" ++ value.shown)

/-- The width of the column of levels. -/
def levelWidth : Nat := 8

/-- A text filled up with blanks at the right. -/
def padRight (width : Nat) (text : String) : String :=
  text ++ String.ofList (List.replicate (width - text.length) ' ')

/-- The entry as a line of text. -/
def Entry.line (e : Entry) : String :=
  let level := padRight levelWidth e.levelName
  s!"{level} | {e.source} | {e.message} {e.context.shown}\n"

/-- The entry as a record. -/
def Entry.toJson (e : Entry) : Json :=
  .arr [.str e.levelName, .str e.source, .str e.message, e.context]

end Dialogue.Journal
