import Dialogue.Json.Value

/-!
# Dialogue.Tool.Call — calls that a model makes

A call keeps its arguments as the text that the model wrote; reading them is the caller's work.
-/

namespace Dialogue

/-- One call of a tool. -/
structure ToolCall where
  id : String
  name : String
  arguments : String
deriving DecidableEq, Repr

namespace ToolCall

/-- The call as a chat server gives it. -/
def toJson (c : ToolCall) : Json :=
  .obj [("id", .str c.id), ("type", .str "function"),
    ("function", .obj [("name", .str c.name), ("arguments", .str c.arguments)])]

/-- The characters of a fresh id. -/
def idAlphabet : List Char := "0123456789abcdefghijklmnopqrstuvwxyz".toList

/-- The number of random characters in a fresh id. -/
def idLength : Nat := 9

/-- The fresh id made of the given draws from the alphabet. -/
def idOfDraws (draws : List Nat) : String :=
  "call_" ++ String.ofList (draws.map fun n => idAlphabet.getD (n % idAlphabet.length) '0')

end ToolCall

/-- A source of fresh ids: the id that the `n`-th request gets. -/
abbrev IdSource := Nat → String

/-- The source that fills each id with the next draws of a sequence. -/
def IdSource.ofDraws (draw : Nat → Nat) : IdSource := fun n =>
  ToolCall.idOfDraws
    ((List.range ToolCall.idLength).map fun i => draw (n * ToolCall.idLength + i))

/-- The source of numbered ids, from one on. -/
def IdSource.numbered (head : String) : IdSource := fun n => head ++ toString (n + 1)

end Dialogue
