/-!
# Dialogue.Text.Lines — the ends of lines

A line may end with a carriage return, a line feed, or both. `unifyLines` makes every end of a line
a line feed.
-/

namespace Dialogue.Text

/-- Characters with every end of a line as a line feed. -/
def unifyChars : List Char → List Char
  | '\r' :: '\n' :: rest => '\n' :: unifyChars rest
  | '\r' :: rest => '\n' :: unifyChars rest
  | c :: rest => c :: unifyChars rest
  | [] => []

/-- A text with every end of a line as a line feed. -/
def unifyLines (text : String) : String := String.ofList (unifyChars text.toList)

end Dialogue.Text
