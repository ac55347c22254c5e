import Dialogue.Json.Reader
import Dialogue.Failure
import Dialogue.Text.Blank

/-!
# Dialogue.Reply — JSON in a model's reply

Models like to wrap JSON in a fenced block. A reply that is one fenced block is unwrapped: three
backquotes, perhaps the tag `json` in any letter case, spaces, a line break, the body, a line break,
three backquotes. Then the text has to be JSON.
-/

namespace Dialogue.Reply

/-- The mark that opens and closes a fenced block. -/
def fence : List Char := ['\x60', '\x60', '\x60']

/-- The letters that a letter of the tag stands for. The long s is a small form of `s`. -/
def tagLetters : List (List Char) :=
  [['j', 'J'], ['s', 'S', 'ſ'], ['o', 'O'], ['n', 'N']]

/-- What follows the tag at the start of the characters; without the tag, all of them. -/
def skipTag (cs : List Char) : List Char :=
  let tag := cs.take tagLetters.length
  let fits := (tagLetters.zip tag).all fun (letters, c) => letters.contains c
  if tag.length = tagLetters.length ∧ fits
  then cs.drop tagLetters.length
  else cs

/-- The characters without one line break at the start. -/
def skipLineBreak : List Char → List Char
  | '\n' :: rest => rest
  | cs => cs

/-- The characters without one line break at the end. -/
def dropLineBreak (cs : List Char) : List Char :=
  (skipLineBreak cs.reverse).reverse

/-- The characters before a fence that ends them. -/
def beforeFence? (cs : List Char) : Option (List Char) :=
  if fence.isSuffixOf cs then some (cs.take (cs.length - fence.length)) else none

/-- The body of a text that is one fenced block. -/
def unfence? (cs : List Char) : Option (List Char) := do
  let rest ← Json.afterWord? fence cs
  let rest := (skipTag rest).dropWhile fun c => c == ' ' || c == '\t'
  let body ← beforeFence? (skipLineBreak rest)
  return dropLineBreak body

/-- The text of a reply that has to be JSON. -/
def payload (reply : String) : String :=
  let cs := Text.stripChars reply.toList
  match unfence? cs with
  | some body => String.ofList (Text.stripChars body)
  | none => String.ofList cs

/-- The value that a reply writes. -/
def readJson (reply : String) : Except Json.Flaw Json :=
  Json.read (payload reply)

/-- The failure of a reply that is not JSON; an absent reply reads as an empty one. -/
def failure (reply : Option String) (flaw : Json.Flaw) : Failure :=
  let cause := flaw.message (payload (reply.getD ""))
  .encoding s!"model reply is not valid JSON: {cause}" reply

/-- The value that a reply writes, or the failure to find one. -/
def decode (reply : Option String) : Except Failure Json :=
  (readJson (reply.getD "")).mapError (failure reply)

end Dialogue.Reply
