import Dialogue.Json.Reader
import Dialogue.Yaml.Cursor

/-!
# Dialogue.Yaml.Quoted — texts in quotes

A text in quotes may run over several lines: a line break counts as a space, and each empty line as
a line break. In single quotes only the quote is special, and is written twice; in double quotes a
backslash begins an escape.
-/

namespace Dialogue.Yaml.Quoted

/-- What was read, and the cursor behind it; none for a text that is malformed. -/
abbrev Read := Option (List Char × Cursor)

/-- The characters in front of what is read next. -/
def before (cs : List Char) (r : Read) : Read := r.map fun (rest, c) => (cs ++ rest, c)

def isSpace (c : Char) : Bool := c == ' ' || c == '\t'

/-- The line breaks of the empty lines before the next word. No document may end here. -/
def emptyLines : Nat → Cursor → Read
  | 0, _ => none
  | fuel + 1, c =>
    if c.isAtDocumentMark then none
    else
      let c := c.skipWhile isSpace
      match c.lineBreak? with
      | some (x, c) => before [x] (emptyLines fuel c)
      | none => some ([], c)

/-- The gap between two words: spaces as they are, or a line break with empty lines behind it. -/
def gap (c : Cursor) : Read :=
  let (spaces, c) := c.takeWhile isSpace
  match c.lineBreak? with
  | some (x, c) => do
    let (breaks, c) ← emptyLines (c.rest.length + 1) c
    let first := if x != '\n' then [x] else if breaks.isEmpty then [' '] else []
    return (first ++ breaks, c)
  | none => if c.rest.isEmpty then none else some (spaces, c)

/-- The characters of escapes that are a single letter. -/
def escapes : List (Char × Char) :=
  [('0', '\x00'), ('a', '\x07'), ('b', '\x08'), ('t', '\t'), ('\t', '\t'), ('n', '\n'),
    ('v', '\x0b'), ('f', '\x0c'), ('r', '\r'), ('e', '\x1b'), (' ', ' '), ('"', '"'),
    ('\\', '\\'), ('/', '/'), ('N', '\x85'), ('_', '\xa0'), ('L', '\u2028'), ('P', '\u2029')]

/-- How many hexadecimal digits follow a letter. -/
def codeLengths : List (Char × Nat) := [('x', 2), ('u', 4), ('U', 8)]

/-- The character that so many hexadecimal digits write. -/
def code (length : Nat) (c : Cursor) : Read :=
  let digits := c.rest.take length
  let n := digits.foldl (fun n d => n * 16 + (Json.hexValue? d).getD 0) 0
  if digits.length = length ∧ digits.all (fun d => (Json.hexValue? d).isSome) ∧ n.isValidChar then
    some ([Char.ofNat n], c.skip length)
  else none

/-- What an escape stands for, behind its backslash. -/
def escape (c : Cursor) : Read :=
  let x := c.peek
  match escapes.lookup x, codeLengths.lookup x, c.lineBreak? with
  | some y, _, _ => some ([y], c.next)
  | none, some length, _ => code length c.next
  | none, none, some (_, c) => emptyLines (c.rest.length + 1) c
  | none, none, none => none

/-- The characters up to the next space, line break or closing quote. -/
def word (double : Bool) : Nat → Cursor → Read
  | 0, _ => none
  | fuel + 1, c =>
    let x := c.peek
    if isGap x then some ([], c)
    else if !double && x == '\'' then
      if c.peekAt 1 == '\'' then before ['\''] (word double fuel (c.skip 2)) else some ([], c)
    else if double && x == '"' then some ([], c)
    else if double && x == '\\' then do
      let (cs, c) ← escape c.next
      before cs (word double fuel c)
    else before [x] (word double fuel c.next)

/-- The characters up to the closing quote, and the cursor behind it. -/
def body (double : Bool) : Nat → Cursor → Read
  | 0, _ => none
  | fuel + 1, c => do
    let (cs, c) ← word double (c.rest.length + 1) c
    if c.peek == (if double then '"' else '\'') then return (cs, c.next)
    else
      let (spaces, c) ← gap c
      before (cs ++ spaces) (body double fuel c)

/-- A text in quotes of either kind, from its opening quote on. -/
def read (c : Cursor) : Read :=
  body (c.peek == '"') (c.rest.length + 1) c.next

end Dialogue.Yaml.Quoted
