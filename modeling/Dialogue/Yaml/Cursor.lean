/-!
# Dialogue.Yaml.Cursor — a place in a text

A cursor holds the characters that are left, and how many were passed, on which line and in which
column. The end of the text reads as a character that no text has.
-/

namespace Dialogue.Yaml

/-- The character that stands for the end of a text. -/
def endMark : Char := '\x00'

/-- Whether a character may stand in a text. -/
def isAllowed (c : Char) : Bool :=
  c == '\t' || c == '\n' || c == '\r' || (' ' ≤ c && c ≤ '~') || c == '\x85' ||
    ('\xa0' ≤ c && c != '\ufffe' && c != '\uffff')

/-- Whether a character ends a line. -/
def isBreak (c : Char) : Bool :=
  c == '\n' || c == '\r' || c == '\x85' || c == '\u2028' || c == '\u2029'

/-- Whether a character ends a line or the text. -/
def isEnd (c : Char) : Bool := c == endMark || isBreak c

/-- Whether a character ends a line, the text or a word. -/
def isGap (c : Char) : Bool := c == ' ' || c == '\t' || isEnd c

/-- A place in a text. -/
structure Cursor where
  rest : List Char
  offset : Nat := 0
  line : Nat := 0
  column : Nat := 0
deriving Repr

namespace Cursor

/-- The character that comes next. -/
def peek (c : Cursor) : Char := c.rest.headD endMark

/-- The character so many places further on. -/
def peekAt (n : Nat) (c : Cursor) : Char := c.rest.getD n endMark

/-- The cursor behind the next character. -/
def next (c : Cursor) : Cursor :=
  match c.rest with
  | [] => c
  | x :: rest =>
    if isBreak x then { rest, offset := c.offset + 1, line := c.line + 1, column := 0 }
    else if x == '\ufeff' then { c with rest, offset := c.offset + 1 }
    else { c with rest, offset := c.offset + 1, column := c.column + 1 }

/-- The cursor so many characters further on. -/
def skip : Nat → Cursor → Cursor
  | 0, c => c
  | n + 1, c => skip n c.next

/-- The characters that pass a test, and the cursor behind them. -/
def takeWhile (p : Char → Bool) (c : Cursor) : List Char × Cursor :=
  let taken := c.rest.takeWhile p
  (taken, c.skip taken.length)

/-- The cursor behind the characters that pass a test. -/
def skipWhile (p : Char → Bool) (c : Cursor) : Cursor := (c.takeWhile p).2

/-- The cursor behind spaces. -/
def skipSpaces (c : Cursor) : Cursor := c.skipWhile (· == ' ')

/-- The cursor at the end of its line. -/
def skipLine (c : Cursor) : Cursor := c.skipWhile (!isEnd ·)

/-- The line break that comes next, as it counts, and the cursor behind it. -/
def lineBreak? (c : Cursor) : Option (Char × Cursor) :=
  let x := c.peek
  if x == '\u2028' || x == '\u2029' then some (x, c.next)
  else if isBreak x then some ('\n', c.next)
  else none

/-- Whether a line starts here with a mark of three characters that stands alone. -/
def isAtMark (mark : Char) (c : Cursor) : Bool :=
  c.rest.take 3 == [mark, mark, mark] && isGap (c.peekAt 3)

/-- Whether a document ends or begins here. -/
def isAtDocumentMark (c : Cursor) : Bool := c.isAtMark '-' || c.isAtMark '.'

end Cursor

end Dialogue.Yaml
