import Dialogue.Yaml.Cursor

/-!
# Dialogue.Yaml.BlockText — texts in blocks of lines

A block of lines behind `|` keeps its line breaks; behind `>` a line break between two lines that
start with no space counts as a space. A sign behind the mark says what becomes of the line breaks
at the end: `+` keeps them all, `-` keeps none, otherwise one is kept. A digit says how far the
block is indented; without one the first line with text does.
-/

namespace Dialogue.Yaml.BlockText

/-- What becomes of the line breaks at the end. -/
inductive Ending where
  | keep
  | strip
  | clip
deriving DecidableEq, Repr

/-- What stands behind the mark. -/
structure Header where
  ending : Ending := .clip
  indent : Option Nat := none
deriving DecidableEq, Repr

def endingOf? (x : Char) : Option Ending :=
  if x == '+' then some .keep else if x == '-' then some .strip else none

def digitOf? (x : Char) : Option Nat :=
  if x.isDigit then some (x.toNat - '0'.toNat) else none

/-- The header and the cursor behind it. The indentation is not zero. -/
def header (c : Cursor) : Option (Header × Cursor) :=
  let proper (h : Header) (c : Cursor) : Option (Header × Cursor) :=
    if h.indent = some 0 then none else some (h, c)
  match endingOf? c.peek, digitOf? c.peek with
  | some ending, _ =>
    let c := c.next
    match digitOf? c.peek with
    | some n => proper ⟨ending, some n⟩ c.next
    | none => proper ⟨ending, none⟩ c
  | none, some n =>
    let c := c.next
    match endingOf? c.peek with
    | some ending => proper ⟨ending, some n⟩ c.next
    | none => proper ⟨.clip, some n⟩ c
  | none, none => some ({}, c)

/-- The cursor behind a line with nothing but spaces and a comment. -/
def ignoredLine (c : Cursor) : Option Cursor :=
  let c := c.skipSpaces
  let c := if c.peek == '#' then c.skipLine else c
  if c.rest.isEmpty then some c else c.lineBreak?.map (·.2)

/-- The line breaks before the first line with text, and how far the lines are indented. -/
def leadingLines : Nat → Nat → Cursor → List Char × Nat × Cursor
  | 0, indent, c => ([], indent, c)
  | fuel + 1, indent, c =>
    let c := c.skipSpaces
    let indent := max indent c.column
    match c.lineBreak? with
    | none => ([], indent, c)
    | some (x, c) =>
      let (breaks, indent, c) := leadingLines fuel indent c
      (x :: breaks, indent, c)

/-- The cursor behind at most so many spaces of indentation. -/
def skipIndent (indent : Nat) (c : Cursor) : Cursor :=
  c.skip ((c.rest.take (indent - c.column)).takeWhile (· == ' ')).length

/-- The line breaks before the next line with text. -/
def emptyLines (indent : Nat) : Nat → Cursor → List Char × Cursor
  | 0, c => ([], c)
  | fuel + 1, c =>
    let c := skipIndent indent c
    match c.lineBreak? with
    | none => ([], c)
    | some (x, c) =>
      let (breaks, c) := emptyLines indent fuel c
      (x :: breaks, c)

def isSpace (x : Char) : Bool := x == ' ' || x == '\t'

/-- What a line break and the empty lines behind it count as between two lines. -/
def between (folded startsPlain : Bool) (lineBreak : List Char) (breaks : List Char) (next : Char) :
    List Char :=
  if folded && lineBreak == ['\n'] && startsPlain && !isSpace next then
    if breaks.isEmpty then [' '] else breaks
  else lineBreak ++ breaks

/-- What is kept at the end. -/
def atEnd (ending : Ending) (lineBreak breaks : List Char) : List Char :=
  match ending with
  | .strip => []
  | .clip => lineBreak
  | .keep => lineBreak ++ breaks

/-- Whether a line of the block starts here. -/
def startsLine (indent : Nat) (c : Cursor) : Bool :=
  c.column == indent && !c.rest.isEmpty

/-- The lines of a block from the one that starts here on. -/
def lines (folded : Bool) (ending : Ending) (indent : Nat) : Nat → Cursor → List Char × Cursor
  | 0, c => ([], c)
  | fuel + 1, c =>
    let startsPlain := !isSpace c.peek
    let (text, c) := c.takeWhile (!isEnd ·)
    let (lineBreak, c) := match c.lineBreak? with
      | some (x, c) => ([x], c)
      | none => ([], c)
    let (breaks, c) := emptyLines indent (c.rest.length + 1) c
    if startsLine indent c then
      let (rest, after) := lines folded ending indent fuel c
      (text ++ between folded startsPlain lineBreak breaks c.peek ++ rest, after)
    else (text ++ atEnd ending lineBreak breaks, c)

/-- A block of lines from its mark on, inside something indented by `outer`. -/
def read (outer : Int) (c : Cursor) : Option (List Char × Cursor) := do
  let folded := c.peek == '>'
  let (h, c) ← header c.next
  if c.peek != ' ' && !isEnd c.peek then none
  let c ← ignoredLine c
  let least := (max (outer + 1) 1).toNat
  let fuel := c.rest.length + 1
  let (breaks, indent, c) :=
    match h.indent with
    | some n =>
      let indent := least + n - 1
      let (breaks, c) := emptyLines indent fuel c
      (breaks, indent, c)
    | none =>
      let (breaks, found, c) := leadingLines fuel 0 c
      (breaks, max least found, c)
  if startsLine indent c then
    let (text, c) := lines folded h.ending indent fuel c
    return (breaks ++ text, c)
  else return (atEnd h.ending [] breaks, c)

end Dialogue.Yaml.BlockText
