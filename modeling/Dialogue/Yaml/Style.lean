import Dialogue.Display
import Dialogue.Yaml.Quoted
import Dialogue.Yaml.Scalar

/-!
# Dialogue.Yaml.Style — how a text is written as a scalar

A text is written plain if it then reads back as that text, else in single quotes if every line of
it can be, else in double quotes. A line longer than 80 columns is folded at the next place where
the fold reads back as nothing but a space.

* In single quotes and plain, a lone space between two words may become the fold.
* In double quotes a backslash ends the folded line, and one more keeps a space at the start of the
  next.
-/

namespace Dialogue.Yaml

/-- The three ways to write a text. -/
inductive Style where
  | plain
  | single
  | double
deriving DecidableEq, Repr

/-- Where a scalar is written. -/
structure Margin where
  /-- The column of the lines that continue the scalar. -/
  indent : Nat
  /-- Whether the scalar may be folded. -/
  folds : Bool

/-- The last column that a line may reach before it is folded. -/
def lineWidth : Nat := 80

/-- Whether a line that has reached a column is to be folded. -/
def Margin.isPast (m : Margin) (column : Nat) : Bool := m.folds && lineWidth < column

/-- The start of the next line of a scalar. -/
def Margin.newLine (m : Margin) : List Char := '\n' :: List.replicate m.indent ' '

namespace Style

/-! ## Which texts can be written how -/

/-- Whether a character can stand outside double quotes. -/
def isVisible (c : Char) : Bool :=
  c == '\n' || (' ' ≤ c && c ≤ '~') ||
    (isAllowed c && '\x85' ≤ c && c != '\ufeff' && c.toNat != 0x10FFFF)

/-- Whether what starts with the characters is a word's end. -/
def isAtGap (cs : List Char) : Bool := isGap (cs.headD endMark)

/-- Characters that mean something at the start of a plain text. -/
def leadMarks : List Char :=
  ['#', ',', '[', ']', '{', '}', '&', '*', '!', '|', '>', '\'', '"', '%', '@', '\x60']

/-- Characters that mean something at the start of a plain text if they stand alone. -/
def loneMarks : List Char := ['?', ':', '-']

/-- Whether a text starts with a mark. -/
def startsMarked (cs : List Char) : Bool :=
  "---".toList.isPrefixOf cs || "...".toList.isPrefixOf cs ||
    match cs with
    | c :: rest => leadMarks.contains c || (loneMarks.contains c && isAtGap rest)
    | [] => false

/-- Whether a mark stands between two characters of a text: a colon at the end of a word, or the
sign of a comment at the start of one. -/
def holdsMark : List Char → Bool
  | a :: b :: rest =>
    (b == ':' && isAtGap rest) || (b == '#' && isGap a) || holdsMark (b :: rest)
  | _ => false

/-- Whether two characters that satisfy the tests follow each other. -/
def holdsPair (p q : Char → Bool) : List Char → Bool
  | a :: b :: rest => (p a && q b) || holdsPair p q (b :: rest)
  | _ => false

def isSpace (c : Char) : Bool := c == ' '

/-- Whether every line of a text can stand in single quotes. -/
def fitsSingle (cs : List Char) : Bool :=
  cs.all isVisible && !holdsPair isSpace isBreak cs && !holdsPair isBreak isSpace cs

/-- Whether a text can stand without quotes, whatever it is then read as. -/
def fitsPlain (cs : List Char) : Bool :=
  cs.all isVisible && !cs.any isBreak && !startsMarked cs && !holdsMark cs &&
    cs.head? != some ' ' && cs.getLast? != some ' '

/-- How a text is written; only one that may be folded has several lines in single quotes. -/
def of (folds : Bool) (text : String) : Style :=
  let cs := text.toList
  if Scalar.kindOf text == .text && fitsPlain cs then .plain
  else if fitsSingle cs && (folds || !cs.any isBreak) then .single
  else .double

/-! ## Plain texts and single quotes -/

/-- The sorts of characters between which a line may be cut. -/
def sort (c : Char) : Nat := if c == ' ' then 0 else if isBreak c then 1 else 2

/-- A text in pieces of characters of one sort. -/
def pieces (cs : List Char) : List (List Char) := cs.splitBy fun a b => sort a == sort b

/-- Line breaks as they are written: the first of them twice, because one alone reads as a space. -/
def breaks (cs : List Char) : List Char := if cs.head? == some '\n' then '\n' :: cs else cs

/-- The pieces of a text from a column on. A space folds the line if it stands alone, and neither
first nor last. -/
def writePieces (m : Margin) (isFirst : Bool) (column : Nat) : List (List Char) → List Char
  | [] => []
  | piece :: rest =>
    if piece == [' '] && m.isPast column && !isFirst && !rest.isEmpty then
      m.newLine ++ writePieces m false m.indent rest
    else if piece.any isBreak then
      breaks piece ++ List.replicate m.indent ' ' ++ writePieces m false m.indent rest
    else piece ++ writePieces m false (column + piece.length) rest

/-- A text with its quotes written twice. -/
def doubleQuotes (cs : List Char) : List Char :=
  cs.flatMap fun c => if c == '\'' then ['\'', '\''] else [c]

def writeSingle (m : Margin) (column : Nat) (cs : List Char) : List Char :=
  '\'' :: writePieces m true (column + 1) (pieces (doubleQuotes cs)) ++ ['\'']

/-! ## Double quotes -/

/-- The letter of a character's escape. The tab has a letter, and a space and a slash need none. -/
def escapeLetter? (c : Char) : Option Char :=
  (Quoted.escapes.find? fun (letter, x) => x == c && letter != '\t').map (·.1)

/-- Whether a character stands for itself in double quotes. -/
def isBare (c : Char) : Bool :=
  c != '"' && c != '\\' && ((' ' ≤ c && c ≤ '~') || ('\xa0' ≤ c && c ≤ '\ufffd' && isVisible c)) &&
    !isBreak c

/-- The escape of a character by its code point. -/
def escapeCode (n : Nat) : List Char :=
  let upper (width : Nat) : List Char := (Display.hexDigits width n).map Char.toUpper
  if n ≤ 0xFF then '\\' :: 'x' :: upper 2
  else if n ≤ 0xFFFF then '\\' :: 'u' :: upper 4
  else '\\' :: 'U' :: upper 8

def escape (c : Char) : List Char :=
  match escapeLetter? c with
  | some letter => ['\\', letter]
  | none => escapeCode c.toNat

/-- A folded line's end, and what keeps the space that starts the next line. -/
def fold (m : Margin) (next : Option Char) : List Char :=
  '\\' :: m.newLine ++ (if next == some ' ' then ['\\'] else [])

/-- The column behind a fold. -/
def foldColumn (m : Margin) (next : Option Char) : Nat :=
  m.indent + (if next == some ' ' then 1 else 0)

/-- The characters of a text from a column on. The line is folded before a space or before the
first character behind an escape, and behind an escape; never next to the quotes. -/
def writeDouble (m : Margin) (isFirst afterEscape : Bool) (column : Nat) : List Char → List Char
  | [] => []
  | c :: rest =>
    let inside := !isFirst && !rest.isEmpty
    if isBare c then
      if inside && (c == ' ' || afterEscape) && m.isPast column then
        fold m (some c) ++ c :: writeDouble m false false (foldColumn m (some c) + 1) rest
      else c :: writeDouble m false false (column + 1) rest
    else
      let code := escape c
      let column := column + code.length
      if inside && m.isPast (column - 1) then
        code ++ fold m rest.head? ++ writeDouble m false true (foldColumn m rest.head?) rest
      else code ++ writeDouble m false true column rest

/-! ## Texts -/

/-- A text as a scalar that starts at a column. -/
def write (m : Margin) (column : Nat) (text : String) : List Char :=
  let cs := text.toList
  match of m.folds text with
  | .plain => writePieces m true column (pieces cs)
  | .single => writeSingle m column cs
  | .double => '"' :: writeDouble m true false (column + 1) cs ++ ['"']

end Style

end Dialogue.Yaml
