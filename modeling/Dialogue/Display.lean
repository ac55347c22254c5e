import Dialogue.Json.Value
import Dialogue.Number.Layout
import Dialogue.Text.Printable

/-!
# Dialogue.Display — values as messages show them

`Json.shown` is the text of a value inside a message: a string stands for itself, and inside a
container it is quoted. `Json.quoted` quotes a string at the top too. The spelling differs from
JSON: `None`, `True`, `False`, single quotes, and escapes only for what cannot be printed.
-/

namespace Dialogue.Display

/-- Numbers in messages: laid out as in JSON, with short names for those without digits. -/
def numberLayout : Layout where
  leastPositional := -4
  pastPositional := 16
  exponentDigits := 2
  pointBeforeExponent := false
  infinity := "inf"
  nan := "nan"

/-- The last `width` hexadecimal digits of a number. -/
def hexDigits : Nat → Nat → List Char
  | 0, _ => []
  | width + 1, n => hexDigits width (n / 16) ++ [Nat.digitChar (n % 16)]

/-- A character that cannot be printed, by its code point. -/
def escapeCode (n : Nat) : List Char :=
  if n ≤ 0xFF then '\\' :: 'x' :: hexDigits 2 n
  else if n ≤ 0xFFFF then '\\' :: 'u' :: hexDigits 4 n
  else '\\' :: 'U' :: hexDigits 8 n

/-- One character between quotes of the given kind. -/
def escapeChar (mark : Char) (c : Char) : List Char :=
  if c = mark then ['\\', c]
  else
    match c with
    | '\\' => ['\\', '\\']
    | '\n' => ['\\', 'n']
    | '\r' => ['\\', 'r']
    | '\t' => ['\\', 't']
    | c => if Text.isPrintable c then [c] else escapeCode c.toNat

/-- Single quotes, unless the text holds one and no double quote. -/
def quoteMark (cs : List Char) : Char :=
  if cs.contains '\'' && !cs.contains '"' then '"' else '\''

/-- A text in quotes. -/
def quote (s : String) : List Char :=
  let cs := s.toList
  let mark := quoteMark cs
  mark :: cs.flatMap (escapeChar mark) ++ [mark]

mutual

/-- A value with every string in quotes. -/
def write : Json → List Char
  | .null => "None".toList
  | .bool true => "True".toList
  | .bool false => "False".toList
  | .int i => decimalChars i
  | .float x => numberLayout.write x
  | .str s => quote s
  | .arr [] => ['[', ']']
  | .arr (x :: xs) => '[' :: write x ++ writeElements xs ++ [']']
  | .obj [] => ['{', '}']
  | .obj ((k, v) :: ms) => '{' :: quote k ++ ':' :: ' ' :: write v ++ writeMembers ms ++ ['}']

/-- The elements after the first, each behind a comma. -/
def writeElements : List Json → List Char
  | [] => []
  | x :: xs => ',' :: ' ' :: write x ++ writeElements xs

/-- The members after the first, each behind a comma. -/
def writeMembers : List (String × Json) → List Char
  | [] => []
  | (k, v) :: ms => ',' :: ' ' :: quote k ++ ':' :: ' ' :: write v ++ writeMembers ms

end

end Dialogue.Display

namespace Dialogue

/-- A value with every string in quotes. -/
def Json.quoted (j : Json) : String :=
  String.ofList (Display.write j)

/-- A value as a message shows it: a string is shown bare. -/
def Json.shown : Json → String
  | .str s => s
  | j => j.quoted

/-- A list of texts, each in quotes. -/
def Display.texts (ss : List String) : String :=
  (Json.arr (ss.map .str)).quoted

end Dialogue
