import Dialogue.Json.Value
import Dialogue.Number.Layout

/-!
# Dialogue.Json.Printer — JSON text

One printer serves both styles: `compact` puts a space after each comma and colon, and `indented`
puts every element on its own line, two spaces deeper than its container. An empty container is
`[]` or `{}` in both. Characters beyond ASCII are written as they are.
-/

namespace Dialogue.Json

/-- JSON numbers: positional from `10^-4` up to `10^16`, an exponent of at least two digits. -/
def numberLayout : Layout where
  leastPositional := -4
  pastPositional := 16
  exponentDigits := 2
  pointBeforeExponent := false
  infinity := "Infinity"
  nan := "NaN"

/-- How containers are laid out. -/
inductive Style where
  | compact
  | indented
deriving DecidableEq, Repr

/-- What stands between a bracket and an element at the given depth. -/
def Style.lineBreak (depth : Nat) : Style → List Char
  | .compact => []
  | .indented => '\n' :: List.replicate (2 * depth) ' '

/-- What stands between two elements at the given depth. -/
def Style.separator (depth : Nat) : Style → List Char
  | .compact => [',', ' ']
  | .indented => ',' :: Style.indented.lineBreak depth

/-- The lower-case hexadecimal digit of a number below sixteen. -/
def hexDigit (n : Nat) : Char :=
  Nat.digitChar n

/-- One character inside a quoted string. -/
def escapeChar (c : Char) : List Char :=
  match c with
  | '"' => ['\\', '"']
  | '\\' => ['\\', '\\']
  | '\n' => ['\\', 'n']
  | '\r' => ['\\', 'r']
  | '\t' => ['\\', 't']
  | '\x08' => ['\\', 'b']
  | '\x0c' => ['\\', 'f']
  | c =>
    if c.toNat < 0x20 then ['\\', 'u', '0', '0', hexDigit (c.toNat / 16), hexDigit (c.toNat % 16)]
    else [c]

/-- A quoted string. -/
def quote (s : String) : List Char :=
  '"' :: s.toList.flatMap escapeChar ++ ['"']

mutual

/-- The text of a value whose container lies at the given depth. -/
def write (style : Style) (depth : Nat) : Json → List Char
  | .null => ['n', 'u', 'l', 'l']
  | .bool true => ['t', 'r', 'u', 'e']
  | .bool false => ['f', 'a', 'l', 's', 'e']
  | .int i => decimalChars i
  | .float x => numberLayout.write x
  | .str s => quote s
  | .arr [] => ['[', ']']
  | .arr (x :: xs) =>
    '[' :: style.lineBreak (depth + 1) ++ write style (depth + 1) x ++
      writeElements style (depth + 1) xs ++ style.lineBreak depth ++ [']']
  | .obj [] => ['{', '}']
  | .obj ((k, v) :: ms) =>
    '{' :: style.lineBreak (depth + 1) ++ quote k ++ ':' :: ' ' :: write style (depth + 1) v ++
      writeMembers style (depth + 1) ms ++ style.lineBreak depth ++ ['}']

/-- The elements after the first, each behind a separator. -/
def writeElements (style : Style) (depth : Nat) : List Json → List Char
  | [] => []
  | x :: xs => style.separator depth ++ write style depth x ++ writeElements style depth xs

/-- The members after the first, each behind a separator. -/
def writeMembers (style : Style) (depth : Nat) : List (String × Json) → List Char
  | [] => []
  | (k, v) :: ms =>
    style.separator depth ++ quote k ++ ':' :: ' ' :: write style depth v ++
      writeMembers style depth ms

end

/-- The text of a value on one line. -/
def compact (j : Json) : String :=
  String.ofList (write .compact 0 j)

/-- The text of a value with one element a line. -/
def indented (j : Json) : String :=
  String.ofList (write .indented 0 j)

end Dialogue.Json
