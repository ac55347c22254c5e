import Dialogue.Yaml.Style

/-!
# Dialogue.Yaml.Printer — values as documents

`Yaml.write` gives a mapping as a document: an entry a line, the entries of an inner mapping
indented by two columns, the elements of a sequence behind dashes and below their key without an
indent. Empty collections are written in brackets, and a key stands on one line.
-/

namespace Dialogue.Yaml

/-- The columns by which inner entries are indented. -/
def indentStep : Nat := 2

/-- Numbers in documents: laid out as in JSON, with a point before every exponent. -/
def numberLayout : Layout where
  leastPositional := -4
  pastPositional := 16
  exponentDigits := 2
  pointBeforeExponent := true
  infinity := ".inf"
  nan := ".nan"

/-- The start of a line at a column. -/
def lineAt (indent : Nat) : List Char := '\n' :: List.replicate indent ' '

def writeKey (key : String) : List Char := Style.write ⟨0, false⟩ 0 key ++ [':']

mutual

/-- A value behind a key that ends at a column, in a mapping at an indent. -/
def writeBelowKey (indent column : Nat) : Json → List Char
  | .null => " null".toList
  | .bool b => if b then " true".toList else " false".toList
  | .int i => ' ' :: decimalChars i
  | .float x => ' ' :: numberLayout.write x
  | .str s => ' ' :: Style.write ⟨indent + indentStep, true⟩ (column + 1) s
  | .arr [] => " []".toList
  | .arr (x :: xs) => lineAt indent ++ writeItems indent (x :: xs)
  | .obj [] => " \x7b\x7d".toList
  | .obj (m :: ms) => lineAt (indent + indentStep) ++ writeEntries (indent + indentStep) (m :: ms)

/-- A value behind a dash, in a sequence at an indent; a collection starts on the same line. -/
def writeItem (indent : Nat) : Json → List Char
  | .null => " null".toList
  | .bool b => if b then " true".toList else " false".toList
  | .int i => ' ' :: decimalChars i
  | .float x => ' ' :: numberLayout.write x
  | .str s => ' ' :: Style.write ⟨indent + indentStep, true⟩ (indent + indentStep) s
  | .arr [] => " []".toList
  | .arr (x :: xs) => ' ' :: writeItems (indent + indentStep) (x :: xs)
  | .obj [] => " \x7b\x7d".toList
  | .obj (m :: ms) => ' ' :: writeEntries (indent + indentStep) (m :: ms)

/-- The elements of a sequence at an indent, from the first dash on. -/
def writeItems (indent : Nat) : List Json → List Char
  | [] => []
  | [x] => '-' :: writeItem indent x
  | x :: xs => '-' :: writeItem indent x ++ lineAt indent ++ writeItems indent xs

/-- The entries of a mapping at an indent, from the first key on. -/
def writeEntries (indent : Nat) : List (String × Json) → List Char
  | [] => []
  | [(key, value)] =>
    let key := writeKey key
    key ++ writeBelowKey indent (indent + key.length) value
  | (key, value) :: rest =>
    let key := writeKey key
    key ++ writeBelowKey indent (indent + key.length) value ++ lineAt indent ++
      writeEntries indent rest

end

/-- A mapping as a document. -/
def write (members : Json.Members) : String :=
  if members.isEmpty then "\x7b\x7d\n" else String.ofList (writeEntries 0 members ++ ['\n'])

end Dialogue.Yaml
