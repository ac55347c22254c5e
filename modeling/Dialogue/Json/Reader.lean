import Dialogue.Json.Value

/-!
# Dialogue.Json.Reader — reading JSON text

`Json.read` accepts one value with blanks around it, and says on failure what was wrong and where.
Beyond the standard grammar it reads `NaN`, `Infinity` and `-Infinity`, and of members with one key
the last value wins, in the place of the first.

Inside the reader a place in the text is given by the number of characters from it to the end, so
that no function has to know how far the reading has come; `Flaw.message` turns it into a line and
a column.
-/

namespace Dialogue.Json

/-! ## What can be wrong -/

/-- What a reader finds wrong at one place. -/
inductive Problem where
  | byteOrderMark
  | expectingValue
  | expectingKey
  | expectingColon
  | expectingComma
  | extraData
  | unterminatedString
  | controlCharacter
  | badEscape
  | badCodePoint
deriving DecidableEq, Repr

/-- Why a text is not JSON. -/
inductive Flaw where
  /-- The problem lies where `remaining` characters are left. -/
  | misread (problem : Problem) (remaining : Nat)
  /-- A whole number has more digits than are read. -/
  | digitLimit (digits : Nat)
deriving DecidableEq, Repr

/-- The words before the place of a problem. -/
def Problem.message : Problem → String
  | .byteOrderMark => "Unexpected UTF-8 BOM (decode using utf-8-sig):"
  | .expectingValue => "Expecting value:"
  | .expectingKey => "Expecting property name enclosed in double quotes:"
  | .expectingColon => "Expecting ':' delimiter:"
  | .expectingComma => "Expecting ',' delimiter:"
  | .extraData => "Extra data:"
  | .unterminatedString => "Unterminated string starting at:"
  | .controlCharacter => "Invalid control character at:"
  | .badEscape => "Invalid \\escape:"
  | .badCodePoint => "Invalid \\uXXXX escape:"

/-- A place in a text: line and column count from one, the offset from zero. -/
structure Place where
  line : Nat
  column : Nat
  offset : Nat
deriving DecidableEq, Repr

/-- The place after the given characters. -/
def Place.after (before : List Char) : Place where
  line := before.count '\n' + 1
  column := (before.reverse.takeWhile (· != '\n')).length + 1
  offset := before.length

/-- The most digits that a whole number may have. -/
def maxDigits : Nat := 4300

/-- The wording of a flaw found in `text`. -/
def Flaw.message (text : String) : Flaw → String
  | .misread problem remaining =>
    let chars := text.toList
    let p := Place.after (chars.take (chars.length - remaining))
    s!"{problem.message} line {p.line} column {p.column} (char {p.offset})"
  | .digitLimit digits =>
    s!"Exceeds the limit ({maxDigits} digits) for integer string conversion: value has " ++
      s!"{digits} digits; use sys.set_int_max_str_digits() to increase the limit"

/-! ## Blanks, literals and strings -/

/-- The four characters that JSON allows between tokens. -/
def isJsonBlank (c : Char) : Bool :=
  c == ' ' || c == '\t' || c == '\n' || c == '\r'

/-- The characters after any blanks. -/
def skipBlanks (cs : List Char) : List Char :=
  cs.dropWhile isJsonBlank

/-- The value of a hexadecimal digit. -/
def hexValue? (c : Char) : Option Nat :=
  if '0' ≤ c ∧ c ≤ '9' then some (c.toNat - 48)
  else if 'a' ≤ c ∧ c ≤ 'f' then some (c.toNat - 87)
  else if 'A' ≤ c ∧ c ≤ 'F' then some (c.toNat - 55)
  else none

/-- The number that four hexadecimal digits write. -/
def hexUnit? (a b c d : Char) : Option Nat := do
  return ((← hexValue? a) * 16 + (← hexValue? b)) * 256 + (← hexValue? c) * 16 + (← hexValue? d)

/-- The character that one letter after a backslash stands for. -/
def unescape? : Char → Option Char
  | '"' => some '"'
  | '\\' => some '\\'
  | '/' => some '/'
  | 'b' => some '\x08'
  | 'f' => some '\x0c'
  | 'n' => some '\n'
  | 'r' => some '\r'
  | 't' => some '\t'
  | _ => none

/-- What a text shows for half of a surrogate pair. -/
def loneSurrogate : Char := '\uFFFD'

/-- The characters that are due when a high half, if one is pending, finds no low half. -/
def loneHalf (high : Option Nat) : List Char :=
  if high.isSome then [loneSurrogate] else []

/-- The character of a surrogate pair. -/
def surrogatePair (high low : Nat) : Char :=
  Char.ofNat (0x10000 + (high - 0xD800) * 0x400 + (low - 0xDC00))

/-- How one 16-bit unit continues a string in which the half `high` may be pending: the characters
it completes and the half it leaves pending. -/
def takeUnit (high : Option Nat) (unit : Nat) : List Char × Option Nat :=
  if 0xDC00 ≤ unit ∧ unit < 0xE000 then
    match high with
    | some h => ([surrogatePair h unit], none)
    | none => ([loneSurrogate], none)
  else if 0xD800 ≤ unit ∧ unit < 0xDC00 then (loneHalf high, some unit)
  else (loneHalf high ++ [Char.ofNat unit], none)

/-- The characters before the text read by `rest`. -/
def before (cs : List Char) (rest : Except Flaw (List Char × List Char)) :
    Except Flaw (List Char × List Char) :=
  rest.map fun (text, left) => (cs ++ text, left)

/-- The characters of a string up to its closing quote, and what follows it. The opening quote lies
`opened` characters before the end, and `high` is a half of a surrogate pair that is pending. -/
def stringChars (opened : Nat) (high : Option Nat) :
    List Char → Except Flaw (List Char × List Char)
  | [] => .error (.misread .unterminatedString opened)
  | ['\\'] => .error (.misread .unterminatedString opened)
  | '"' :: rest => .ok (loneHalf high, rest)
  | '\\' :: 'u' :: a :: b :: c :: d :: e :: rest =>
    match hexUnit? a b c d with
    | none => .error (.misread .badCodePoint (rest.length + 6))
    | some unit =>
      let (done, pending) := takeUnit high unit
      before done (stringChars opened pending (e :: rest))
  | '\\' :: 'u' :: rest => .error (.misread .badCodePoint (rest.length + 1))
  | '\\' :: e :: rest =>
    match unescape? e with
    | none => .error (.misread .badEscape (rest.length + 2))
    | some c => before (loneHalf high ++ [c]) (stringChars opened none rest)
  | c :: rest =>
    if c.toNat < 0x20 then .error (.misread .controlCharacter (rest.length + 1))
    else before (loneHalf high ++ [c]) (stringChars opened none rest)

/-! ## Numbers -/

/-- The number that decimal digits write. -/
def digitsValue (digits : List Char) : Nat :=
  digits.foldl (fun n c => 10 * n + (c.toNat - 48)) 0

/-- A decimal digit of ASCII. -/
def isDigit (c : Char) : Bool := '0' ≤ c ∧ c ≤ '9'

/-- The digits of the whole part: a lone zero, or digits that start with no zero. -/
def wholeDigits? : List Char → Option (List Char × List Char)
  | '0' :: rest => some (['0'], rest)
  | c :: rest =>
    if isDigit c then some (c :: rest.takeWhile isDigit, rest.dropWhile isDigit) else none
  | [] => none

/-- The digits after a point, if a point with a digit comes next. -/
def fractionDigits? : List Char → Option (List Char × List Char)
  | '.' :: rest =>
    let digits := rest.takeWhile isDigit
    if digits.isEmpty then none else some (digits, rest.dropWhile isDigit)
  | _ => none

/-- The sign and digits of an exponent, if a complete one comes next. -/
def exponent? : List Char → Option (Int × List Char)
  | e :: rest =>
    if e = 'e' ∨ e = 'E' then
      let (negative, rest) :=
        match rest with
        | '-' :: rest => (true, rest)
        | '+' :: rest => (false, rest)
        | rest => (false, rest)
      let digits := rest.takeWhile isDigit
      if digits.isEmpty then none
      else
        let n : Int := digitsValue digits
        some (if negative then -n else n, rest.dropWhile isDigit)
    else none
  | [] => none

/-- The number at the start of the characters: the longest match counts. -/
def number (cs : List Char) : Except Flaw (Json × List Char) :=
  let (negative, body) :=
    match cs with
    | '-' :: rest => (true, rest)
    | rest => (false, rest)
  match wholeDigits? body with
  | none => .error (.misread .expectingValue cs.length)
  | some (whole, rest) =>
    match fractionDigits? rest, exponent? ((fractionDigits? rest).elim rest (·.2)) with
    | none, none =>
      if maxDigits < whole.length then .error (.digitLimit whole.length)
      else
        let n : Int := digitsValue whole
        .ok (.int (if negative then -n else n), rest)
    | fraction, exponent =>
      let shown := (fraction.map (·.1)).getD []
      let power := (exponent.map (·.1)).getD 0 - shown.length
      let left := (exponent.map (·.2)).getD ((fraction.map (·.2)).getD rest)
      .ok (.float (Binary64.ofDecimal negative (digitsValue (whole ++ shown)) power), left)

/-! ## Values -/

/-- What follows a word at the start of the characters. -/
def afterWord? (word cs : List Char) : Option (List Char) :=
  if word.isPrefixOf cs then some (cs.drop word.length) else none

/-- The value of a literal word at the start of the characters. -/
def literal? (cs : List Char) : Option (Json × List Char) :=
  let word (text : String) (j : Json) := (afterWord? text.toList cs).map (j, ·)
  word "null" .null <|> word "true" (.bool true) <|> word "false" (.bool false) <|>
    word "NaN" (.float .nan) <|> word "Infinity" (.float (.infinite false)) <|>
    word "-Infinity" (.float (.infinite true))

mutual

/-- The value at the start of the characters. The fuel bounds the number of nested and successive
values; the length of the text is enough. -/
def value : Nat → List Char → Except Flaw (Json × List Char)
  | 0, cs => .error (.misread .expectingValue cs.length)
  | fuel + 1, cs =>
    match cs with
    | '"' :: rest => do
      let (text, rest) ← stringChars cs.length none rest
      return (.str (String.ofList text), rest)
    | '[' :: rest =>
      match skipBlanks rest with
      | ']' :: rest => .ok (.arr [], rest)
      | rest => elements fuel [] rest
    | '{' :: rest =>
      match skipBlanks rest with
      | '}' :: rest => .ok (.obj [], rest)
      | rest => members fuel [] rest
    | cs =>
      match literal? cs with
      | some found => .ok found
      | none => number cs

/-- The elements from here to the closing bracket, after those already read, last first. -/
def elements : Nat → List Json → List Char → Except Flaw (Json × List Char)
  | 0, _, cs => .error (.misread .expectingValue cs.length)
  | fuel + 1, done, cs => do
    let (x, rest) ← value fuel cs
    match skipBlanks rest with
    | ']' :: rest => return (.arr (done.reverse ++ [x]), rest)
    | ',' :: rest => elements fuel (x :: done) (skipBlanks rest)
    | rest => throw (.misread .expectingComma rest.length)

/-- The members from here to the closing brace, after those already read. -/
def members : Nat → Members → List Char → Except Flaw (Json × List Char)
  | 0, _, cs => .error (.misread .expectingKey cs.length)
  | fuel + 1, done, cs =>
    match cs with
    | '"' :: rest => do
      let (key, rest) ← stringChars cs.length none rest
      match skipBlanks rest with
      | ':' :: rest =>
        let (v, rest) ← value fuel (skipBlanks rest)
        let done := put (String.ofList key) v done
        match skipBlanks rest with
        | '}' :: rest => return (.obj done, rest)
        | ',' :: rest => members fuel done (skipBlanks rest)
        | rest => throw (.misread .expectingComma rest.length)
      | rest => throw (.misread .expectingColon rest.length)
    | cs => .error (.misread .expectingKey cs.length)

end

/-- The value that the characters write. -/
def readChars (cs : List Char) : Except Flaw Json :=
  if cs.head? = some '\uFEFF' then .error (.misread .byteOrderMark cs.length)
  else do
    let (j, rest) ← value (cs.length + 1) (skipBlanks cs)
    match skipBlanks rest with
    | [] => return j
    | rest => throw (.misread .extraData rest.length)

/-- The value that a text writes. -/
def read (text : String) : Except Flaw Json :=
  readChars text.toList

end Dialogue.Json
