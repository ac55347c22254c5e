import Dialogue.Json.Reader
import Dialogue.Failure
import Dialogue.Text.CharClass

/-!
# Dialogue.Lenient — values from JSON with forgiving conversions

A field of a record accepts more than the values of its own type: a number may be written as a
text, a truth value counts as zero or one, a whole double is a whole number. Each conversion gives
the value or says what is wrong with what it got.
-/

namespace Dialogue.Lenient

variable {α β : Type}

/-- A conversion from JSON. -/
abbrev Conversion (α : Type) := Json → Except Finding.Kind α

/-! ## Numbers written as texts -/

/-- White space that may stand around a number. -/
def isPadding (c : Char) : Bool :=
  Text.togglesAt [0x9, 0xE, 0x20, 0x21, 0x85, 0x86, 0xA0, 0xA1, 0x1680, 0x1681, 0x2000, 0x200B,
    0x2028, 0x202A, 0x202F, 0x2030, 0x205F, 0x2060, 0x3000, 0x3001] c.toNat

/-- The characters without padding at either end. -/
def unpad (cs : List Char) : List Char :=
  ((cs.dropWhile isPadding).reverse.dropWhile isPadding).reverse

/-- Whether two underscores stand side by side. -/
def hasDoubleUnderscore : List Char → Bool
  | '_' :: '_' :: _ => true
  | _ :: rest => hasDoubleUnderscore rest
  | [] => false

/-- The characters without underscores, which may stand alone between other characters. -/
def dropUnderscores? (cs : List Char) : Option (List Char) :=
  if cs.head? = some '_' ∨ cs.getLast? = some '_' ∨ hasDoubleUnderscore cs then none
  else some (cs.filter (· != '_'))

/-- A sign, and what follows it. -/
def takeSign : List Char → Bool × List Char
  | '-' :: rest => (true, rest)
  | '+' :: rest => (false, rest)
  | rest => (false, rest)

/-- The words for numbers without digits. -/
def wordNumber? (negative : Bool) (cs : List Char) : Option Binary64 :=
  let word := String.ofList (cs.map Char.toLower)
  if word = "inf" ∨ word = "infinity" then some (.infinite negative)
  else if word = "nan" then some .nan
  else none

/-- The number that digits with a point and an exponent write; digits may be missing on one side of
the point. -/
def plainNumber? (negative : Bool) (cs : List Char) : Option Binary64 :=
  let whole := cs.takeWhile Json.isDigit
  let rest := cs.dropWhile Json.isDigit
  let (fraction, rest) :=
    match rest with
    | '.' :: rest => (rest.takeWhile Json.isDigit, rest.dropWhile Json.isDigit)
    | rest => ([], rest)
  let digits := whole ++ fraction
  if digits.isEmpty then none
  else
    let number (power : Int) :=
      Binary64.ofDecimal negative (Json.digitsValue digits) (power - fraction.length)
    match rest with
    | [] => some (number 0)
    | rest =>
      match Json.exponent? rest with
      | some (power, []) => some (number power)
      | _ => none

/-- The double that a text writes. -/
def readFloat? (text : String) : Option Binary64 := do
  let (negative, body) := takeSign (← dropUnderscores? (unpad text.toList))
  wordNumber? negative body <|> plainNumber? negative body

/-- Digits without a point and the zeros after it. -/
def dropDecimalZeros (cs : List Char) : List Char :=
  match cs.dropWhile (· != '.') with
  | '.' :: rest => if rest.all (· == '0') then cs.takeWhile (· != '.') else cs
  | _ => cs

/-- The whole number that a text writes. -/
def readInt? (text : String) : Option Int := do
  let (negative, body) := takeSign (dropDecimalZeros (unpad text.toList))
  let digits ← dropUnderscores? body
  if digits.isEmpty || !digits.all Json.isDigit then none
  else
    let n : Int := Json.digitsValue digits
    return if negative then -n else n

/-- The truth value that a word writes, in any letter case. -/
def readBool? (text : String) : Option Bool :=
  let word := String.ofList (text.toList.map Char.toLower)
  if ["0", "off", "f", "false", "n", "no"].contains word then some false
  else if ["1", "on", "t", "true", "y", "yes"].contains word then some true
  else none

/-! ## Conversions -/

def text : Conversion String
  | .str s => .ok s
  | _ => .error .stringType

def float : Conversion Binary64
  | .bool b => .ok (Binary64.ofInt (if b then 1 else 0))
  | .int i =>
    let x := Binary64.ofInt i
    if x.isFinite then .ok x else .error .floatType
  | .float x => .ok x
  | .str s =>
    match readFloat? s with
    | some x => .ok x
    | none => .error .floatParsing
  | _ => .error .floatType

/-- Whether a whole number fits into 64 bits with a sign. -/
def fitsWord (i : Int) : Bool := -(Binary64.twoTo 63 : Int) ≤ i && i < Binary64.twoTo 63

def int : Conversion Int
  | .bool b => .ok (if b then 1 else 0)
  | .int i => .ok i
  | .float x =>
    if !x.isFinite then .error .finiteNumber
    else
      match x.toInt? with
      | some i => if fitsWord i then .ok i else .error .intParsingSize
      | none => .error .intFromFloat
  | .str s =>
    if Json.maxDigits < (unpad s.toList).length then .error .intParsingSize
    else
      match readInt? s with
      | some i => .ok i
      | none => .error .intParsing
  | _ => .error .intType

/-- Zero and one as truth values. -/
def boolOfInt (i : Int) : Except Finding.Kind Bool :=
  if i = 0 then .ok false
  else if i = 1 then .ok true
  else if fitsWord i then .error .boolParsing
  else .error .boolType

def bool : Conversion Bool
  | .bool b => .ok b
  | .int i => boolOfInt i
  | .float x =>
    match x.toInt? with
    | some i => boolOfInt i
    | none => .error .boolType
  | .str s =>
    match readBool? s with
    | some b => .ok b
    | none => .error .boolParsing
  | _ => .error .boolType

/-! ## Reading the fields of a record -/

/-- What reading a field found: the value, or everything that is wrong with it. -/
abbrev Checked (α : Type) := Except (List Finding) α

/-- A conversion at a place. -/
def placed (path : List Step) (convert : Conversion α) (j : Json) : Checked α :=
  (convert j).mapError fun kind => [⟨path, kind⟩]

/-- Null for none, else a conversion. -/
def nullable (convert : Conversion α) : Conversion (Option α)
  | .null => .ok none
  | j => (convert j).map some

/-- A conversion whose value has to pass a test. -/
def bounded (convert : Conversion α) (fails : α → Bool) (kind : Finding.Kind) : Conversion α :=
  fun j => do
    let x ← convert j
    if fails x then throw kind
    return x

/-- Both values, or what is wrong with either. -/
def both (x : Checked α) (y : Checked β) : Checked (α × β) :=
  match x, y with
  | .ok a, .ok b => .ok (a, b)
  | .ok _, .error bs => .error bs
  | .error as, .ok _ => .error as
  | .error as, .error bs => .error (as ++ bs)

/-- The texts of an array, or what is wrong with each element. -/
def textElements (path : List Step) (position : Nat) : List Json → Checked (List String)
  | [] => .ok []
  | x :: rest =>
    (both (placed (path ++ [.index position]) text x) (textElements path (position + 1) rest)).map
      fun (s, ss) => s :: ss

/-- A list of texts at a place. -/
def texts (path : List Step) : Json → Checked (List String)
  | .arr elements => textElements path 0 elements
  | _ => .error [⟨path, .listType⟩]

/-- A function and its argument, or what is wrong with either. -/
def Checked.and (f : Checked (α → β)) (x : Checked α) : Checked β :=
  (both f x).map fun (f, a) => f a

/-- The value of a field that may be left out. -/
def field (path : List Step) (members : Json.Members) (name : String) (convert : Conversion α)
    (default : α) : Checked α :=
  match members.lookup name with
  | some j => placed (path ++ [.key name]) convert j
  | none => .ok default

end Dialogue.Lenient
