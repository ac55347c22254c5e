import Dialogue.Lenient
import Dialogue.Number.Layout
import Dialogue.Text.Split

/-!
# Dialogue.Yaml.Scalar — what a plain scalar stands for

A scalar without quotes stands for null, a truth value, a number, a date, or a text; which of them
is decided by its form alone. Whole numbers have binary, octal, decimal, hexadecimal and sexagesimal
forms, and underscores between digits. A number with an exponent needs a point and a sign.
-/

namespace Dialogue.Yaml

/-- The kinds of scalars. -/
inductive Scalar.Kind where
  | null
  | bool
  | int
  | float
  | date
  /-- The key under which another mapping is merged in. -/
  | merge
  /-- The sign of a default value. -/
  | default
  | text
deriving DecidableEq, Repr

namespace Scalar

/-! ## Forms -/

def nullWords : List String := ["", "~", "null", "Null", "NULL"]

def trueWords : List String := ["yes", "Yes", "YES", "true", "True", "TRUE", "on", "On", "ON"]

def falseWords : List String := ["no", "No", "NO", "false", "False", "FALSE", "off", "Off", "OFF"]

def infinityWords : List String := [".inf", ".Inf", ".INF"]

def nanWords : List String := [".nan", ".NaN", ".NAN"]

/-- Whether a character is a digit or an underscore. -/
def isDigitOrBar (c : Char) : Bool := c.isDigit || c == '_'

/-- Whether there are characters and all pass a test. -/
def allOf (p : Char → Bool) (cs : List Char) : Bool := !cs.isEmpty && cs.all p

/-- Whether characters are a digit with digits and underscores behind it. -/
def isBarred : List Char → Bool
  | c :: rest => c.isDigit && rest.all isDigitOrBar
  | [] => false

/-- Whether characters are one or two digits of a sexagesimal place. -/
def isPlace : List Char → Bool
  | [c] => c.isDigit
  | [c, d] => '0' ≤ c && c ≤ '5' && d.isDigit
  | _ => false

/-- Whether characters are a first part and then places, at least one. -/
def isSexagesimal (isFirst : List Char → Bool) (cs : List Char) : Bool :=
  match Text.splitAt ':' cs with
  | first :: place :: places => isFirst first && (place :: places).all isPlace
  | _ => false

/-- Whether characters are digits and underscores that do not start with a zero. -/
def isBarredFromOne (cs : List Char) : Bool :=
  cs.head? != some '0' && isBarred cs

/-- Whether characters without a sign are a whole number. -/
def isUnsignedInt : List Char → Bool
  | ['0'] => true
  | '0' :: 'b' :: digits => allOf (fun c => c == '0' || c == '1' || c == '_') digits
  | '0' :: 'x' :: digits => allOf (fun c => (Json.hexValue? c).isSome || c == '_') digits
  | '0' :: digits => allOf (fun c => ('0' ≤ c && c ≤ '7') || c == '_') digits
  | cs => isBarredFromOne cs || isSexagesimal isBarredFromOne cs

/-- The characters without a sign in front. -/
def dropSign (cs : List Char) : List Char := (Lenient.takeSign cs).2

def isInt (cs : List Char) : Bool := isUnsignedInt (dropSign cs)

/-- Whether characters are digits and underscores with perhaps an exponent behind them; the exponent
has a sign. -/
def isFraction (cs : List Char) : Bool :=
  match cs.dropWhile isDigitOrBar with
  | [] => true
  | e :: sign :: digits =>
    (e == 'e' || e == 'E') && (sign == '+' || sign == '-') && allOf Char.isDigit digits
  | _ => false

/-- Whether characters without a sign are a number with a point. -/
def isPointed (cs : List Char) : Bool :=
  match Text.cutAt? '.' cs with
  | some (whole, fraction) =>
    (isBarred whole && isFraction fraction) ||
      (isSexagesimal isBarred whole && fraction.all isDigitOrBar)
  | none => false

/-- Whether characters are a number that starts with its point. -/
def isBarePoint : List Char → Bool
  | '.' :: c :: rest => c.isDigit && isFraction (c :: rest)
  | _ => false

def isFloat (cs : List Char) : Bool :=
  isPointed (dropSign cs) || isBarePoint cs ||
    infinityWords.contains (String.ofList (dropSign cs)) || nanWords.contains (String.ofList cs)

/-! ## Dates -/

/-- A date, and the hour, minute and second if a time is given. -/
structure Date where
  year : Nat
  month : Nat
  day : Nat
  clock : Option (Nat × Nat × Nat)
deriving DecidableEq, Repr

/-- The number that so many digits at the start of the characters write. -/
def takeNumber? (least most : Nat) (cs : List Char) : Option (Nat × List Char) :=
  let digits := (cs.take most).takeWhile Char.isDigit
  if digits.length < least then none else some (Json.digitsValue digits, cs.drop digits.length)

/-- What follows a character, if it is there. -/
def afterChar? (mark : Char) : List Char → Option (List Char)
  | c :: rest => if c = mark then some rest else none
  | [] => none

def isGap (c : Char) : Bool := c == ' ' || c == '\t'

/-- What follows the sign between a date and a time. -/
def afterDate? : List Char → Option (List Char)
  | 'T' :: rest => some rest
  | 't' :: rest => some rest
  | c :: rest => if isGap c then some (rest.dropWhile isGap) else none
  | [] => none

/-- Whether characters are a time zone or nothing. -/
def isZone (cs : List Char) : Bool :=
  match cs.dropWhile isGap with
  | [] => cs.isEmpty
  | ['Z'] => true
  | sign :: rest =>
    (sign == '+' || sign == '-') &&
      match takeNumber? 1 2 rest with
      | some (_, []) => true
      | some (_, ':' :: minutes) => minutes.length == 2 && minutes.all Char.isDigit
      | _ => false

/-- The date that characters write. -/
def readDate? (cs : List Char) : Option Date := do
  let (year, rest) ← takeNumber? 4 4 cs
  let (month, rest) ← takeNumber? 1 2 (← afterChar? '-' rest)
  let (day, rest) ← takeNumber? 1 2 (← afterChar? '-' rest)
  if rest.isEmpty then
    if cs.length = 10 then return ⟨year, month, day, none⟩ else none
  else
    let (hour, rest) ← takeNumber? 1 2 (← afterDate? rest)
    let (minute, rest) ← takeNumber? 2 2 (← afterChar? ':' rest)
    let (second, rest) ← takeNumber? 2 2 (← afterChar? ':' rest)
    let rest := match rest with
      | '.' :: fraction => fraction.dropWhile Char.isDigit
      | rest => rest
    if isZone rest then return ⟨year, month, day, some (hour, minute, second)⟩ else none

def isLeap (year : Nat) : Bool := year % 4 == 0 && (year % 100 != 0 || year % 400 == 0)

/-- The number of days of a month. -/
def monthLength (year month : Nat) : Nat :=
  if month = 2 then if isLeap year then 29 else 28
  else if month = 4 ∨ month = 6 ∨ month = 9 ∨ month = 11 then 30
  else 31

/-- What is wrong with a date that the calendar does not have. -/
def Date.flaw? (d : Date) : Option String :=
  let (hour, minute, second) := d.clock.getD (0, 0, 0)
  if d.year = 0 then some "year 0 is out of range"
  else if d.month = 0 ∨ 12 < d.month then some "month must be in 1..12"
  else if d.day = 0 ∨ monthLength d.year d.month < d.day then some "day is out of range for month"
  else if 23 < hour then some "hour must be in 0..23"
  else if 59 < minute then some "minute must be in 0..59"
  else if 59 < second then some "second must be in 0..59"
  else none

/-! ## Kinds and values -/

/-- The kind of a plain scalar. -/
def kindOf (text : String) : Kind :=
  let cs := text.toList
  if nullWords.contains text then .null
  else if trueWords.contains text || falseWords.contains text then .bool
  else if isFloat cs then .float
  else if isInt cs then .int
  else if (readDate? cs).isSome then .date
  else if text == "<<" then .merge
  else if text == "=" then .default
  else .text

/-- The characters without underscores. -/
def unbar (cs : List Char) : List Char := cs.filter (· != '_')

/-- The number that digits write in a base. -/
def inBase (base : Nat) (digits : List Char) : Nat :=
  digits.foldl (fun n c => n * base + (Json.hexValue? c).getD 0) 0

/-- The number that sexagesimal parts write. -/
def ofParts (parts : List (List Char)) : Nat :=
  parts.foldl (fun n part => n * 60 + Json.digitsValue part) 0

/-- The value of characters without a sign that are a whole number, or why they have none. -/
def unsignedInt (cs : List Char) : Except String Nat :=
  let noDigits (base : Nat) : String := s!"invalid literal for int() with base {base}: ''"
  match cs with
  | ['0'] => .ok 0
  | '0' :: 'b' :: digits => if digits.isEmpty then .error (noDigits 2) else .ok (inBase 2 digits)
  | '0' :: 'x' :: digits => if digits.isEmpty then .error (noDigits 16) else .ok (inBase 16 digits)
  | '0' :: digits => .ok (inBase 8 digits)
  | cs =>
    match (Text.splitAt ':' cs).find? fun part => Json.maxDigits < part.length with
    | some part => .error ((Json.Flaw.digitLimit part.length).message "")
    | none => .ok (ofParts (Text.splitAt ':' cs))

/-- The value of a whole number. -/
def intValue (cs : List Char) : Except String Int := do
  let (negative, body) := Lenient.takeSign (unbar cs)
  let n ← unsignedInt body
  return if negative then -n else n

/-- The value of sexagesimal parts, the last of which may have a fraction. -/
def sexagesimalFloat (negative : Bool) (parts : List (List Char)) : Binary64 :=
  let last := parts.getLastD []
  let (whole, fraction) := (Text.cutAt? '.' last).getD (last, [])
  let n := ofParts (parts.dropLast ++ [whole])
  Binary64.ofDecimal negative (n * Binary64.tenTo fraction.length + Json.digitsValue fraction)
    (-(fraction.length : Int))

/-- The value of a number with a point. -/
def floatValue (cs : List Char) : Binary64 :=
  let cs := (unbar cs).map Char.toLower
  let (negative, body) := Lenient.takeSign cs
  if body == ".inf".toList then .infinite negative
  else if body == ".nan".toList then .nan
  else
    match Text.splitAt ':' body with
    | [body] => (Lenient.plainNumber? negative body).getD .nan
    | parts => sexagesimalFloat negative parts

end Scalar

end Dialogue.Yaml
