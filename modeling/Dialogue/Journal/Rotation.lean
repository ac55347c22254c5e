import Dialogue.Lenient
import Dialogue.Text.Blank
import Dialogue.Text.Case
import Dialogue.Text.Split

/-!
# Dialogue.Journal.Rotation — when a file is begun anew, and how long old ones are kept

A rotation is written as a size (`20 MB`), as a span of time (`1 week 2 days`), as a frequency
(`daily`), or as a day and a time of day (`monday at 12:00`). A retention is a span of time. Texts
are ASCII apart from white space. Only whether a text can be read is decided here.
-/

namespace Dialogue.Journal.Rotation

/-- Why a text is no rotation, or no retention. -/
inductive Defect where
  | rotation (text : String)
  | retention (text : String)
  | sizeNumber (text : String)
  | spanNumber (text : String)
  | spanUnit (text : String)
  | day (text : String)
  | time (text : String)
  /-- The value is no text, number or null. -/
  | rotationKind (kind : String)
  | retentionKind (kind : String)
deriving DecidableEq, Repr

/-- The wording of a defect. -/
def Defect.message : Defect → String
  | .rotation text => s!"Cannot parse rotation from: '{text}'"
  | .retention text => s!"Cannot parse retention from: '{text}'"
  | .sizeNumber text => s!"Invalid float value while parsing size: '{text}'"
  | .spanNumber text => s!"Invalid float value while parsing duration: '{text}'"
  | .spanUnit text => s!"Invalid unit value while parsing duration: '{text}'"
  | .day text => s!"Invalid day while parsing daytime: '{text}'"
  | .time text => s!"Invalid time while parsing daytime: '{text}'"
  | .rotationKind kind => s!"Cannot infer rotation for objects of type: '{kind}'"
  | .retentionKind kind => s!"Cannot infer retention for objects of type: '{kind}'"

/-- What a rotation is. -/
inductive Kind where
  | size
  | span
  | frequency
  | dayTime
deriving DecidableEq, Repr

/-! ## Numbers and units -/

/-- The characters that a number is made of. -/
def isNumberChar (c : Char) : Bool :=
  c.isDigit || ['e', 'E', '+', '-', '.'].contains c

/-- Whether characters are a number. -/
def isNumber (cs : List Char) : Bool :=
  let (negative, body) := Lenient.takeSign cs
  (Lenient.plainNumber? negative body).isSome

def lowerAscii (cs : List Char) : List Char := cs.map Char.toLower

/-- Whether characters are a unit of size: a letter for the magnitude, `i` for powers of two, and
the letter of bits or bytes. -/
def isSizeUnit (cs : List Char) : Bool :=
  let cs := lowerAscii cs
  let rest :=
    match cs with
    | c :: rest => if "kmgtpezy".toList.contains c then rest else cs
    | [] => []
  rest == ['b'] || rest == ['i', 'b']

/-- Whether a text is a size. -/
def isSize (cs : List Char) : Except Defect Bool :=
  let number := cs.takeWhile isNumberChar
  let unit := (cs.dropWhile isNumberChar).dropWhile Text.isBlank
  if number.isEmpty || !isSizeUnit unit then .ok false
  else if isNumber number then .ok true
  else .error (.sizeNumber (String.ofList number))

/-- The words for units of time. -/
def spanUnits : List String :=
  ["y", "year", "years", "month", "months", "w", "week", "weeks", "d", "day", "days", "h", "hour",
    "hours", "min", "mins", "minute", "minutes", "s", "sec", "secs", "second", "seconds", "ms",
    "millisecond", "milliseconds", "us", "microsecond", "microseconds"]

/-- What may stand between one part of a span and the next. -/
def isSpanSeparator (c : Char) : Bool := Text.isBlank c || c == ','

/-- A number and a unit at the start of the characters, and what follows them. A letter that could
end the number is the unit when there is no other. -/
def spanPart? (cs : List Char) : Option (List Char × List Char × List Char) :=
  let number := cs.takeWhile isNumberChar
  let rest := (cs.dropWhile isNumberChar).dropWhile Text.isBlank
  let unit := rest.takeWhile Char.isAlpha
  let after := (rest.dropWhile Char.isAlpha).dropWhile isSpanSeparator
  if number.isEmpty then none
  else if !unit.isEmpty then some (number, unit, after)
  else
    match number.getLast? with
    | some c => if c.isAlpha && 1 < number.length then some (number.dropLast, [c], after) else none
    | none => none

/-- The numbers and units of a text, if it is made of nothing else. -/
def spanParts? : Nat → List Char → Option (List (List Char × List Char))
  | _, [] => some []
  | 0, _ => none
  | fuel + 1, cs => do
    let (number, unit, rest) ← spanPart? cs
    return (number, unit) :: (← spanParts? fuel rest)

/-- Whether a text is a span of time. -/
def isSpan (cs : List Char) : Except Defect Bool :=
  match spanParts? cs.length cs with
  | none | some [] => .ok false
  | some parts => do
    parts.forM fun (number, unit) => do
      if !isNumber number then throw (.spanNumber (String.ofList number))
      if !spanUnits.contains (String.ofList (lowerAscii unit)) then
        throw (.spanUnit (String.ofList unit))
    return true

/-! ## Frequencies, days and times -/

def frequencies : List String := ["hourly", "daily", "weekly", "monthly", "yearly"]

def weekdays : List String :=
  ["monday", "tuesday", "wednesday", "thursday", "friday", "saturday", "sunday"]

/-- Whether characters are a day of the week, by its name or as `w0` to `w6`. -/
def isDay (cs : List Char) : Except Defect Bool :=
  let cs := Text.stripChars cs
  let word := Text.lower (String.ofList cs)
  match word.toList with
  | 'w' :: digits =>
    if weekdays.contains word then .ok true
    else if digits.isEmpty || !digits.all Char.isDigit then .ok false
    else if Json.digitsValue digits < 7 then .ok true
    else .error (.day (String.ofList cs))
  | _ => .ok (weekdays.contains word)

/-- Whether characters are a number of one or two digits within bounds. -/
def isField (least most : Nat) (cs : List Char) : Bool :=
  (cs.length == 1 || cs.length == 2) && cs.all Char.isDigit &&
    least ≤ Json.digitsValue cs && Json.digitsValue cs ≤ most

/-- Whether characters are a fraction of a second. -/
def isFraction (cs : List Char) : Bool :=
  !cs.isEmpty && cs.length ≤ 6 && cs.all Char.isDigit

/-- Whether characters are seconds, perhaps with a fraction. -/
def isSeconds (cs : List Char) : Bool :=
  match Text.splitAt '.' cs with
  | [whole] => isField 0 59 whole
  | [whole, fraction] => isField 0 59 whole && isFraction fraction
  | _ => false

/-- Whether characters are a time whose hours lie within bounds. -/
def isClock (least most : Nat) (cs : List Char) : Bool :=
  match Text.splitAt ':' cs with
  | [hours] => isField least most hours
  | [hours, minutes] => isField least most hours && isField 0 59 minutes
  | [hours, minutes, seconds] =>
    isField least most hours && isField 0 59 minutes && isSeconds seconds
  | _ => false

/-- A time and the half of the day behind it, if there is one. -/
def splitHalf (cs : List Char) : List Char × Option (List Char) :=
  match (lowerAscii cs).reverse with
  | 'm' :: 'a' :: _ => (cs.take (cs.length - 2), some ['a', 'm'])
  | 'm' :: 'p' :: _ => (cs.take (cs.length - 2), some ['p', 'm'])
  | _ => (cs, none)

/-- Whether characters look like a time: digits with points and colons, and perhaps the half of the
day. -/
def looksLikeTime (cs : List Char) : Bool :=
  let digits := Text.dropTrailing Text.isBlank (splitHalf cs).1
  !digits.isEmpty && digits.all fun c => c.isDigit || c == '.' || c == ':'

/-- Whether characters are a time of day. The half of the day stands apart, and not behind hours and
minutes alone. -/
def isTimeOfDay (cs : List Char) : Bool :=
  match splitHalf cs with
  | (_, none) => isClock 0 23 cs
  | (front, some _) =>
    let clock := Text.dropTrailing Text.isBlank front
    clock.length < front.length && (Text.splitAt ':' clock).length != 2 && isClock 1 12 clock

/-- Whether characters are a time; what looks like one has to be one. -/
def isTime (cs : List Char) : Except Defect Bool :=
  let cs := Text.stripChars cs
  if !looksLikeTime cs then .ok false
  else if isTimeOfDay cs then .ok true
  else .error (.time (String.ofList cs))

/-- A day and a time around the first `at`. -/
def splitDayTime? (before : List Char) : List Char → Option (List Char × List Char)
  | [] => none
  | c :: rest =>
    if Text.isBlank c then
      match rest.dropWhile Text.isBlank with
      | a :: t :: b :: time =>
        if lowerAscii [a, t] == ['a', 't'] && Text.isBlank b then
          some (before.reverse, time.dropWhile Text.isBlank)
        else splitDayTime? (c :: before) rest
      | _ => splitDayTime? (c :: before) rest
    else splitDayTime? (c :: before) rest

/-- Whether a text is a day, a time, or both. -/
def isDayTime (cs : List Char) : Except Defect Bool :=
  match splitDayTime? [] cs with
  | some (day, time) => do
    if !(← isDay day) then throw (.day (String.ofList day))
    if !(← isTime time) then throw (.time (String.ofList time))
    return true
  | none => do
    let day ← isDay cs
    let time ← isTime cs
    return day || time

/-! ## Rotations and retentions -/

/-- What a text says about rotation. -/
def read (text : String) : Except Defect Kind := do
  let cs := Text.stripChars text.toList
  if ← isSize cs then return .size
  if ← isSpan cs then return .span
  if frequencies.contains (Text.lower (String.ofList cs)) then return .frequency
  if ← isDayTime cs then return .dayTime
  throw (.rotation text)

/-- Fails for a value that is no rotation; null and a number of bytes always are. -/
def check : Json → Except Defect Unit
  | .str text => discard (read text)
  | .arr _ => .error (.rotationKind "list")
  | .obj _ => .error (.rotationKind "dict")
  | _ => .ok ()

/-- Fails for a value that is no retention; null and a number of files always are. -/
def checkRetention : Json → Except Defect Unit
  | .str text => do
    if !(← isSpan (Text.stripChars text.toList)) then throw (.retention text)
  | .float _ => .error (.retentionKind "float")
  | .arr _ => .error (.retentionKind "list")
  | .obj _ => .error (.retentionKind "dict")
  | _ => .ok ()

end Dialogue.Journal.Rotation
