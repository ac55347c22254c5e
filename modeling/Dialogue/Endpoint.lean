import Dialogue.Text.Blank
import Dialogue.Text.Split
import Dialogue.Display
import Dialogue.Json.Reader

/-!
# Dialogue.Endpoint — the address of a model server

`normalize` trims an address and drops slashes at its end; an address with a scheme and an authority
but no path gets the path `/v1`. The address itself is edited as a text, and `Parts.ofText` only
decides which case applies. It fails where the authority has a bracketed host that is no IPv6
address, or a character whose compatibility form would act as a delimiter.
-/

namespace Dialogue.Endpoint

/-! ## Hosts in brackets -/

/-- The parts of a text between the marks. -/
def splitAt (mark : Char) (cs : List Char) : List (List Char) :=
  cs.splitOn mark

def isHexDigit (c : Char) : Bool := (Json.hexValue? c).isSome

/-- A decimal octet: at most 255, without a leading zero. -/
def isOctet (cs : List Char) : Bool :=
  !cs.isEmpty && cs.all Json.isDigit && cs.length ≤ 3 && (cs == ['0'] || cs.head? != some '0') &&
    Json.digitsValue cs ≤ 255

/-- Four octets with dots between them. -/
def isIPv4 (cs : List Char) : Bool :=
  let octets := splitAt '.' cs
  octets.length == 4 && octets.all isOctet

/-- One to four hexadecimal digits. -/
def isHextet (cs : List Char) : Bool :=
  !cs.isEmpty && cs.length ≤ 4 && cs.all isHexDigit

/-- Whether the parts on one side of `::` are hextets; the side may be empty. -/
def isSide (parts : List (List Char)) : Bool :=
  parts == [[]] || parts.all isHextet

/-- Whether the parts between colons make an IPv6 address. -/
def areHextets (parts : List (List Char)) : Bool :=
  let inner := (parts.drop 1).dropLast
  if inner.contains [] then
    let before := parts.take (inner.takeWhile (!·.isEmpty)).length.succ
    let after := parts.drop (before.length + 1)
    (parts.filter (!·.isEmpty)).length ≤ 7 && isSide before && isSide after
  else parts.length == 8 && parts.all isHextet

/-- Parts whose last may be an IPv4 address, which stands for two hextets. -/
def expandTail (parts : List (List Char)) : Option (List (List Char)) :=
  match parts.getLast? with
  | some last =>
    if last.contains '.' then
      if isIPv4 last then some (parts.dropLast ++ [['0'], ['0']]) else none
    else some parts
  | none => none

/-- A zone after a percent sign is not empty and holds no other one. -/
def dropZone? (cs : List Char) : Option (List Char) :=
  match splitAt '%' cs with
  | [address] => some address
  | [address, zone] => if zone.isEmpty then none else some address
  | _ => none

/-- An IPv6 address, perhaps with a zone. -/
def isIPv6 (cs : List Char) : Bool :=
  let address := do
    let parts := splitAt ':' (← dropZone? cs)
    if 3 ≤ parts.length then expandTail parts else none
  !cs.contains '/' && address.any fun parts => parts.length ≤ 9 && areHextets parts

/-! ## Parts of an address -/

/-- Why an authority cannot be used. -/
inductive Defect where
  | unpairedBracket
  | futureAddress
  | ipv4InBrackets
  | notAnAddress (host : String)
  | hiddenDelimiter (authority : String)
deriving DecidableEq, Repr

/-- The wording of a defect. -/
def Defect.message : Defect → String
  | .unpairedBracket => "Invalid IPv6 URL"
  | .futureAddress => "IPvFuture address is invalid"
  | .ipv4InBrackets => "An IPv4 address cannot be in brackets"
  | .notAnAddress host =>
    s!"{(Json.str host).quoted} does not appear to be an IPv4 or IPv6 address"
  | .hiddenDelimiter authority =>
    s!"netloc '{authority}' contains invalid characters under NFKC normalization"

/-- An address of a later version: `v`, hexadecimal digits, a dot and something after it. -/
def isFutureAddress (cs : List Char) : Bool :=
  match cs with
  | 'v' :: rest =>
    !(rest.takeWhile isHexDigit).isEmpty &&
      match rest.dropWhile isHexDigit with
      | '.' :: c :: rest => !(c :: rest).contains '\n'
      | _ => false
  | _ => false

/-- Checks a host that stands in brackets. -/
def checkBracketed (host : List Char) : Except Defect Unit :=
  if host.head? = some 'v' then
    if isFutureAddress host then .ok () else .error .futureAddress
  else if isIPv4 host then .error .ipv4InBrackets
  else if isIPv6 host then .ok ()
  else .error (.notAnAddress (String.ofList host))

/-- The characters whose compatibility form holds a delimiter of an address. -/
def hiddenDelimiters : List Char :=
  ['\u2047', '\u2048', '\u2049', '\u2100', '\u2101', '\u2105', '\u2106', '\u2a74', '\ufe13',
   '\ufe16', '\ufe55', '\ufe56', '\ufe5f', '\ufe6b', '\uff03', '\uff0f', '\uff1a', '\uff1f',
   '\uff20']

/-- Checks the brackets of an authority. -/
def checkBrackets (authority : List Char) : Except Defect Unit :=
  if authority.contains '[' != authority.contains ']' then .error .unpairedBracket
  else if authority.contains '[' then
    let inside := (authority.dropWhile (· != '[')).drop 1
    checkBracketed (inside.takeWhile (· != ']'))
  else .ok ()

/-- The parts of an address. A query or a fragment that is empty is not one that is missing. -/
structure Parts where
  scheme : List Char
  authority : List Char
  path : List Char
  query : Option (List Char)
  fragment : Option (List Char)
deriving DecidableEq, Repr

/-- Control characters and the space. -/
def isControlOrSpace (c : Char) : Bool := c.toNat ≤ 0x20

def isAsciiLetter (c : Char) : Bool := ('a' ≤ c && c ≤ 'z') || ('A' ≤ c && c ≤ 'Z')

/-- The characters of a scheme. -/
def isSchemeChar (c : Char) : Bool :=
  isAsciiLetter c || Json.isDigit c || c == '+' || c == '-' || c == '.'

/-- The scheme before the first colon, if what stands there can be one, and the rest. -/
def takeScheme (cs : List Char) : List Char × List Char :=
  let scheme := cs.takeWhile (· != ':')
  match cs.dropWhile (· != ':') with
  | ':' :: rest =>
    if scheme.head?.any isAsciiLetter && scheme.all isSchemeChar then (scheme, rest) else ([], cs)
  | _ => ([], cs)

/-- Whether the authority ends at the character. -/
def endsAuthority (c : Char) : Bool := c == '/' || c == '?' || c == '#'

/-- The schemes whose last path segment may have parameters after a semicolon. -/
def parameterSchemes : List String :=
  ["", "ftp", "hdl", "prospero", "http", "imap", "https", "shttp", "rtsp", "rtsps", "rtspu", "sip",
   "sips", "mms", "sftp", "tel"]

/-- A path without the parameters of its last segment. -/
def dropParameters (path : List Char) : List Char :=
  let last := (path.reverse.takeWhile (· != '/')).reverse
  path.take (path.length - last.length) ++ last.takeWhile (· != ';')

/-- The path of an address without parameters, if its scheme has them. -/
def Parts.plainPath (p : Parts) : List Char :=
  if parameterSchemes.contains (String.ofList (p.scheme.map Char.toLower)) then dropParameters p.path
  else p.path

/-- The characters before a mark, and those behind it if it is there. -/
def splitMark (mark : Char) (cs : List Char) : List Char × Option (List Char) :=
  match Text.cutAt? mark cs with
  | some (before, behind) => (before, some behind)
  | none => (cs, none)

/-- The authority of what follows a scheme, and what stands behind it. -/
def takeAuthority : List Char → List Char × List Char
  | '/' :: '/' :: rest => (rest.takeWhile (!endsAuthority ·), rest.dropWhile (!endsAuthority ·))
  | rest => ([], rest)

/-- Whether a character is passed over: a tab or the end of a line. -/
def isPassedOver (c : Char) : Bool := c == '\t' || c == '\r' || c == '\n'

/-- The characters of an address that count. Control characters before it do not, and line breaks
and tabs in it are passed over. -/
def counted (cs : List Char) : List Char :=
  (cs.dropWhile isControlOrSpace).filter (!isPassedOver ·)

/-- Checks an authority. -/
def checkAuthority (authority : List Char) : Except Defect Unit := do
  checkBrackets authority
  if authority.any hiddenDelimiters.contains then
    throw (.hiddenDelimiter (String.ofList authority))

/-- The parts of an address. -/
def Parts.ofText (cs : List Char) : Except Defect Parts := do
  let (scheme, rest) := takeScheme (counted cs)
  let (authority, rest) := takeAuthority rest
  checkAuthority authority
  let (rest, fragment) := splitMark '#' rest
  let (path, query) := splitMark '?' rest
  return ⟨scheme, authority, path, query, fragment⟩

/-! ## Normal form -/

/-- The path of an address that has none. -/
def defaultPath : List Char := ['/', 'v', '1']

/-- Whether an address names a server and no more: a scheme and an authority, but no path. -/
def Parts.isBare (p : Parts) : Bool :=
  !p.scheme.isEmpty && !p.authority.isEmpty && (p.plainPath.isEmpty || p.plainPath == ['/'])

/-- An address without blanks around it and without slashes at its end. -/
def trim (cs : List Char) : List Char :=
  Text.dropTrailing (· == '/') (Text.stripChars cs)

/-- The normal form of the characters of an address. -/
def normalizeChars (cs : List Char) : Except Defect (List Char) := do
  let parts ← Parts.ofText (trim cs)
  return if parts.isBare then trim cs ++ defaultPath else trim cs

/-- The normal form of an address; an empty address stays empty. -/
def normalize (url : String) : Except Defect String :=
  (normalizeChars url.toList).map String.ofList

end Dialogue.Endpoint
