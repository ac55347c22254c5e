import Dialogue.Yaml.BlockText
import Dialogue.Yaml.Plain
import Dialogue.Yaml.Quoted
import Dialogue.Yaml.Token

/-!
# Dialogue.Yaml.Lexer — from a text to tokens

Blocks are told by how far their lines are indented, and a mapping's key is known only once its
colon comes. So the lexer remembers where a key may have begun, one place for each level of brackets, and
puts the tokens of the key there when it meets the colon. A key stands on one line and has at most
1024 characters before its colon.
-/

namespace Dialogue.Yaml

/-- A place where a key may have begun. -/
structure PossibleKey where
  /-- The number of brackets that are open. -/
  level : Nat
  /-- The number of tokens before it. -/
  position : Nat
  /-- Whether nothing but a key may stand there. -/
  required : Bool
  offset : Nat
  line : Nat
  column : Nat
deriving Repr

/-- The state of the lexer. -/
structure Lexer where
  cursor : Cursor
  tokens : List Token := []
  /-- The number of brackets that are open. -/
  level : Nat := 0
  /-- How far the innermost block is indented, and those around it. -/
  indent : Int := -1
  outer : List Int := []
  /-- Whether a key may begin here. -/
  allowKey : Bool := true
  keys : List PossibleKey := []
deriving Repr

namespace Lexer

/-! ## Keys -/

/-- The most characters that a key may have. -/
def maxKey : Nat := 1024

/-- Whether a key that began here can no longer be one. -/
def isStale (c : Cursor) (k : PossibleKey) : Bool :=
  k.line != c.line || maxKey < c.offset - k.offset

/-- Forgets the keys that can no longer be ones. -/
def dropStale (l : Lexer) : Option Lexer :=
  if l.keys.any fun k => isStale l.cursor k && k.required then none
  else some { l with keys := l.keys.filter (!isStale l.cursor ·) }

/-- Forgets the key that may have begun between the innermost brackets. -/
def dropKey (l : Lexer) : Option Lexer :=
  if l.keys.any fun k => k.level == l.level && k.required then none
  else some { l with keys := l.keys.filter (·.level != l.level) }

/-- Remembers that a key may begin here. -/
def saveKey (l : Lexer) : Option Lexer :=
  if !l.allowKey then some l
  else do
    let l ← l.dropKey
    let c := l.cursor
    let key : PossibleKey :=
      { level := l.level, position := l.tokens.length, offset := c.offset, line := c.line,
        column := c.column, required := l.level == 0 && l.indent == c.column }
    return { l with keys := l.keys ++ [key] }

/-! ## Blocks -/

def add (token : Token) (l : Lexer) : Lexer := { l with tokens := l.tokens ++ [token] }

/-- Puts tokens at an earlier position. -/
def insert (position : Nat) (tokens : List Token) (l : Lexer) : Lexer :=
  { l with tokens := l.tokens.take position ++ tokens ++ l.tokens.drop position }

/-- Ends the blocks that are indented further than a column. -/
def unwind (column : Int) : List Int → Lexer → Lexer
  | [], l => l
  | outer :: rest, l =>
    if l.level == 0 && column < l.indent then
      unwind column rest { l.add .blockEnd with indent := outer, outer := rest }
    else l

def unwindTo (column : Int) (l : Lexer) : Lexer := unwind column l.outer l

/-- Begins a block at a column, if it is indented further than the innermost. -/
def deepen (column : Nat) (l : Lexer) : Lexer × Bool :=
  if l.indent < column then
    ({ l with outer := l.indent :: l.outer, indent := column }, true)
  else (l, false)

/-- Begins a block where the cursor is, if it is indented further than the innermost. -/
def begin (block : Token) (l : Lexer) : Lexer :=
  match l.deepen l.cursor.column with
  | (l, true) => l.add block
  | (l, false) => l

/-! ## One token -/

/-- Passes over spaces, comments and line breaks. -/
def skipBlank : Nat → Lexer → Lexer
  | 0, l => l
  | fuel + 1, l =>
    let c := l.cursor.skipSpaces
    let c := if c.peek == '#' then c.skipLine else c
    match c.lineBreak? with
    | some (_, c) => skipBlank fuel { l with cursor := c, allowKey := l.allowKey || l.level == 0 }
    | none => { l with cursor := c }

/-- Whether a character may stand in a name. -/
def isNameChar (x : Char) : Bool := x.isAlphanum || x == '-' || x == '_'

/-- The name of an anchor, behind its mark. -/
def anchorName (c : Cursor) : Option (String × Cursor) :=
  let (name, c) := c.takeWhile isNameChar
  let x := c.peek
  if name.isEmpty || !(isGap x || ['?', ':', ',', ']', '}', '%', '@', '\x60'].contains x) then none
  else some (String.ofList name, c)

/-- Whether a character may stand in a tag. -/
def isTagChar (x : Char) : Bool :=
  x.isAlphanum || "-;/?:@&=+$,_.!~*'()[]%".toList.contains x

/-- What a tag says behind its handle; escapes are kept as they are. -/
def tagSuffix (c : Cursor) : Option (String × Cursor) :=
  let (suffix, c) := c.takeWhile isTagChar
  if suffix.isEmpty then none else some (String.ofList suffix, c)

/-- A handle: an exclamation mark, or a name between two. -/
def tagHandle (c : Cursor) : Option (String × Cursor) :=
  if c.peek != '!' then none
  else if c.peekAt 1 == ' ' then some ("!", c.next)
  else
    let (name, after) := c.next.takeWhile isNameChar
    if after.peek == '!' then some (String.ofList ('!' :: name ++ ['!']), after.next)
    else none

/-- A tag. -/
def readTag (c : Cursor) : Option (Tag × Cursor) := do
  let x := c.peekAt 1
  let (tag, c) ←
    if x == '<' then do
      let (suffix, c) ← tagSuffix (c.skip 2)
      if c.peek == '>' then some ((⟨none, suffix⟩ : Tag), c.next) else none
    else if isGap x then some (⟨none, "!"⟩, c.next)
    else do
      let word := (c.rest.drop 1).takeWhile fun x => x != ' ' && !isEnd x
      let (handle, c) ← if word.contains '!' then tagHandle c else some ("!", c.next)
      let (suffix, c) ← tagSuffix c
      some (⟨some handle, suffix⟩, c)
  if c.peek == ' ' || isEnd c.peek then some (tag, c) else none

/-- The number of a version. -/
def versionNumber (c : Cursor) : Option (Nat × Cursor) :=
  let (digits, c) := c.takeWhile Char.isDigit
  if digits.isEmpty then none else some (Json.digitsValue digits, c)

/-- What a directive says, behind its name. -/
def directiveValue (name : String) (c : Cursor) : Option (Token × Cursor) :=
  if name == "YAML" then do
    let (major, c) ← versionNumber c.skipSpaces
    if c.peek != '.' then none
    let (_, c) ← versionNumber c.next
    return (.version major, c)
  else if name == "TAG" then do
    let (handle, c) ← tagHandle c.skipSpaces
    if c.peek != ' ' then none
    let (target, c) ← tagSuffix c.skipSpaces
    return (.handle handle target, c)
  else some (.otherDirective, c.skipLine)

/-- A directive and the rest of its line. -/
def directive (c : Cursor) : Option (Token × Cursor) := do
  let (name, c) := c.next.takeWhile isNameChar
  if name.isEmpty || !(c.peek == ' ' || isEnd c.peek) then none
  let (token, c) ← directiveValue (String.ofList name) c
  if !(c.peek == ' ' || isEnd c.peek) then none
  return (token, ← BlockText.ignoredLine c)

/-- A word at which a key may begin. -/
def word (l : Lexer) (token : Token) (c : Cursor) (allowKey : Bool := false) : Option Lexer := do
  let l ← l.saveKey
  return { l.add token with cursor := c, allowKey }

/-- A mark between two documents. -/
def documentMark (l : Lexer) (token : Token) (c : Cursor) : Option Lexer := do
  let l ← (l.unwindTo (-1)).dropKey
  return { l.add token with cursor := c, allowKey := false }

/-- An opening bracket. -/
def openBracket (l : Lexer) (token : Token) : Option Lexer := do
  let l ← l.saveKey
  return { l.add token with cursor := l.cursor.next, level := l.level + 1, allowKey := true }

/-- A closing bracket. -/
def closeBracket (l : Lexer) (token : Token) : Option Lexer := do
  let l ← l.dropKey
  return { l.add token with cursor := l.cursor.next, level := l.level - 1, allowKey := false }

/-- A comma. -/
def comma (l : Lexer) : Option Lexer := do
  let l ← l.dropKey
  return { l.add .comma with cursor := l.cursor.next, allowKey := true }

/-- The mark of an element or of a key, which begins a block where a key may begin. -/
def blockMark (l : Lexer) (block token : Token) (allowKey : Bool) : Option Lexer := do
  if l.level == 0 && !l.allowKey then none
  let l := if l.level == 0 then l.begin block else l
  let l ← l.dropKey
  return { l.add token with cursor := l.cursor.next, allowKey }

/-- A colon: behind a key that began earlier, or with no key before it. -/
def colon (l : Lexer) : Option Lexer :=
  match l.keys.find? (·.level == l.level) with
  | some k =>
    let l := { l with keys := l.keys.filter (·.level != l.level) }
    let (l, deeper) := if l.level == 0 then l.deepen k.column else (l, false)
    let l := l.insert k.position (if deeper then [.blockMapping, .key] else [.key])
    some { l.add .value with cursor := l.cursor.next, allowKey := false }
  | none => l.blockMark .blockMapping .value (l.level == 0)

/-- A block of lines. -/
def blockText (l : Lexer) : Option Lexer := do
  let l ← l.dropKey
  let (text, c) ← BlockText.read l.indent l.cursor
  return { l.add (.scalar (String.ofList text) false) with cursor := c, allowKey := true }

/-- The characters that cannot begin a plain text. -/
def indicators : List Char := "-?:,[]{}#&*!|>'\"%@".toList ++ ['\x60']

/-- Whether a plain text begins here. -/
def beginsPlain (l : Lexer) : Bool :=
  let x := l.cursor.peek
  !(isGap x || indicators.contains x) ||
    (!isGap (l.cursor.peekAt 1) && (x == '-' || (l.level == 0 && (x == '?' || x == ':'))))

/-- Whether a mark is followed by a gap; between brackets it need not be. -/
def standsAlone (l : Lexer) : Bool := l.level != 0 || isGap (l.cursor.peekAt 1)

/-- Reads one token. -/
def token (l : Lexer) : Option Lexer := do
  let l := l.unwindTo l.cursor.column
  let c := l.cursor
  let x := c.peek
  if x == '%' && c.column == 0 then
    let (token, c) ← directive c
    l.documentMark token c
  else if c.column == 0 && c.isAtMark '-' then l.documentMark .documentStart (c.skip 3)
  else if c.column == 0 && c.isAtMark '.' then l.documentMark .documentEnd (c.skip 3)
  else if x == '[' then l.openBracket .flowSequence
  else if x == '{' then l.openBracket .flowMapping
  else if x == ']' then l.closeBracket .flowSequenceEnd
  else if x == '}' then l.closeBracket .flowMappingEnd
  else if x == ',' then l.comma
  else if x == '-' && isGap (c.peekAt 1) then l.blockMark .blockSequence .entry true
  else if x == '?' && l.standsAlone then l.blockMark .blockMapping .key (l.level == 0)
  else if x == ':' && l.standsAlone then l.colon
  else if x == '*' then
    let (name, c) ← anchorName c.next
    l.word (.alias name) c
  else if x == '&' then
    let (name, c) ← anchorName c.next
    l.word (.anchor name) c
  else if x == '!' then
    let (tag, c) ← readTag c
    l.word (.tag tag) c
  else if (x == '|' || x == '>') && l.level == 0 then l.blockText
  else if x == '\'' || x == '"' then
    let (text, c) ← Quoted.read c
    l.word (.scalar (String.ofList text) false) c
  else if l.beginsPlain then
    let s := Plain.read (l.level != 0) (l.indent + 1) c
    l.word (.scalar (String.ofList s.text) true) s.cursor s.lineEnded
  else none

/-- Ends the blocks that are open at the end of the text. -/
def finish (l : Lexer) : Option (List Token) := do
  let l ← (l.unwindTo (-1)).dropKey
  return l.tokens

/-- Reads all tokens. Every token takes at least one character. -/
def run : Nat → Lexer → Option (List Token)
  | 0, _ => none
  | fuel + 1, l => do
    let l ← (l.skipBlank (l.cursor.rest.length + 1)).dropStale
    if l.cursor.rest.isEmpty then l.finish
    else run fuel (← l.token)

end Lexer

/-- The tokens of a text; none for a text that is malformed. A mark of byte order at its start is
passed over. -/
def tokens? (text : String) : Option (List Token) :=
  let cs := text.toList
  if !cs.all isAllowed then none
  else
    let start : Cursor := { rest := cs }
    let start := if start.peek == '\ufeff' then start.next else start
    Lexer.run (cs.length + 1) { cursor := start }

end Dialogue.Yaml
