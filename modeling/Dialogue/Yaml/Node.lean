import Dialogue.Yaml.Lexer

/-!
# Dialogue.Yaml.Node — the tree of a document

A document is a scalar, a sequence or a mapping. A node may be given a name and stand again wherever
that name is used; a name has to be given before it is used, and is given once. A text holds at most
one document.

A node gets its name when all of it has been read, so that every node is a finite tree. A node that
uses its own name inside, and so contains itself, is left out: its document is read as malformed.
-/

namespace Dialogue.Yaml

/-- A node of a document, with its tag in full if it has one. -/
inductive Node where
  | scalar (tag : Option String) (plain : Bool) (text : String)
  | sequence (tag : Option String) (items : List Node)
  | mapping (tag : Option String) (entries : List (Node × Node))
deriving Repr, Inhabited

namespace Node

/-- A scalar that is left out. -/
def empty : Node := .scalar none true ""

/-- What is left of a document, and the names given so far. -/
structure Reader where
  tokens : List Token
  named : List (String × Node) := []
  /-- What the handles of tags stand for. -/
  handles : List (String × String) := [("!", "!"), ("!!", "tag:yaml.org,2002:")]

/-- Reading a part of a document; none for one that is malformed. -/
abbrev Reading := StateT Reader Option

def peek : Reading (Option Token) := do return (← get).tokens.head?

def skip : Reading Unit := modify fun r => { r with tokens := r.tokens.drop 1 }

/-- Passes over a token if it comes next. -/
def skipIf (token : Token) : Reading Bool := do
  if (← peek) == some token then
    skip
    return true
  else return false

def demand (token : Token) : Reading Unit := do
  if !(← skipIf token) then failure

/-- Whether one of the tokens comes next. -/
def isNext (tokens : List Token) : Reading Bool := do
  match ← peek with
  | some token => return tokens.contains token
  | none => return false

def isAtEnd : Reading Bool := do return (← get).tokens.isEmpty

/-! ## Properties -/

/-- An anchor, if one comes next. -/
def anchor? : Reading (Option String) := do
  match ← peek with
  | some (.anchor name) =>
    skip
    return some name
  | _ => return none

/-- A tag in full, if one comes next. -/
def tag? : Reading (Option String) := do
  match ← peek with
  | some (.tag ⟨none, suffix⟩) =>
    skip
    return some suffix
  | some (.tag ⟨some handle, suffix⟩) =>
    skip
    match (← get).handles.lookup handle with
    | some target => return some (target ++ suffix)
    | none => failure
  | _ => return none

/-- The anchor and the tag of a node, in either order. -/
def properties : Reading (Option String × Option String) := do
  match ← anchor? with
  | some name => return (some name, ← tag?)
  | none =>
    let tag ← tag?
    return (← anchor?, tag)

/-- Gives a node that has been read its name. -/
def record (name : Option String) (node : Node) : Reading Node := do
  match name with
  | none => return node
  | some name =>
    let r ← get
    if (r.named.lookup name).isSome then failure
    set { r with named := (name, node) :: r.named }
    return node

/-! ## Nodes -/

/-- Where a node stands, which decides what it may be. -/
inductive Position where
  | flow
  | block
  /-- Below a key, where the elements of a sequence need not be indented. -/
  | belowKey
deriving DecidableEq, Repr

/-- The tokens before which a part of a block mapping is left out. -/
def mappingStops : List Token := [.key, .value, .blockEnd]

/-- A part that is left out before one of the tokens. -/
def orEmpty (stops : List Token) (read : Reading Node) : Reading Node := do
  if ← isNext stops then return empty else read

mutual

/-- A node. Each turn takes a token or is followed by one that does. -/
def node : Nat → Position → Reading Node
  | 0, _ => failure
  | fuel + 1, position => do
    if let some (.alias name) ← peek then
      skip
      match (← get).named.lookup name with
      | some node => return node
      | none => failure
    else
      let (name, tag) ← properties
      record name (← content fuel position (name.isSome || tag.isSome) tag)

/-- A node behind its properties; with properties it may be left out. -/
def content : Nat → Position → Bool → Option String → Reading Node
  | 0, _, _, _ => failure
  | fuel + 1, position, hasProperties, tag => do
    match ← peek with
    | some (.scalar text plain) =>
      skip
      return .scalar tag plain text
    | some .flowSequence =>
      skip
      return .sequence tag (← flowItems fuel true)
    | some .flowMapping =>
      skip
      return .mapping tag (← flowEntries fuel true)
    | some .entry =>
      if position == .belowKey then return .sequence tag (← looseItems fuel)
      else if hasProperties then return .scalar tag true "" else failure
    | some .blockSequence =>
      if position != .flow then
        skip
        return .sequence tag (← blockItems fuel)
      else if hasProperties then return .scalar tag true "" else failure
    | some .blockMapping =>
      if position != .flow then
        skip
        return .mapping tag (← blockEntries fuel)
      else if hasProperties then return .scalar tag true "" else failure
    | _ => if hasProperties then return .scalar tag true "" else failure

/-- The elements of a block sequence. -/
def blockItems : Nat → Reading (List Node)
  | 0 => failure
  | fuel + 1 => do
    if ← skipIf .entry then
      let item ← orEmpty [.entry, .blockEnd] (node fuel .block)
      return item :: (← blockItems fuel)
    else
      demand .blockEnd
      return []

/-- The elements of a sequence that is not indented. -/
def looseItems : Nat → Reading (List Node)
  | 0 => failure
  | fuel + 1 => do
    if ← skipIf .entry then
      let item ← orEmpty (.entry :: mappingStops) (node fuel .block)
      return item :: (← looseItems fuel)
    else return []

/-- The entries of a block mapping. -/
def blockEntries : Nat → Reading (List (Node × Node))
  | 0 => failure
  | fuel + 1 => do
    if ← skipIf .blockEnd then return []
    else
      demand .key
      let key ← orEmpty mappingStops (node fuel .belowKey)
      let value ←
        if ← skipIf .value then orEmpty mappingStops (node fuel .belowKey) else pure empty
      return (key, value) :: (← blockEntries fuel)

/-- The elements of a sequence in brackets; `first` tells whether none has come before. -/
def flowItems : Nat → Bool → Reading (List Node)
  | 0, _ => failure
  | fuel + 1, first => do
    if ← skipIf .flowSequenceEnd then return []
    else
      if !first then demand .comma
      if ← skipIf .flowSequenceEnd then return []
      else if ← skipIf .key then
        let stops : List Token := [.comma, .flowSequenceEnd]
        let key ← orEmpty (.value :: stops) (node fuel .flow)
        let value ← if ← skipIf .value then orEmpty stops (node fuel .flow) else pure empty
        return .mapping none [(key, value)] :: (← flowItems fuel false)
      else
        let item ← node fuel .flow
        return item :: (← flowItems fuel false)

/-- The entries of a mapping in brackets. -/
def flowEntries : Nat → Bool → Reading (List (Node × Node))
  | 0, _ => failure
  | fuel + 1, first => do
    if ← skipIf .flowMappingEnd then return []
    else
      if !first then demand .comma
      if ← skipIf .flowMappingEnd then return []
      else if ← skipIf .key then
        let stops : List Token := [.comma, .flowMappingEnd]
        let key ← orEmpty (.value :: stops) (node fuel .flow)
        let value ← if ← skipIf .value then orEmpty stops (node fuel .flow) else pure empty
        return (key, value) :: (← flowEntries fuel false)
      else
        let key ← node fuel .flow
        return (key, empty) :: (← flowEntries fuel false)

end

/-! ## Documents -/

/-- What the directives before a document say. -/
def directives : Nat → Bool → List String → Reading Unit
  | 0, _, _ => failure
  | fuel + 1, hasVersion, handles => do
    match ← peek with
    | some (.version major) =>
      if hasVersion || major != 1 then failure
      skip
      directives fuel true handles
    | some (.handle handle target) =>
      if handles.contains handle then failure
      skip
      modify fun r => { r with handles := (handle, target) :: r.handles }
      directives fuel hasVersion (handle :: handles)
    | some .otherDirective =>
      skip
      directives fuel hasVersion handles
    | _ => return

/-- Whether a directive or the mark of a document comes next, or nothing. -/
def isAtDocumentMark : Reading Bool := do
  match ← peek with
  | none | some .documentStart | some .documentEnd => return true
  | some (.version _) | some (.handle ..) | some .otherDirective => return true
  | _ => return false

/-- Passes over the marks of a document's end. -/
def skipEnds : Reading Unit :=
  modify fun r => { r with tokens := r.tokens.dropWhile (· == .documentEnd) }

/-- Whether a document starts here without a mark. -/
def startsBare : Reading Bool := do
  match ← peek with
  | none | some .documentStart => return false
  | some (.version _) | some (.handle ..) | some .otherDirective => return false
  | _ => return true

/-- The only document, if there is one. -/
def document : Reading (Option Node) := do
  let fuel := 2 * (← get).tokens.length + 2
  let root ←
    if ← startsBare then some <$> node fuel .block
    else
      skipEnds
      if ← isAtEnd then pure none
      else
        directives fuel false []
        demand .documentStart
        if ← isAtDocumentMark then pure (some empty) else some <$> node fuel .block
  skipEnds
  if ← isAtEnd then return root else failure

end Node

/-- The document of a text: none for a text that is malformed, and none inside for an empty one. -/
def readDocument (text : String) : Option (Option Node) := do
  let tokens ← tokens? text
  let (root, _) ← Node.document.run { tokens }
  return root

end Dialogue.Yaml
