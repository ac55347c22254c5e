/-!
# Dialogue.Yaml.Token — the marks and words of a document
-/

namespace Dialogue.Yaml

/-- A tag as it is written: a handle, if it has one, and what follows it. -/
structure Tag where
  handle : Option String
  suffix : String
deriving DecidableEq, Repr

/-- One mark or word of a document. -/
inductive Token where
  /-- The version of the language, by its first number. -/
  | version (major : Nat)
  | handle (handle target : String)
  | otherDirective
  | documentStart
  | documentEnd
  | blockSequence
  | blockMapping
  | blockEnd
  | flowSequence
  | flowMapping
  | flowSequenceEnd
  | flowMappingEnd
  /-- An element of a block sequence. -/
  | entry
  /-- The end of an element between brackets. -/
  | comma
  | key
  | value
  | alias (name : String)
  | anchor (name : String)
  | tag (tag : Tag)
  /-- A scalar, and whether it is written without quotes. -/
  | scalar (text : String) (plain : Bool)
deriving DecidableEq, Repr

end Dialogue.Yaml
