/-!
# Dialogue.Version — the version of the library
-/

namespace Dialogue

/-- A version by its parts, the most significant first. -/
structure Version where
  name : String
  parts : List Nat
deriving DecidableEq, Repr

/-- The parts with points between them. -/
def Version.text (v : Version) : String := ".".intercalate (v.parts.map toString)

/-- The version behind the name. -/
def Version.fullText (v : Version) : String := s!"{v.name} v{v.text}"

/-- The version of the library. -/
def version : Version := ⟨"localfm", [0, 3, 0]⟩

end Dialogue
