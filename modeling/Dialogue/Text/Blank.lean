import Dialogue.Text.CharClass

/-!
# Dialogue.Text.Blank — blank characters and trimming

The blank characters are the 29 code points that Unicode calls white space or bidirectional
separators. `strip` removes them on both sides of a text.
-/

namespace Dialogue.Text

/-- Where membership among the blank characters changes. -/
def blankBounds : List Nat :=
  [0x9, 0xE, 0x1C, 0x21, 0x85, 0x86, 0xA0, 0xA1, 0x1680, 0x1681, 0x2000, 0x200B, 0x2028, 0x202A,
   0x202F, 0x2030, 0x205F, 0x2060, 0x3000, 0x3001]

/-- White space and the information separators. -/
def isBlank (c : Char) : Bool :=
  togglesAt blankBounds c.toNat

/-- The characters without the last run of those that satisfy `p`. -/
def dropTrailing (p : Char → Bool) (cs : List Char) : List Char :=
  (cs.reverse.dropWhile p).reverse

/-- The characters without blanks at either end. -/
def stripChars (cs : List Char) : List Char :=
  dropTrailing isBlank (cs.dropWhile isBlank)

/-- The text without blanks at either end. -/
def strip (s : String) : String :=
  String.ofList (stripChars s.toList)

/-- Whether nothing is left of the text once blanks are removed. -/
def isBlankText (s : String) : Bool :=
  s.toList.all isBlank

end Dialogue.Text
