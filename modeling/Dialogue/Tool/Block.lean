import Dialogue.Text.Blank
import Dialogue.Text.Word
import Dialogue.Json.Reader

/-!
# Dialogue.Tool.Block — the written form of a tool call

A block is `TOOL_CALL:`, blanks, a name of word characters, spaces, a line break, spaces,
`ARGUMENTS:`, blanks, and an argument text. The argument text starts with a brace and is the
shortest that ends with a closing brace before a line break or the end of the text; that line break
belongs to the block.

`scan` cuts a text into blocks and the characters between them, from the left: a block is taken
wherever one starts.
-/

namespace Dialogue.Tool

/-- A call as written. -/
structure Block where
  name : List Char
  arguments : List Char
deriving DecidableEq, Repr

def callMarker : List Char := "TOOL_CALL:".toList

def argumentsMarker : List Char := "ARGUMENTS:".toList

/-- A space or a tab. -/
def isSpace (c : Char) : Bool := c == ' ' || c == '\t'

/-- The characters up to the first closing brace that ends a line or the text, and what follows the
line break. -/
def closing? : List Char → Option (List Char × List Char)
  | [] => none
  | ['}'] => some (['}'], [])
  | '}' :: '\n' :: rest => some (['}'], rest)
  | c :: rest => (closing? rest).map fun (body, left) => (c :: body, left)

/-- The argument text at the start of the characters, after any blanks. -/
def argumentText? (cs : List Char) : Option (List Char × List Char) :=
  match cs.dropWhile Text.isBlank with
  | '{' :: rest => (closing? rest).map fun (body, left) => ('{' :: body, left)
  | _ => none

/-- What follows the line break that ends the line of the name. -/
def nextLine? (cs : List Char) : Option (List Char) :=
  match cs.dropWhile isSpace with
  | '\n' :: rest => some (rest.dropWhile isSpace)
  | _ => none

/-- The name at the start of the characters, after any blanks, and what follows it. -/
def name? (cs : List Char) : Option (List Char × List Char) :=
  let rest := cs.dropWhile Text.isBlank
  let name := rest.takeWhile Text.isWord
  if name.isEmpty then none else some (name, rest.dropWhile Text.isWord)

/-- The block at the start of the characters, and what follows it. -/
def block? (cs : List Char) : Option (Block × List Char) := do
  let rest ← Json.afterWord? callMarker cs
  let (name, rest) ← name? rest
  let rest ← nextLine? rest
  let rest ← Json.afterWord? argumentsMarker rest
  let (arguments, rest) ← argumentText? rest
  return (⟨name, arguments⟩, rest)

/-! ## A block takes something away -/

theorem length_dropWhile_le {p : Char → Bool} (cs : List Char) :
    (cs.dropWhile p).length ≤ cs.length :=
  (List.dropWhile_sublist p).length_le

theorem length_afterWord {word cs rest : List Char} (h : Json.afterWord? word cs = some rest) :
    rest.length ≤ cs.length := by
  unfold Json.afterWord? at h
  split at h
  · cases h
    simp
  · simp at h

theorem length_closing {cs body rest : List Char} (h : closing? cs = some (body, rest)) :
    rest.length < cs.length := by
  induction cs using closing?.induct generalizing body rest with
  | case1 => simp [closing?] at h
  | case2 => simp [closing?] at h; simp [← h.2]
  | case3 left =>
    simp only [closing?, Option.some.injEq, Prod.mk.injEq] at h
    rw [← h.2]
    simp only [List.length_cons]
    omega
  | case4 c left h1 h2 ih =>
    rw [closing?] at h
    · simp only [Option.map_eq_some_iff, Prod.exists] at h
      obtain ⟨b, r, hr, he⟩ := h
      have := ih hr
      simp at he
      simp [← he.2]
      omega
    · exact h1
    · exact h2

theorem length_argumentText {cs body rest : List Char}
    (h : argumentText? cs = some (body, rest)) : rest.length < cs.length := by
  unfold argumentText? at h
  split at h
  · rename_i tail ht
    simp only [Option.map_eq_some_iff, Prod.exists] at h
    obtain ⟨b, r, hr, he⟩ := h
    have h1 := length_closing hr
    have h2 := length_dropWhile_le (p := Text.isBlank) cs
    simp at he
    rw [ht] at h2
    simp at h2
    rw [← he.2]
    omega
  · simp at h

theorem length_nextLine {cs rest : List Char} (h : nextLine? cs = some rest) :
    rest.length ≤ cs.length := by
  unfold nextLine? at h
  split at h
  · rename_i tail ht
    cases h
    have h1 := length_dropWhile_le (p := isSpace) cs
    have h2 := length_dropWhile_le (p := isSpace) tail
    rw [ht] at h1
    simp at h1
    omega
  · simp at h

theorem length_name {cs name rest : List Char} (h : name? cs = some (name, rest)) :
    rest.length ≤ cs.length := by
  unfold name? at h
  simp only at h
  split at h
  · simp at h
  · have h1 := length_dropWhile_le (p := Text.isBlank) cs
    have h2 := length_dropWhile_le (p := Text.isWord) (cs.dropWhile Text.isBlank)
    simp at h
    rw [← h.2]
    omega

/-- What follows a block is shorter than what it was found in. -/
theorem length_block {cs rest : List Char} {b : Block} (h : block? cs = some (b, rest)) :
    rest.length < cs.length := by
  simp only [block?, Option.bind_eq_bind, Option.bind_eq_some_iff] at h
  obtain ⟨_, h1, ⟨_, _⟩, h2, _, h3, _, h4, ⟨_, _⟩, h5, h⟩ := h
  have l1 := length_afterWord h1
  have l2 := length_name h2
  have l3 := length_nextLine h3
  have l4 := length_afterWord h4
  have l5 := length_argumentText h5
  dsimp only at l3
  simp at h
  rw [← h.2]
  omega

/-! ## Scanning a text -/

/-- One piece of a text. -/
inductive Piece where
  | prose (c : Char)
  | call (b : Block)
deriving DecidableEq, Repr

/-- The text as blocks and the characters between them. -/
def scan (cs : List Char) : List Piece :=
  match _eq : block? cs with
  | some (b, rest) => .call b :: scan rest
  | none =>
    match cs with
    | [] => []
    | c :: rest => .prose c :: scan rest
termination_by cs.length
decreasing_by
  · exact length_block _eq
  · simp

/-- The block of a piece. -/
def Piece.block? : Piece → Option Block
  | .call b => some b
  | .prose _ => none

/-- The character of a piece between blocks. -/
def Piece.char? : Piece → Option Char
  | .prose c => some c
  | .call _ => none

/-- The blocks of a text. -/
def blocks (cs : List Char) : List Block := (scan cs).filterMap Piece.block?

/-- The text without its blocks. -/
def prose (cs : List Char) : List Char := (scan cs).filterMap Piece.char?

end Dialogue.Tool
