import Dialogue.Yaml.Cursor

/-!
# Dialogue.Yaml.Plain — texts without quotes

A plain text ends before a colon that stands alone, before a comment, and where a line is not
indented as far as the text has to be. Between brackets it ends before a bracket or comma too. It
may run over several lines: a line break counts as a space, and each empty line as a line break.
-/

namespace Dialogue.Yaml.Plain

/-- The characters that end a plain text between brackets. -/
def flowMarks : List Char := [',', '?', '[', ']', '{', '}']

/-- The characters before which a colon between brackets stands alone. -/
def colonMarks : List Char := [',', '[', ']', '{', '}']

/-- Whether a run of a plain text ends here. -/
def ends (inFlow : Bool) (c : Cursor) : Bool :=
  let x := c.peek
  let after := c.peekAt 1
  isGap x || (x == ':' && (isGap after || (inFlow && colonMarks.contains after))) ||
    (inFlow && flowMarks.contains x)

/-- The characters of a run. -/
def run (inFlow : Bool) : Nat → Cursor → List Char × Cursor
  | 0, c => ([], c)
  | fuel + 1, c =>
    if ends inFlow c then ([], c)
    else
      let (cs, after) := run inFlow fuel c.next
      (c.peek :: cs, after)

/-- The line breaks of the empty lines before the next run, and whether a document ends there. -/
def emptyLines : Nat → Cursor → List Char × Bool × Cursor
  | 0, c => ([], false, c)
  | fuel + 1, c =>
    let c := c.skipSpaces
    match c.lineBreak? with
    | none => ([], false, c)
    | some (x, c) =>
      if c.isAtDocumentMark then ([x], true, c)
      else
        let (breaks, stopped, c) := emptyLines fuel c
        (x :: breaks, stopped, c)

/-- What stands between two runs. -/
structure Gap where
  /-- What the gap counts as; nothing where the text is over. -/
  text : List Char
  lineEnded : Bool
  cursor : Cursor

/-- The gap behind a run. -/
def gap (c : Cursor) : Gap :=
  let (spaces, c) := c.takeWhile (· == ' ')
  match c.lineBreak? with
  | none => ⟨spaces, false, c⟩
  | some (x, c) =>
    if c.isAtDocumentMark then ⟨[], true, c⟩
    else
      let (breaks, stopped, c) := emptyLines (c.rest.length + 1) c
      if stopped then ⟨[], true, c⟩
      else
        let first := if x != '\n' then [x] else if breaks.isEmpty then [' '] else []
        ⟨first ++ breaks, true, c⟩

/-- A plain text, whether a line ended behind it, and the cursor behind both. -/
structure Scanned where
  text : List Char
  lineEnded : Bool
  cursor : Cursor

/-- Reads on behind a gap. -/
def readOn (inFlow : Bool) (indent : Int) : Nat → Gap → List Char → Scanned
  | 0, g, text => ⟨text, g.lineEnded, g.cursor⟩
  | fuel + 1, g, text =>
    let c := g.cursor
    let stopped := c.peek == '#' || ends inFlow c
    if stopped then ⟨text, g.lineEnded, c⟩
    else
      let (cs, c) := run inFlow (c.rest.length + 1) c
      let text := text ++ g.text ++ cs
      let g := gap c
      if g.text.isEmpty || (!inFlow && (g.cursor.column : Int) < indent) then
        ⟨text, g.lineEnded, g.cursor⟩
      else readOn inFlow indent fuel g text

/-- A plain text whose further lines are indented at least so far. -/
def read (inFlow : Bool) (indent : Int) (c : Cursor) : Scanned :=
  readOn inFlow indent (c.rest.length + 1) ⟨[], false, c⟩ []

end Dialogue.Yaml.Plain
