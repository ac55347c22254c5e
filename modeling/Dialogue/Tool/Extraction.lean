import Dialogue.Tool.Block
import Dialogue.Tool.Call
import Dialogue.Tool.Spec
import Dialogue.Journal.Note

/-!
# Dialogue.Tool.Extraction — calls in what a model wrote

A model's reply is searched for the written form of tool calls. Only where it has none, the whole
reply is tried as an older JSON form `{"tool_calls": […]}`, which counts as a whole or not at all.
A reply that matches neither is the answer itself. When no tool was offered, nothing is searched.
-/

namespace Dialogue.Tool

/-- What a reply holds: its text, absent when there was nothing but calls, and its calls. -/
structure Extraction where
  text : Option String
  calls : List ToolCall
deriving DecidableEq, Repr

/-! ## The older JSON form -/

/-- One call of the older form, before it has an id of its own. -/
structure OldCall where
  id : Option String
  name : String
  arguments : Json
deriving Repr

/-- The arguments that a function entry gives: an object without entries when it gives none, and
the value that a text writes. -/
def oldArguments? (function : Json.Members) : Option Json :=
  match function.lookup "arguments" with
  | none => some (.obj [])
  | some (.str text) => (Json.read text).toOption
  | some j => some j

/-- The call that an entry describes. -/
def oldCall? (entry : Json) : Option OldCall := do
  let function ← (← entry.get? "function").members?
  let name ← (← function.lookup "name").text?
  if name = "" then none
  else
    let arguments ← oldArguments? function
    return ⟨((entry.get? "id").bind Json.given?).map Json.shown, name, arguments⟩

/-- The entries of the older form, if a text has that form. -/
def oldEntries? (text : String) : Option (List Json) := do
  let j ← (Json.read text).toOption
  (← j.get? "tool_calls").elements?

/-- Calls with ids, fresh ones where an entry gives none, and the number of fresh ids used. -/
def identify (ids : IdSource) (next : Nat) : List OldCall → List ToolCall × Nat
  | [] => ([], next)
  | c :: rest =>
    let (id, next) :=
      match c.id with
      | some id => (id, next)
      | none => (ids next, next + 1)
    let (calls, next) := identify ids next rest
    (⟨id, c.name, c.arguments.compact⟩ :: calls, next)

/-- The calls that can be read before the first entry that describes none. -/
def readable (entries : List Json) : List OldCall :=
  ((entries.map oldCall?).takeWhile Option.isSome).filterMap (·)

/-- The calls of a text in the older form; without calls it does not have that form. The ids of the
calls before a bad entry are used up all the same. -/
def oldCalls (ids : IdSource) (next : Nat) (text : String) : List ToolCall × Nat :=
  match oldEntries? text with
  | none => ([], next)
  | some entries =>
    let (calls, next) := identify ids next (readable entries)
    (if calls.length = entries.length then calls else [], next)

/-! ## Extraction -/

/-- The calls of blocks, each with a fresh id. -/
def callsOfBlocks (ids : IdSource) (next : Nat) : List Block → List ToolCall
  | [] => []
  | b :: rest =>
    ⟨ids next, String.ofList b.name, String.ofList b.arguments⟩ ::
      callsOfBlocks ids (next + 1) rest

/-- The text unless it is empty. -/
def nonEmpty? (text : String) : Option String :=
  if text = "" then none else some text

/-- What a reply holds, and how many fresh ids have been used after it. -/
def extract (ids : IdSource) (next : Nat) (text : String) (tools : List ToolSpec) :
    Extraction × Nat :=
  if tools.isEmpty then (⟨some text, []⟩, next)
  else
    match blocks text.toList with
    | [] =>
      let (calls, next) := oldCalls ids next text
      if calls.isEmpty then (⟨some text, []⟩, next) else (⟨none, calls⟩, next)
    | found =>
      let rest := Text.stripChars (prose text.toList)
      (⟨nonEmpty? (String.ofList rest), callsOfBlocks ids next found⟩, next + found.length)

/-! ## What an extraction has to tell -/

def source : String := "localfm.native.tool_calls"

/-- The notes of an extraction. -/
def extractNotes (ids : IdSource) (next : Nat) (text : String) (tools : List ToolSpec) :
    List Journal.Note :=
  if tools.isEmpty then []
  else
    let found := (extract ids next text tools).1.calls
    if (blocks text.toList).isEmpty then
      if found.isEmpty then []
      else
        [⟨.warning, source,
          s!"tool calls recovered from legacy JSON format ({found.length} calls)", .caller []⟩]
    else
      let unknown := (found.map (·.name)).filter fun name => !tools.any (·.name == name)
      let strangers : List Journal.Note :=
        if unknown.isEmpty then []
        else
          [⟨.debug, source, s!"model called tools outside the catalog: {Display.texts unknown}",
            .caller []⟩]
      strangers ++ [⟨.debug, source, s!"extracted {found.length} tool calls", .caller []⟩]

end Dialogue.Tool
