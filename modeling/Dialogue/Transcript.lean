import Dialogue.Message

/-!
# Dialogue.Transcript — a conversation as a model runtime keeps it

Each turn becomes an entry of one of three kinds; a role that is not known counts as a prompt. The
last message is the prompt to answer, all before it are history. `render` flattens a history and a
prompt into one text for models that take nothing else.
-/

namespace Dialogue.Transcript

/-- What an entry is to the model. -/
inductive Kind where
  | instructions
  | prompt
  | response
deriving DecidableEq, Repr

namespace Kind

def name : Kind → String
  | instructions => "instructions"
  | prompt => "prompt"
  | response => "response"

/-- The role under which an entry of this kind is sent. -/
def role : Kind → String
  | instructions => "system"
  | prompt => "user"
  | response => "assistant"

/-- The kind of a role, in any letter case. -/
def ofRole (role : String) : Kind :=
  match Text.lower role with
  | "system" => instructions
  | "assistant" => response
  | _ => prompt

end Kind

/-- One turn of the history. -/
structure Entry where
  kind : Kind
  text : String
deriving DecidableEq, Repr

def Entry.role (e : Entry) : String := e.kind.role

/-- The entry of a message. -/
def Entry.ofMessage (m : Message) : Entry := ⟨Kind.ofRole m.role, m.content⟩

/-- The history before the last message, and the prompt in it; an empty conversation has none. -/
def split? (messages : List Message) : Option (List Entry × String) :=
  messages.getLast?.map fun last => (messages.dropLast.map Entry.ofMessage, last.content)

/-- One line of a flattened conversation. -/
def line (role text : String) : String := role ++ ": " ++ text

/-- A history and a prompt as one text that ends where the model is to go on. -/
def render (entries : List Entry) (current : String) : String :=
  let lines := entries.map (fun e => line e.role e.text) ++ [line "user" current]
  "\n".intercalate lines ++ "\nassistant:"

end Dialogue.Transcript
