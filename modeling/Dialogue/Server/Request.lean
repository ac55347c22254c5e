import Dialogue.Options
import Dialogue.Transcript

/-!
# Dialogue.Server.Request — what a chat server is asked

A request carries the turns of a conversation, the sampling options, and perhaps a format that the
reply has to keep to. Roles that the model does not know are sent as the user's. A server without a
chat template of its own gets the whole conversation as one flat turn.
-/

namespace Dialogue

/-- One turn of a conversation as it is sent. -/
structure ChatTurn where
  role : String
  content : String
deriving DecidableEq, Repr

/-- A request for a completion. -/
structure ChatRequest where
  model : String
  turns : List ChatTurn
  options : Options
  streaming : Bool := false
  format : Option Json := none
deriving Repr

namespace ChatTurn

/-- The turn of the user. -/
def user (content : String) : ChatTurn := ⟨"user", content⟩

def toJson (t : ChatTurn) : Json :=
  .obj [("role", .str t.role), ("content", .str t.content)]

/-- The turns of a history and a prompt; flattened into one turn only when there is a history. -/
def ofTranscript (flatten : Bool) (entries : List Transcript.Entry) (current : String) :
    List ChatTurn :=
  if flatten && !entries.isEmpty then [user (Transcript.render entries current)]
  else entries.map (fun e => ⟨e.role, e.text⟩) ++ [user current]

/-- The turns of a conversation; an empty one has none to answer. -/
def ofMessages? (flatten : Bool) (messages : List Message) : Option (List ChatTurn) :=
  (Transcript.split? messages).map fun (entries, current) => ofTranscript flatten entries current

end ChatTurn

namespace ChatRequest

/-- The characters that the name of a format may have; any other is sent as an underscore. -/
def isNameChar (c : Char) : Bool := c.isAlphanum || c == '_' || c == '-'

/-- The name of a format. -/
def formatName (name : String) : String :=
  let sent := name.map fun c => if isNameChar c then c else '_'
  if sent = "" then "Root" else sent

/-- The format of replies that keep to a schema. -/
def schemaFormat (name : String) (schema : Json) : Json :=
  .obj [("type", .str "json_schema"),
    ("json_schema", .obj [("name", .str (formatName name)), ("schema", schema),
      ("strict", .bool true)])]

/-- The entries of a request. -/
def toMembers (r : ChatRequest) : Json.Members :=
  let streaming : Json.Members := if r.streaming then [("stream", .bool true)] else []
  [("model", .str r.model), ("messages", .arr (r.turns.map ChatTurn.toJson))] ++ streaming ++
    r.options.toRequest ++ r.format.toList.map fun (f : Json) => ("response_format", f)

end ChatRequest

end Dialogue
