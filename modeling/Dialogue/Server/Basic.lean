import Dialogue.Fault
import Dialogue.Server.Request

/-!
# Dialogue.Server.Basic — what a chat server answers

A server completes a request, at once or as a stream of chunks, lists its models, and can be left.
Everything may fail. A content may be missing, and a server may send a content that is no text.
-/

namespace Dialogue

/-- The choices of a completion, each by its content; null when there is none. -/
abbrev Server.Completion := List Json

/-- The choices of one chunk of a stream, each by its content. -/
abbrev Server.Chunk := List Json

/-- A stream of chunks. -/
structure Server.ChunkStream where
  chunks : List Server.Chunk
  /-- What reading fails with after the last chunk. -/
  failure : Option Fault := none
  /-- Whether the stream can be closed, and what closing it fails with. -/
  closable : Bool := true
  closeFailure : Option Fault := none

/-- A chat server. -/
structure Server where
  complete : ChatRequest → Except Fault Server.Completion
  stream : ChatRequest → Except Fault Server.ChunkStream
  /-- The ids of the models that the server offers. -/
  models : Except Fault (List String)
  /-- What leaving the server fails with. -/
  closeFailure : Option Fault := none

namespace Server

/-- The text of a completion: the content of its first choice, empty when there is none. -/
def Completion.text (c : Completion) : String :=
  match c.head? with
  | none | some .null => ""
  | some content => content.shown

/-- The texts of a chunk: the contents that are given. -/
def Chunk.texts (c : Chunk) : List String :=
  (c.filter Json.isGiven).map Json.shown

end Server

end Dialogue
