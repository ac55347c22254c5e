import Dialogue.Client.Streaming

/-!
# Dialogue.Client.Completion — replies in the shape of a chat server

A completion has an id, a time of creation and the model's name, whole or in chunks. The first chunk
with content carries the role, and the last has no content but the reason of the end.
-/

namespace Dialogue.Client

open Dialogue.Stream

/-- What identifies a completion. -/
structure Stamp where
  id : String
  /-- Seconds since the epoch. -/
  created : Int
deriving DecidableEq, Repr

/-- The content of one chunk. -/
inductive Delta where
  /-- The first content, with the role of its author. -/
  | opening (content : String)
  | content (content : String)
  | empty
deriving DecidableEq, Repr

/-- One chunk of a completion. -/
structure CompletionChunk where
  stamp : Stamp
  model : String
  delta : Delta
  finishReason : Option String
deriving DecidableEq, Repr

/-- A whole completion. -/
structure Completion where
  stamp : Stamp
  model : String
  content : String
deriving DecidableEq, Repr

/-- The role of a model's reply. -/
def replyRole : String := "assistant"

def Delta.toMembers : Delta → Json.Members
  | .opening text => [("role", .str replyRole), ("content", .str text)]
  | .content text => [("content", .str text)]
  | .empty => []

/-- The entries that a completion and a chunk share. -/
def Stamp.toMembers (s : Stamp) (kind model : String) (choice : Json.Members) : Json.Members :=
  [("id", .str s.id), ("object", .str kind), ("created", .int s.created), ("model", .str model),
    ("choices", .arr [.obj (("index", .int 0) :: choice)])]

def CompletionChunk.toJson (c : CompletionChunk) : Json :=
  let reason : Json := match c.finishReason with
    | some reason => .str reason
    | none => .null
  .obj (c.stamp.toMembers "chat.completion.chunk" c.model
    [("delta", .obj c.delta.toMembers), ("finish_reason", reason)])

def Completion.toJson (c : Completion) : Json :=
  .obj (c.stamp.toMembers "chat.completion" c.model
    [("message", .obj [("role", .str replyRole), ("content", .str c.content)]),
      ("finish_reason", .str "stop")])

/-- The reply to a conversation as a completion. Its notes carry the completion's id. -/
def complete (c : Client) (messages : List Message.Input) (s : Sampling) (stamp : Stamp) :
    Attempt Completion :=
  Attempt.within [("completion_id", .str stamp.id)] do
    let content ← c.converse messages s
    Attempt.tell [note .debug s!"chat.completion 完成 ({content.length} chars)"]
    return ⟨stamp, c.modelName, content⟩

/-- The events that become chunks: deltas and the end. -/
def chunkEvent? : Event → Option Event
  | .textDelta delta => some (.textDelta delta)
  | .done reason => some (.done reason)
  | _ => none

/-- The chunks of events; `first` tells whether no content has come before. -/
def chunksOf (stamp : Stamp) (model : String) (first : Bool) : List Event → List CompletionChunk
  | [] => []
  | .textDelta text :: rest =>
    ⟨stamp, model, if first then .opening text else .content text, none⟩ ::
      chunksOf stamp model false rest
  | .done _ :: rest => ⟨stamp, model, .empty, some "stop"⟩ :: chunksOf stamp model first rest
  | _ :: rest => chunksOf stamp model first rest

/-- The chunks of a reply to a conversation. -/
def completionChunks (c : Client) (messages : List Message.Input) (s : Sampling)
    (limit : Option Nat) (stamp : Stamp) : Attempt (Reading CompletionChunk) := do
  let messages ← readConversation messages
  let b ← c.streamConversation messages s
  leaveStream ((b.read chunkEvent? limit).map (chunksOf stamp c.modelName true))

end Dialogue.Client
