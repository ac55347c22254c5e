import Dialogue.Client.Streaming
import Dialogue.Proofs.Attempt
import Dialogue.Proofs.Server.Worker
import Dialogue.Server.Connection

/-!
# Dialogue.Proofs.Client.Agreement — a streamed conversation agrees with a whole one

A conversation with tools can be answered at once or as a stream. Over a server that gives the same
text either way, both ask the server the same thing and come to the same calls, whatever the chunks
of the stream are: `streamChat_agrees`.

* `streamRequest_eq` — the last message apart and the others as history make the same request as the
  conversation as a whole;
* `gives_stream`, `gives_readChat` — what the stream's consumer reads is the texts of the chunks, and
  what follows the last of them is made of the whole text.
-/

namespace Dialogue

open Dialogue.Stream

/-- A server replies to a request with the same text at once and as a stream. -/
structure Server.Replies (server : Server) (request : ChatRequest) (text : String) : Prop where
  whole : ∃ completion, server.complete request = .ok completion ∧ completion.text = text
  streamed : ∃ s, server.stream { request with streaming := true } = .ok s ∧ s.Spells text

namespace Connection

variable {conn : Connection}

/-! ## Requests -/

/-- The last message as a prompt and the others as history make the request of the conversation. -/
theorem streamRequest_eq (conn : Connection) {messages : List Message} {last : Message}
    (hlast : messages.getLast? = some last) (options : Options) :
    ∃ request, conn.historyRequest? messages options = some request ∧ request.streaming = false ∧
      conn.streamRequest last.content messages.dropLast options =
        { request with streaming := true } := by
  refine ⟨{ conn.streamRequest last.content messages.dropLast options with streaming := false },
    ?_, rfl, rfl⟩
  simp [historyRequest?, ChatTurn.ofMessages?, Transcript.split?, streamRequest, hlast]

/-- Asking a server whether it has the model makes no request for a reply. -/
theorem silent_probe (conn : Connection) : conn.probe.Silent := by
  unfold probe
  split
  · split
    · exact Attempt.Silent.bind rfl fun _ => rfl
    · exact Attempt.Silent.bind rfl fun _ => rfl
  · split
    · rfl
    · rfl

/-! ## Replies -/

/-- A conversation is answered with the server's text. -/
theorem gives_converse {messages : List Message} {options : Options} {request : ChatRequest}
    {text : String} (hrequest : conn.historyRequest? messages options = some request)
    (hreplies : conn.server.Replies request text) :
    (conn.converse messages options).Gives (.ok text) [request] := by
  obtain ⟨completion, hcomplete, htext⟩ := hreplies.whole
  have hreceived : (Attempt.ofExcept
      ((conn.server.complete request).mapError conn.completionFault)).Gives
        (.ok completion) [] := by
    rw [hcomplete]
    exact Attempt.gives_ofExcept _
  unfold converse
  rw [hrequest]
  unfold complete
  refine (Attempt.gives_recordRequest request).bind (hreceived.bind ?_)
  rw [htext]
  exact (Attempt.gives_tell _).bind (Attempt.gives_pure _)

/-- A stream is read to its end by the worker. -/
theorem gives_stream {prompt : String} {history : List Message} {options : Options}
    {s : Server.ChunkStream} {text : String}
    (hstream : conn.server.stream (conn.streamRequest prompt history options) = .ok s)
    (hspells : s.Spells text) :
    (conn.stream prompt history options).Gives
      (.ok ⟨(Server.reportsAfter "" s.texts).map some ++ [none], true⟩)
      [conn.streamRequest prompt history options] := by
  have hwork : (conn.work prompt history options .never).Gives
      (.ok (Server.Work.onStream s .never)) [conn.streamRequest prompt history options] := by
    simp only [work, hstream]
    refine (Attempt.gives_recordRequest _).bind ?_
    exact (Attempt.gives_tell _).bind (Attempt.gives_pure _)
  rw [← Server.payloads_onStream hspells.failure hspells.closeFailure]
  exact hwork.bind (Attempt.gives_pure _)

end Connection

namespace Client

variable {settings : Settings} {conn : Connection}

/-! ## What both do first -/

/-- Whether a call can be carried out: its arguments can be read, there is a message, the options
are in range, and the model is available unless the settings say not to ask. -/
def Accepts (c : Client) (messages : List Message.Input) (tools : List ToolSpec.Input)
    (s : Sampling) : Prop :=
  (∃ specs, ToolSpec.readInputs tools = .ok specs) ∧
    (∃ conversation, Message.readInputs messages = .ok conversation ∧ conversation ≠ []) ∧
    ∃ options, (c.prepare s).result = .ok options

theorem gives_readTools {tools : List ToolSpec.Input} {specs : List ToolSpec}
    (h : ToolSpec.readInputs tools = .ok specs) : (readTools tools).Gives (.ok specs) [] := by
  unfold readTools
  rw [h]
  exact Attempt.gives_ofExcept _

theorem gives_readTools_error {tools : List ToolSpec.Input}
    (h : ¬ ∃ specs, ToolSpec.readInputs tools = .ok specs) :
    ∃ e, (readTools tools).Gives (.error e) [] := by
  unfold readTools
  cases hread : ToolSpec.readInputs tools with
  | error d => exact ⟨_, Attempt.gives_ofExcept _⟩
  | ok specs => exact absurd ⟨specs, hread⟩ h

theorem gives_readConversation {messages : List Message.Input} {conversation : List Message}
    (h : Message.readInputs messages = .ok conversation) (hne : conversation ≠ []) :
    (readConversation messages).Gives (.ok conversation) [] := by
  unfold readConversation readMessages
  rw [h]
  refine (Attempt.gives_ofExcept _).bind ?_
  have hsome : ¬ conversation.isEmpty = true := by simpa using hne
  simp only [hsome, Bool.false_eq_true, if_false]
  exact Attempt.gives_pure _

theorem gives_readConversation_error {messages : List Message.Input}
    (h : ¬ ∃ conversation, Message.readInputs messages = .ok conversation ∧ conversation ≠ []) :
    ∃ e, (readConversation messages).Gives (.error e) [] := by
  unfold readConversation readMessages
  cases hread : Message.readInputs messages with
  | error d => exact ⟨_, Attempt.Gives.bind_error (Attempt.gives_ofExcept _)⟩
  | ok conversation =>
    have hnone : conversation = [] := Decidable.byContradiction fun hne =>
      h ⟨conversation, hread, hne⟩
    subst hnone
    refine ⟨.failure .emptyConversation, (Attempt.gives_ofExcept _).bind ?_⟩
    exact Attempt.Gives.bind_error (Attempt.gives_fail _)

theorem withToolPrompt_ne_nil {conversation : List Message} (h : conversation ≠ [])
    (specs : List ToolSpec) (choice : ToolChoice) : withToolPrompt conversation specs choice ≠ [] := by
  unfold withToolPrompt
  split
  · exact h
  · simp

/-- Preparing a call makes no request for a reply. -/
theorem silent_prepare (conn : Connection) (settings : Settings) (s : Sampling) :
    (Client.prepare { model := conn.model, settings } s).Silent := by
  have hcheck : (Client.checkAvailability { model := conn.model, settings }).Silent :=
    Attempt.Silent.bind rfl fun _ => conn.silent_probe
  have hensure : (Client.ensureAvailable { model := conn.model, settings }).Silent := by
    refine hcheck.bind ?_
    intro a
    split
    · rfl
    · exact Attempt.Silent.bind rfl fun _ => rfl
  have hguard : (Client.guard { model := conn.model, settings }).Silent := by
    unfold Client.guard
    split
    · exact hensure
    · rfl
  exact Attempt.Silent.bind rfl fun _ => hguard.bind fun _ => rfl

/-! ## What a consumer reads -/

theorem gives_extract (ids : IdSource) (next : Nat) (text : String) (tools : List ToolSpec) :
    (extract ids next text tools).Gives (.ok (Tool.extract ids next text tools)) [] :=
  (Attempt.gives_tell _).bind (Attempt.gives_pure _)

theorem gives_leaveStream {α : Type} (r : Reading α) :
    (leaveStream r).Gives (.ok r.leave) [] :=
  (Attempt.gives_tell _).bind (Attempt.gives_pure _)

/-- What a worker reports of a stream is queued as the texts of its chunks and the end, and the
bridge knows the whole text. -/
theorem deliverAll_reports {s : Server.ChunkStream} {text : String} (hspells : s.Spells text)
    (hmark : text.toList.head? ≠ some errorMark) :
    ∃ b : Bridge, Bridge.deliverAll ((Server.reportsAfter "" s.texts).map some ++ [none]) {} = b ∧
      b.queue = s.texts.map Event.textDelta ++ [.done (some "stop")] ∧ b.text = text.toList ∧
      b.waiter = none ∧ b.finished = false := by
  have hwhole : "" ++ String.join s.texts = text := by
    rw [hspells.join_texts, String.empty_append]
  obtain ⟨hevents, htext⟩ :=
    Server.eventsAfter_reports "" hspells.ne_empty (hwhole.symm ▸ hmark)
  rw [hwhole] at htext
  refine ⟨_, Bridge.deliverAll_eq (b := {}) rfl rfl rfl _, ?_, ?_, rfl, rfl⟩
  · exact hevents
  · exact htext

/-- A stream that has been delivered is read to its end, text by text. -/
theorem readDeltas_done {b : Bridge} {texts : List String} {reason : Option String}
    (hqueue : b.queue = texts.map Event.textDelta ++ [.done reason]) (hwaiter : b.waiter = none)
    (hfinished : b.finished = false) :
    readDeltas none b =
      ⟨texts.map Event.textDelta, .complete, { b with queue := [], finished := true }⟩ := by
  have hopen : ∀ e ∈ texts.map Event.textDelta, e.isTerminal = false := by
    simp [Event.isTerminal]
  have hwanted : (texts.map Event.textDelta ++ [Event.done reason]).filterMap
      (fun e => e.delta?.map Event.textDelta) = texts.map Event.textDelta := by
    rw [List.filterMap_append, List.filterMap_map]
    show texts.filterMap (fun text => some (Event.textDelta text)) ++ [] = _
    rw [List.filterMap_eq_map', List.append_nil]
  have hcalls : b.queue.length + 1 = (texts.map Event.textDelta).length + 2 := by
    rw [hqueue]
    simp
  unfold readDeltas Bridge.read
  rw [hcalls, Bridge.readLoop_done hopen hqueue hwaiter hfinished, hqueue, hwanted]
  rfl

/-- A stream that has been delivered is read to its end, and the calls after it are those of the
whole text. -/
theorem gives_readChat {s : Server.ChunkStream} {text : String} (hspells : s.Spells text)
    (hmark : text.toList.head? ≠ some errorMark) (tools : List ToolSpec) (ids : IdSource)
    (next : Nat) :
    ∃ bridge, (readChat tools none ids next (Bridge.deliverAll
        ((Server.reportsAfter "" s.texts).map some ++ [none]) {})).Gives
      (.ok (⟨s.texts.map .textDelta ++
          closingEvents (Tool.extract ids next text tools).1.calls, .complete, bridge⟩,
        (Tool.extract ids next text tools).2)) [] := by
  obtain ⟨b, hb, hqueue, htext, hwaiter, hfinished⟩ := deliverAll_reports hspells hmark
  refine ⟨({ b with queue := [], finished := true } : Bridge).leave, ?_⟩
  simp only [hb, readChat, readDeltas_done hqueue hwaiter hfinished, htext, String.ofList_toList]
  refine (gives_extract ids next text tools).bind ?_
  exact (gives_leaveStream _).bind (Attempt.gives_pure _)

/-! ## Agreement -/

variable {reply : ChatRequest → String}

/-- A conversation that has been read is answered with the server's text, whole and as a stream, and
the two requests differ in how the reply is wanted only. -/
theorem gives_reply {conversation : List Message} {s : Sampling} {options : Options}
    (hne : conversation ≠ [])
    (hprepare : (Client.prepare { model := conn.model, settings } s).result = .ok options)
    (hreplies : ∀ request, conn.server.Replies request (reply request)) :
    ∃ (request : ChatRequest) (stream : Server.ChunkStream), request.streaming = false ∧
      (Client.reply { model := conn.model, settings } conversation s).Gives (.ok (reply request)) [request] ∧
      stream.Spells (reply request) ∧
      (streamConversation { model := conn.model, settings } conversation s).Gives
        (.ok (Bridge.deliverAll ((Server.reportsAfter "" stream.texts).map some ++ [none]) {}))
        [{ request with streaming := true }] := by
  have hready : (Client.prepare { model := conn.model, settings } s).Gives (.ok options) [] :=
    ⟨hprepare, silent_prepare conn settings s⟩
  have hlast := List.getLast?_eq_some_getLast hne
  obtain ⟨request, hwhole, hflag, hstreamed⟩ := conn.streamRequest_eq hlast options
  obtain ⟨stream, hstream, hspells⟩ := (hreplies request).streamed
  refine ⟨request, stream, hflag, ?_, hspells, ?_⟩
  · -- whole: the conversation is sent as it is
    unfold Client.reply
    refine hready.bind ?_
    exact (Attempt.gives_recordCall _).bind (Connection.gives_converse hwhole (hreplies request))
  · -- as a stream: the last message is taken off and put back behind the others
    rw [← hstreamed] at hstream ⊢
    have hout := Connection.gives_stream hstream hspells
    simp only [streamConversation, hlast, openStream]
    refine hready.bind ?_
    refine (Attempt.gives_recordCall _).bind ?_
    exact hout.bind ((Attempt.gives_tell _).bind (Attempt.gives_pure _))

/-- A call that cannot be prepared fails whole and as a stream. -/
theorem gives_reply_error {c : Client} {conversation : List Message} {s : Sampling} {e : Fault}
    (hne : conversation ≠ []) (hprepare : (c.prepare s).Gives (.error e) []) :
    (c.reply conversation s).Gives (.error e) [] ∧
      (c.streamConversation conversation s).Gives (.error e) [] := by
  refine ⟨hprepare.bind_error, ?_⟩
  simp only [streamConversation, List.getLast?_eq_some_getLast hne]
  exact hprepare.bind_error

/-- A conversation with tools comes to the same whole and as a stream. If the call can be carried
out, both ask the server once, for the same but for the kind of reply, the deltas of the stream make
up the server's text, and the calls and the end after them are those of the whole reply; else both
fail alike, before the server is asked. -/
theorem streamChat_agrees (settings : Settings) (conn : Connection)
    (messages : List Message.Input) (tools : List ToolSpec.Input) (choice : ToolChoice)
    (s : Sampling) (ids : IdSource) (next : Nat)
    (hreplies : ∀ request, conn.server.Replies request (reply request))
    (hmark : ∀ request, (reply request).toList.head? ≠ some errorMark) :
    let c : Client := { model := conn.model, settings }
    (c.Accepts messages tools s → ∃ request whole used deltas bridge, request.streaming = false ∧
      (c.converseWithTools messages tools choice s ids next).Gives (.ok (whole, used)) [request] ∧
      (c.streamChat messages tools choice s none ids next).Gives
        (.ok (⟨deltas.map .textDelta ++ whole.calls.map .toolCall ++
          [.done (some whole.finishReason)], .complete, bridge⟩, used))
        [{ request with streaming := true }] ∧
      String.join deltas = reply request) ∧
    (¬ c.Accepts messages tools s → ∃ e,
      (c.converseWithTools messages tools choice s ids next).Gives (.error e) [] ∧
      (c.streamChat messages tools choice s none ids next).Gives (.error e) []) := by
  intro c
  constructor
  · -- both read the arguments, get the reply and extract the calls of the same text
    rintro ⟨⟨specs, hspecs⟩, ⟨conversation, hconversation, hne⟩, options, hprepare⟩
    have htools := gives_readTools hspecs
    have hmessages := gives_readConversation hconversation hne
    obtain ⟨request, stream, hflag, hwhole, hspells, hstreamed⟩ :=
      gives_reply (withToolPrompt_ne_nil hne specs choice) hprepare hreplies
    obtain ⟨bridge, hread⟩ := gives_readChat hspells (hmark request) specs ids next
    let found := Tool.extract ids next (reply request) specs
    refine ⟨request, ⟨found.1.text, found.1.calls⟩, found.2, stream.texts, bridge, hflag, ?_,
      ?_, hspells.join_texts⟩
    · unfold converseWithTools
      refine htools.bind (hmessages.bind (hwhole.bind ?_))
      exact (gives_extract ids next (reply request) specs).bind (Attempt.gives_pure _)
    · unfold streamChat
      rw [List.append_assoc]
      exact htools.bind (hmessages.bind (hstreamed.bind hread))
  · -- the first thing that is in the way is the same for both: tools, messages, the rest
    intro hrejected
    by_cases htools : ∃ specs, ToolSpec.readInputs tools = .ok specs
    · obtain ⟨specs, hspecs⟩ := htools
      have hread := gives_readTools hspecs
      by_cases hmessages : ∃ conversation,
          Message.readInputs messages = .ok conversation ∧ conversation ≠ []
      · obtain ⟨conversation, hconversation, hne⟩ := hmessages
        have hread' := gives_readConversation hconversation hne
        cases hprepare : (c.prepare s).result with
        | ok options =>
          exact absurd ⟨⟨specs, hspecs⟩, ⟨conversation, hconversation, hne⟩, options, hprepare⟩
            hrejected
        | error e =>
          obtain ⟨hwhole, hstreamed⟩ := gives_reply_error (withToolPrompt_ne_nil hne specs choice)
            ⟨hprepare, silent_prepare conn settings s⟩
          exact ⟨e, hread.bind (hread'.bind hwhole.bind_error),
            hread.bind (hread'.bind hstreamed.bind_error)⟩
      · obtain ⟨e, he⟩ := gives_readConversation_error hmessages
        exact ⟨e, hread.bind he.bind_error, hread.bind he.bind_error⟩
    · obtain ⟨e, he⟩ := gives_readTools_error htools
      exact ⟨e, he.bind_error, he.bind_error⟩

/-- A server that answers everything with one call of a tool, which it streams in pieces. -/
def callingServer : Server where
  complete _ := .ok [.str "Look:\nTOOL_CALL: find\nARGUMENTS: \x7b\x7d"]
  stream _ := .ok { chunks :=
    [[.str "Look:\nTOOL_"], [.null], [], [.str "", .str "CALL: find\nARG"], [.str "UMENTS: \x7b\x7d"]] }
  models := .ok []

/-- A connection to it. -/
def callingConnection : Connection where
  settings := {}
  address := "http://127.0.0.1:8080/v1"
  server := callingServer

theorem replies_callingServer (request : ChatRequest) :
    callingServer.Replies request "Look:\nTOOL_CALL: find\nARGUMENTS: \x7b\x7d" := by
  refine ⟨⟨_, rfl, rfl⟩, ⟨_, rfl, ?_⟩⟩
  constructor
  · simp
  · decide
  · rfl
  · rfl

theorem streamChat_agrees_callingServer :
    let c : Client := { model := callingConnection.model }
    let messages : List Message.Input := [.described (.obj [("role", .str "user"),
      ("content", .str "Where?")])]
    let tools : List ToolSpec.Input := [.described (.obj [("name", .str "find")])]
    c.Accepts messages tools {} ∧ ∃ request whole used deltas bridge, request.streaming = false ∧
      (c.converseWithTools messages tools .free {} (.numbered "call") 0).Gives
        (.ok (whole, used)) [request] ∧
      (c.streamChat messages tools .free {} none (.numbered "call") 0).Gives
        (.ok (⟨deltas.map .textDelta ++ whole.calls.map .toolCall ++
          [.done (some whole.finishReason)], .complete, bridge⟩, used))
        [{ request with streaming := true }] ∧
      String.join deltas = "Look:\nTOOL_CALL: find\nARGUMENTS: \x7b\x7d" := by
  intro c messages tools
  have haccepts : c.Accepts messages tools {} := by
    refine ⟨⟨_, rfl⟩, ⟨_, rfl, by simp⟩, ⟨_, rfl⟩⟩
  exact ⟨haccepts, (streamChat_agrees {} callingConnection messages tools .free {}
    (.numbered "call") 0 replies_callingServer (by simp [errorMark])).1 haccepts⟩

end Client

end Dialogue
