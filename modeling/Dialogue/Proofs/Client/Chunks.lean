import Dialogue.Client.Completion
import Dialogue.Proofs.Client.Conversation

/-!
# Dialogue.Proofs.Client.Chunks — a completion in chunks

A completion is streamed as one chunk for each delta and a closing chunk for the end. All chunks
carry one stamp, their contents make up the text of the stream, and the last one alone tells why the
stream ended. The role stands in the chunk of the first delta, so a reply without text has no chunk
for it.

* `exists_texts_of_finished` — a stream that ended normally stands for texts and the end;
* `chunked_chunksOf`, `opensWithRole_chunksOf` — the chunks of such a stream;
* `completionChunks_chunked` — the statement for every conversation, and for a consumer that is
  given the events while payloads come in.
-/

namespace Dialogue.Stream

/-- A stream ends normally: the first payload that ends it reports no error. -/
def EndsNormally (raws : List RawPayload) : Prop :=
  ∃ raw, raws.find? endsStream = some raw ∧ rawChars raw = []

/-- The last event of a stream that ends normally is the end. -/
theorem EndsNormally.finished {raws : List RawPayload} (h : EndsNormally raws) :
    .finished ∈ eventsAfter [] raws := by
  obtain ⟨raw, hfind, hchars⟩ := h
  have hlast : (eventsAfter [] raws).getLast? = some (Client.endEvent raw) :=
    Client.getLast?_eventsAfter hfind
  rw [Client.endEvent, hchars] at hlast
  exact List.mem_of_getLast? hlast

/-- A stream that ended normally stands for texts, none of them empty, and the end. -/
theorem exists_texts_of_finished {text : List Char} {raws : List RawPayload}
    (h : .finished ∈ eventsAfter text raws) :
    ∃ texts : List String, eventsAfter text raws = texts.map .textDelta ++ [.finished] ∧
      "" ∉ texts := by
  induction raws generalizing text with
  | nil => simp at h
  | cons raw rest ih =>
    rw [eventsAfter] at h ⊢
    split at h
    · exact ⟨[], rfl, List.not_mem_nil⟩
    · rename_i c cs _
      split at h
      · simp [Event.finished] at h
      · rename_i hmark
        rw [if_neg hmark]
        have hrest : .finished ∈ eventsAfter (c :: cs) rest := by
          rw [List.mem_append, or_iff_right] at h
          · exact h
          · unfold deltaEvents
            split <;> simp [Event.finished]
        obtain ⟨texts, heq, hne⟩ := ih hrest
        rw [heq]
        -- a payload that adds nothing has no delta
        unfold deltaEvents
        split
        · exact ⟨texts, rfl, hne⟩
        · rename_i hdelta
          refine ⟨_ :: texts, rfl, ?_⟩
          rw [List.mem_cons, not_or]
          refine ⟨?_, hne⟩
          intro hempty
          simp [← String.toList_inj] at hempty hdelta
          omega

end Dialogue.Stream

namespace Dialogue.Client

open Dialogue.Stream

/-! ## What a chunk carries -/

/-- The role that a chunk carries. -/
def CompletionChunk.role? (c : CompletionChunk) : Option Json := c.delta.toMembers.lookup "role"

/-- The content that a chunk adds. -/
def CompletionChunk.content? (c : CompletionChunk) : Option String :=
  match c.delta.toMembers.lookup "content" with
  | some (.str content) => some content
  | _ => none

/-- Chunks of one completion: they share a stamp and the name of the model, their contents make up
the text, and the last chunk, and only it, tells that the stream is over. -/
structure Chunked (stamp : Stamp) (model text : String) (chunks : List CompletionChunk) : Prop where
  stamped : ∀ c ∈ chunks, c.stamp = stamp ∧ c.model = model
  content : String.join (chunks.filterMap CompletionChunk.content?) = text
  finished : ∃ before last, chunks = before ++ [last] ∧ last.finishReason = some "stop" ∧
    ∀ c ∈ before, c.finishReason = none

/-- The first chunk carries the role, and no other chunk does. -/
def OpensWithRole (chunks : List CompletionChunk) : Prop :=
  ∃ first rest, chunks = first :: rest ∧ first.role? = some (.str replyRole) ∧
    ∀ c ∈ rest, c.role? = none

/-! ## Chunks of events -/

section

variable (stamp : Stamp) (model : String)

theorem stamped_chunksOf (first : Bool) (es : List Event) :
    ∀ c ∈ chunksOf stamp model first es, c.stamp = stamp ∧ c.model = model := by
  fun_induction chunksOf stamp model first es with
  | case1 => exact List.forall_mem_nil _
  | case2 first text rest ih => exact List.forall_mem_cons.2 ⟨⟨rfl, rfl⟩, ih⟩
  | case3 first reason rest ih => exact List.forall_mem_cons.2 ⟨⟨rfl, rfl⟩, ih⟩
  | case4 first e rest _ _ ih => exact ih

/-- The contents of chunks are the deltas that they were made of. -/
theorem contents_chunksOf (first : Bool) (es : List Event) :
    (chunksOf stamp model first es).filterMap CompletionChunk.content? =
      es.filterMap Event.delta? := by
  fun_induction chunksOf stamp model first es with
  | case1 => rfl
  | case2 first text rest ih =>
    have hcontent : (⟨stamp, model, if first then .opening text else .content text, none⟩ :
        CompletionChunk).content? = some text := by
      cases first <;> rfl
    have hdelta : (Event.textDelta text).delta? = some text := rfl
    rw [List.filterMap_cons_some hcontent, List.filterMap_cons_some hdelta, ih]
  | case3 first reason rest ih =>
    rw [List.filterMap_cons_none rfl, List.filterMap_cons_none rfl, ih]
  | case4 first e rest hdelta hdone ih =>
    have hnone : e.delta? = none := by
      cases e with
      | textDelta text => exact absurd rfl (hdelta text)
      | _ => rfl
    rw [List.filterMap_cons_none hnone, ih]

/-! ### Texts and the end -/

/-- The chunk of the end. -/
def closingChunk : CompletionChunk := ⟨stamp, model, .empty, some "stop"⟩

/-- After the first delta there are contents without a role. -/
theorem chunksOf_later (texts : List String) :
    chunksOf stamp model false (texts.map .textDelta ++ [.finished]) =
      texts.map (fun text => ⟨stamp, model, .content text, none⟩) ++
        [closingChunk stamp model] := by
  induction texts with
  | nil => rfl
  | cons text rest ih =>
    rw [List.map_cons, List.cons_append, chunksOf, ih]
    rfl

/-- The first delta opens the completion. -/
theorem chunksOf_first (text : String) (rest : List String) :
    chunksOf stamp model true ((text :: rest).map .textDelta ++ [.finished]) =
      (⟨stamp, model, .opening text, none⟩ ::
        rest.map fun text => ⟨stamp, model, .content text, none⟩) ++
        [closingChunk stamp model] := by
  rw [List.map_cons, List.cons_append, chunksOf, chunksOf_later]
  rfl

/-- Without a delta there is the chunk of the end alone. -/
theorem chunksOf_none :
    chunksOf stamp model true (([] : List String).map .textDelta ++ [.finished]) =
      [closingChunk stamp model] := rfl

theorem deltas_texts (texts : List String) :
    (texts.map Event.textDelta ++ [Event.finished]).filterMap Event.delta? = texts := by
  induction texts with
  | nil => rfl
  | cons text rest ih =>
    have hdelta : (Event.textDelta text).delta? = some text := rfl
    rw [List.map_cons, List.cons_append, List.filterMap_cons_some hdelta, ih]

theorem chunked_chunksOf (texts : List String) :
    Chunked stamp model (String.join texts)
      (chunksOf stamp model true (texts.map .textDelta ++ [.finished])) := by
  refine ⟨stamped_chunksOf stamp model _ _, by rw [contents_chunksOf, deltas_texts], ?_⟩
  cases texts with
  | nil => exact ⟨[], _, chunksOf_none stamp model, rfl, List.forall_mem_nil _⟩
  | cons text rest => exact ⟨_, _, chunksOf_first stamp model text rest, rfl, by simp⟩

theorem join_ne_empty {texts : List String} (hne : "" ∉ texts) :
    String.join texts ≠ "" ↔ texts ≠ [] := by
  cases texts with
  | nil => exact iff_of_false (fun h => h rfl) (fun h => h rfl)
  | cons text rest =>
    have htext : text ≠ "" := fun h => hne (h ▸ List.mem_cons_self)
    simp [String.join_cons, htext]

/-- The chunks open with the role just when there is a text. -/
theorem opensWithRole_chunksOf {texts : List String} (hne : "" ∉ texts) :
    OpensWithRole (chunksOf stamp model true (texts.map .textDelta ++ [.finished])) ↔
      String.join texts ≠ "" := by
  rw [join_ne_empty hne]
  cases texts with
  | nil =>
    refine iff_of_false ?_ (fun h => h rfl)
    rintro ⟨first, rest, heq, hrole, -⟩
    rw [chunksOf_none, List.cons.injEq] at heq
    rw [← heq.1] at hrole
    contradiction
  | cons text rest =>
    refine iff_of_true ⟨_, _, chunksOf_first stamp model text rest, rfl, ?_⟩ (List.cons_ne_nil _ _)
    intro c hc
    rcases List.mem_append.1 hc with hc | hc
    · obtain ⟨text, -, rfl⟩ := List.mem_map.1 hc
      rfl
    · rw [List.mem_singleton.1 hc]
      rfl

/-- The chunks of a reply with the given text: the role is missing just when the reply is empty,
which has the chunk of the end alone. -/
structure ChunkedReply (text : String) (chunks : List CompletionChunk) : Prop where
  chunked : Chunked stamp model text chunks
  role : OpensWithRole chunks ↔ text ≠ ""
  bare : text = "" → chunks = [closingChunk stamp model]

/-- The chunks of a stream that has ended normally, each text extending the one before. -/
theorem chunkedReply_of_finished {raws : List RawPayload} (hcumulative : Cumulative [] raws)
    (hfinished : .finished ∈ eventsAfter [] raws) :
    ChunkedReply stamp model (String.ofList (textAfter [] raws))
      (chunksOf stamp model true (eventsAfter [] raws)) := by
  obtain ⟨texts, hevents, hne⟩ := exists_texts_of_finished hfinished
  have htext : String.ofList (textAfter [] raws) = String.join texts := by
    rw [← deltaText_eventsAfter hcumulative, hevents, deltaText, deltas_texts, ← String.toList_join,
      String.ofList_toList]
  rw [htext, hevents]
  refine ⟨chunked_chunksOf stamp model texts, opensWithRole_chunksOf stamp model hne, ?_⟩
  intro hempty
  have hnone : texts = [] := Decidable.byContradiction fun h => (join_ne_empty hne).2 h hempty
  rw [hnone]
  exact chunksOf_none stamp model

end

/-! ## Reading and receiving -/

/-- A consumer without a limit reads a stream that has been delivered and ends normally to its
end. -/
theorem read_chunkEvents {b : Bridge} {texts : List String}
    (hqueue : b.queue = texts.map .textDelta ++ [.finished]) (hwaiter : b.waiter = none)
    (hfinished : b.finished = false) :
    b.read chunkEvent? none = ⟨b.queue, .complete, { b with queue := [], finished := true }⟩ := by
  have hopen : ∀ e ∈ texts.map Event.textDelta, e.isTerminal = false := by
    simp [Event.isTerminal]
  have hwanted : b.queue.filterMap chunkEvent? = b.queue := by
    rw [hqueue, List.filterMap_append, List.filterMap_map]
    exact congrArg (· ++ [Event.finished]) (congrFun List.filterMap_eq_map texts)
  have hcalls : b.queue.length + 1 = (texts.map Event.textDelta).length + 2 := by
    rw [hqueue]
    simp
  rw [Bridge.read, hcalls, Bridge.readLoop_done hopen hqueue hwaiter hfinished, hwanted,
    List.nil_append]

/-- A consumer that has been given the end of a stream has been given all that the stream stands
for. -/
theorem received_of_finished {w : World} (hflow : Flow w) (hfinished : .finished ∈ w.received) :
    w.received = eventsAfter [] w.delivered := by
  have hmem : .finished ∈ eventsAfter [] w.delivered := by
    rw [← hflow.order]
    exact List.mem_append_left _ hfinished
  obtain ⟨texts, hevents, -⟩ := exists_texts_of_finished hmem
  have horder := hflow.order
  rcases List.eq_nil_or_concat (w.bridge.inFlight ++ w.bridge.queue) with hnone | ⟨more, e, hmore⟩
  · rwa [hnone, List.append_nil] at horder
  · -- the end would stand before the last event
    rw [hmore, hevents, List.concat_eq_append, ← List.append_assoc] at horder
    have hbefore := (List.append_inj' horder rfl).1
    have hin : .finished ∈ texts.map Event.textDelta := hbefore ▸ List.mem_append_left _ hfinished
    simp [Event.finished] at hin

/-- A consumer that has been given the end has been given what the whole stream stands for, whatever
comes in later. -/
theorem received_of_start {w : World} {raws : List RawPayload} (hflow : Flow w)
    (hfinished : .finished ∈ w.received) (hstart : w.delivered <+: raws) :
    w.received = eventsAfter [] raws := by
  obtain ⟨later, rfl⟩ := hstart
  have hreceived := received_of_finished hflow hfinished
  have hended : w.delivered.any endsStream = true := by
    rw [← any_isTerminal_eventsAfter [], ← hreceived]
    exact List.any_eq_true.2 ⟨_, hfinished, rfl⟩
  rw [eventsAfter_append, if_pos hended, List.append_nil, hreceived]

/-! ## Every completion -/

/-- A completion of a conversation with at least one message is streamed when the messages and
options can be read and the model is available. If the stream ends normally, and each of its texts
extends the one before, the chunks are those of a reply with the text of the stream. A consumer is
given the same chunks by the end when payloads come in at any time between its calls, and a whole
completion has the text that the model gives. -/
theorem completionChunks_chunked {c : Client} {messages : List Message.Input} {s : Sampling}
    (stamp : Stamp) {conversation : List Message} {options : Options} {last : Message}
    {out : Model.Output} (hconversation : Message.readInputs messages = .ok conversation)
    (hne : conversation ≠ []) (hprepare : (c.prepare s).result = .ok options)
    (hlast : conversation.getLast? = some last)
    (hstream : (c.model.stream last.content conversation.dropLast options).result = .ok out)
    (hcumulative : Cumulative [] out.payloads) (hends : EndsNormally out.payloads) :
    (∃ got, (c.completionChunks messages s none stamp).result = .ok got ∧ got.ending = .complete ∧
      ChunkedReply stamp c.modelName (String.ofList (textAfter [] out.payloads)) got.items ∧
      ∀ acts w, World.run World.alone acts {} = some w → w.delivered <+: out.payloads →
        .finished ∈ w.received → chunksOf stamp c.modelName true w.received = got.items) ∧
    ∀ text, (c.model.converse conversation options).result = .ok text →
      (c.complete messages s stamp).result = .ok ⟨stamp, c.modelName, text⟩ := by
  have hread := (gives_readConversation hconversation hne).1
  constructor
  · have hdelivered := Bridge.deliverAll_eq (b := {}) rfl rfl rfl out.payloads
    obtain ⟨texts, hevents, -⟩ := exists_texts_of_finished hends.finished
    have hqueue : (Bridge.deliverAll out.payloads {}).queue = eventsAfter [] out.payloads := by
      rw [hdelivered]
      rfl
    have hgot := @read_chunkEvents (Bridge.deliverAll out.payloads {}) texts (hqueue.trans hevents)
      (by rw [hdelivered]) (by rw [hdelivered])
    have hopened : (c.streamConversation conversation s).result =
        .ok (Bridge.deliverAll out.payloads {}) := by
      simp only [streamConversation, hlast, openStream]
      rw [Attempt.result_bind hprepare, Attempt.result_bind rfl, Attempt.result_bind hstream]
      rfl
    have hresult : (c.completionChunks messages s none stamp).result = .ok (Reading.leave
        ⟨chunksOf stamp c.modelName true (eventsAfter [] out.payloads), .complete,
          { Bridge.deliverAll out.payloads {} with queue := [], finished := true }⟩) := by
      unfold completionChunks
      rw [Attempt.result_bind hread, Attempt.result_bind hopened, hgot, (gives_leaveStream _).1,
        hqueue]
      rfl
    refine ⟨_, hresult, rfl, ?_, ?_⟩
    · exact chunkedReply_of_finished stamp c.modelName hcumulative hends.finished
    · intro acts w hrun hstart hfinished
      have hflow : Flow w := World.run_invariant World.flow_next hrun World.flow_start
      rw [received_of_start hflow hfinished hstart]
      rfl
  · intro text htext
    have hconverse : (c.converse messages s).result = .ok text := by
      unfold converse reply
      rw [Attempt.result_bind hread, Attempt.result_bind hprepare, Attempt.result_bind rfl, htext]
    show (_ >>= _ : Attempt Completion).result = _
    rw [Attempt.result_bind hconverse]
    rfl

/-! ### Replies with and without text -/

/-- A model with one reply to everything, which it streams as the given payloads. -/
def scriptedModel (reply : String) (payloads : List RawPayload) : Model where
  probe := pure .ok
  languages := []
  generate _ _ := pure reply
  converse _ _ := pure reply
  stream _ _ _ := pure ⟨payloads, false⟩
  structured _ _ _ := pure ⟨reply, .null⟩

def greeting : List Message.Input :=
  [.described (.obj [("role", .str "user"), ("content", .str "Hello")])]

def firstStamp : Stamp := ⟨"chatcmpl-1", 0⟩

theorem completionChunks_chunked_repeatedText :
    let c : Client :=
      { model := scriptedModel "Hi there"
          [some "Hi", some "Hi", some "Hi there", some "", some "Bye"] }
    ∃ got, (c.completionChunks greeting {} none firstStamp).result = .ok got ∧
      got.items = [⟨firstStamp, c.modelName, .opening "Hi", none⟩,
        ⟨firstStamp, c.modelName, .content " there", none⟩, closingChunk firstStamp c.modelName] ∧
      Chunked firstStamp c.modelName "Hi there" got.items ∧ OpensWithRole got.items ∧
      (c.complete greeting {} firstStamp).result = .ok ⟨firstStamp, c.modelName, "Hi there"⟩ := by
  intro c
  obtain ⟨⟨got, hgot, -, hreply, -⟩, hwhole⟩ :=
    @completionChunks_chunked c greeting {} firstStamp _ _ _ _ rfl (by simp) rfl rfl rfl
      (by simp [Cumulative, rawChars, endsStream, errorMark]) ⟨some "", rfl, rfl⟩
  have hresult : ∃ b, (c.completionChunks greeting {} none firstStamp).result = .ok ⟨[
      ⟨firstStamp, c.modelName, .opening "Hi", none⟩,
      ⟨firstStamp, c.modelName, .content " there", none⟩,
      closingChunk firstStamp c.modelName], .complete, b⟩ := ⟨_, rfl⟩
  obtain ⟨b, hresult⟩ := hresult
  obtain rfl := Except.ok.inj (hresult.symm.trans hgot)
  exact ⟨_, hgot, rfl, hreply.chunked, hreply.role.2 (by decide), hwhole _ rfl⟩

/-- A reply without text ends normally, and no chunk of it carries the role. -/
theorem silentReply_without_role :
    let c : Client := { model := scriptedModel "" [none] }
    EndsNormally [none] ∧ ∃ got, (c.completionChunks greeting {} none firstStamp).result = .ok got ∧
      got.ending = .complete ∧ got.items = [closingChunk firstStamp c.modelName] ∧
      ¬ OpensWithRole got.items := by
  intro c
  have hresult : ∃ b, (c.completionChunks greeting {} none firstStamp).result =
      .ok ⟨[closingChunk firstStamp c.modelName], .complete, b⟩ := ⟨_, rfl⟩
  obtain ⟨b, hresult⟩ := hresult
  refine ⟨⟨none, rfl, rfl⟩, _, hresult, rfl, rfl, ?_⟩
  rintro ⟨first, rest, heq, hrole, -⟩
  obtain rfl := (List.cons.inj heq).1
  contradiction

end Dialogue.Client
