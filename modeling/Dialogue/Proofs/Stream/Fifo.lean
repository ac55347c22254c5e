import Dialogue.Proofs.Stream.Interleaving

/-!
# Dialogue.Proofs.Stream.Fifo — a bridge is a lossless queue for one patient consumer

One consumer asks for the next event only when its last call has returned, no call is abandoned and
the stream is not cancelled (`alone`). An event then goes one of two ways to the consumer: into the
queue, or straight to a call that waits, which may go on much later. The invariant `Flow` follows
both ways: what the consumer has been given, then what is on its way to a waiting call, then the
queue, is exactly what the payloads taken in so far stand for.

* `flow_next` — one act keeps `Flow`;
* `given_in_order` — the statement for every run.
-/

namespace Dialogue.Stream

/-! ## Where the only consumer stands -/

/-- Where the only consumer stands: it has no call open, its call waits, or its call has been handed
an event and has not gone on. -/
inductive Stand (pending : List CallId) (b : Bridge) : Prop where
  | idle (hp : pending = []) (hw : b.waiter = none) (hh : b.handed = [])
  | waiting (call : CallId) (hp : pending = [call]) (hw : b.waiter = some ⟨call, false⟩)
      (hh : b.handed = []) (hq : b.queue = [])
  | served (call : CallId) (e : Event) (hp : pending = [call]) (hw : b.waiter = none)
      (hh : b.handed = [⟨call, some e, false⟩])

namespace Stand

variable {pending : List CallId} {b : Bridge}

/-- Events that are pushed go behind all others, whichever way they take. -/
theorem pushAll (h : Stand pending b) (es : List Event) :
    Stand pending (b.pushAll es) ∧
      (b.pushAll es).inFlight ++ (b.pushAll es).queue = b.inFlight ++ b.queue ++ es := by
  induction es generalizing b with
  | nil => exact ⟨h, by simp⟩
  | cons e rest ih =>
    have hpush : Stand pending (b.push e) ∧
        (b.push e).inFlight ++ (b.push e).queue = b.inFlight ++ b.queue ++ [e] := by
      cases h with
      | idle hp hw hh =>
        have hb : b.push e = { b with queue := b.queue ++ [e] } := by simp [Bridge.push, hw]
        rw [hb]
        exact ⟨.idle hp hw hh, by simp [Bridge.inFlight]⟩
      | waiting call hp hw hh hq =>
        -- the queue is empty, so the event that overtakes it overtakes nothing
        have hb : b.push e = { b with waiter := none, handed := [⟨call, some e, false⟩] } := by
          simp [Bridge.push, hw, hh]
        rw [hb]
        exact ⟨.served call e hp rfl rfl, by simp [Bridge.inFlight, hh, hq]⟩
      | served call e' hp hw hh =>
        have hb : b.push e = { b with queue := b.queue ++ [e] } := by simp [Bridge.push, hw]
        rw [hb]
        exact ⟨.served call e' hp hw hh, by simp [Bridge.inFlight]⟩
    obtain ⟨hstand, horder⟩ := ih hpush.1
    exact ⟨hstand, by simp [horder, hpush.2]⟩

/-- At most one event is on its way to a call. -/
theorem length_inFlight (h : Stand pending b) : b.inFlight.length ≤ 1 := by
  cases h with
  | idle hp hw hh => simp [Bridge.inFlight, hh]
  | waiting call hp hw hh hq => simp [Bridge.inFlight, hh]
  | served call e hp hw hh => simp [Bridge.inFlight, hh]

/-- Without an open call none waits and nothing is on its way. -/
theorem idle_of_nil (h : Stand [] b) : b.waiter = none ∧ b.handed = [] := by
  cases h with
  | idle hp hw hh => exact ⟨hw, hh⟩
  | waiting call hp hw hh hq => simp at hp
  | served call e hp hw hh => simp at hp

/-- A payload may be remembered at any time. -/
theorem remember (h : Stand pending b) (raw : RawPayload) : Stand pending (b.remember raw) := by
  cases h with
  | idle hp hw hh => exact .idle hp hw hh
  | waiting call hp hw hh hq => exact .waiting call hp hw hh hq
  | served call e hp hw hh => exact .served call e hp hw hh

end Stand

/-! ## The invariant -/

/-- One consumer asks only when its last call has returned, abandons none, and nobody cancels. -/
def World.alone (w : World) : Act → Bool
  | .ask => w.pending.isEmpty
  | .abandon _ => false
  | .cancel => false
  | _ => true

/-- The events of the payloads taken in, spread over what the consumer has been given, what is on
its way, and the queue. -/
structure Flow (w : World) : Prop where
  live : w.bridge.cancelled = false
  text : w.bridge.text = textAfter [] w.delivered
  terminal : w.bridge.terminal = w.delivered.any endsStream
  order : w.received ++ (w.bridge.inFlight ++ w.bridge.queue) = eventsAfter [] w.delivered
  stand : Stand w.pending w.bridge

namespace World

variable {w : World}

theorem flow_start : Flow {} := ⟨rfl, rfl, rfl, rfl, .idle rfl rfl rfl⟩

theorem flow_deliver (h : Flow w) (raw : RawPayload) : Flow (w.deliver raw) := by
  cases ht : w.bridge.terminal with
  | true =>
    -- the stream has ended: the payload stands for nothing
    have hb : w.bridge.deliver raw = w.bridge := Bridge.deliver_dropped (by simp [ht]) raw
    have hend : w.delivered.any endsStream = true := h.terminal ▸ ht
    refine ⟨?_, ?_, ?_, ?_, ?_⟩ <;> simp only [deliver, hb]
    · exact h.live
    · simpa only [textAfter_append, hend, if_true] using h.text
    · simp [ht, hend]
    · rw [eventsAfter_append, hend]
      simpa [received] using h.order
    · exact h.stand
  | false =>
    -- the stream is open: the payload's events go behind those before it
    have hend : w.delivered.any endsStream = false := h.terminal ▸ ht
    obtain ⟨hstand, horder⟩ := (h.stand.remember raw).pushAll (eventsAfter w.bridge.text [raw])
    refine ⟨?_, ?_, ?_, ?_, ?_⟩ <;> simp only [deliver, Bridge.deliver_eq ht h.live raw]
    · simpa using h.live
    · simp [textAfter_append, hend, h.text]
    · simp [hend]
    · have hgiven := h.order
      simp only [received] at hgiven ⊢
      rw [horder, eventsAfter_append, hend, ← hgiven, h.text]
      simp [Bridge.inFlight]
    · exact hstand

/-- A call that begins finds the end, waits, or is given the head of the queue. -/
theorem flow_ask (h : Flow w) (hidle : w.pending = []) : Flow w.ask := by
  obtain ⟨hw, hh⟩ : w.bridge.waiter = none ∧ w.bridge.handed = [] := by
    cases h.stand with
    | idle hp hw hh => exact ⟨hw, hh⟩
    | waiting call hp hw hh hq => simp [hidle] at hp
    | served call e hp hw hh => simp [hidle] at hp
  have horder := h.order
  rcases Bridge.request_cases hw w.begun with ⟨-, hreq⟩ | ⟨-, hq, hreq⟩ |
    ⟨-, e, rest, finished, a, hq, hreq, hev, hne⟩
  · -- the end has been seen
    refine ⟨?_, ?_, ?_, ?_, ?_⟩ <;> simp only [ask, hreq, reduceCtorEq, if_false]
    · exact h.live
    · exact h.text
    · exact h.terminal
    · simpa [received, Bridge.Answer.event?] using horder
    · exact h.stand
  · -- the call waits
    refine ⟨?_, ?_, ?_, ?_, ?_⟩ <;> simp only [ask, hreq, if_true]
    · exact h.live
    · exact h.text
    · exact h.terminal
    · simpa [received, Bridge.inFlight] using horder
    · exact .waiting w.begun (by simp [hidle]) rfl hh hq
  · -- the head of the queue is given
    refine ⟨?_, ?_, ?_, ?_, ?_⟩ <;> simp only [ask, hreq, hne, if_false]
    · exact h.live
    · exact h.text
    · exact h.terminal
    · simpa [received, Bridge.inFlight, hh, hev, hq, List.filterMap_cons] using horder
    · exact .idle hidle hw hh

/-- A call that goes on is given the event that was on its way. -/
theorem flow_goOn (h : Flow w) {call : CallId} (hcan : w.can (.goOn call) = true) :
    Flow (w.goOn call) := by
  simp only [can, Bridge.isReady, Bool.and_eq_true, List.contains_iff_mem] at hcan
  obtain ⟨hopen, hready⟩ := hcan
  -- only a call that has been handed an event is ready
  cases h.stand with
  | idle hp hw hh => simp [hp] at hopen
  | waiting other hp hw hh hq => simp [hw, hh] at hready
  | served other e hp hw hh =>
    obtain rfl : call = other := by simpa [hp] using hopen
    obtain ⟨finished, a, hres, hev⟩ := Bridge.resume_served hh
    have horder := h.order
    refine ⟨?_, ?_, ?_, ?_, ?_⟩ <;> simp only [goOn, hres]
    · exact h.live
    · exact h.text
    · exact h.terminal
    · simpa [received, Bridge.inFlight, hh, hev, List.filterMap_cons] using horder
    · exact .idle (by simp [hp]) hw rfl

/-- Every act of a lone consumer and its producer keeps the flow. -/
theorem flow_next (w : World) (a : Act) (hcan : w.can a = true) (hmay : w.alone a = true)
    (h : Flow w) : Flow (w.next a) := by
  cases a with
  | push raw => exact flow_deliver h raw
  | post raw =>
    -- the bridge does not see a payload before it is taken in
    exact ⟨h.live, h.text, h.terminal, h.order, h.stand⟩
  | takeIn =>
    cases hp : w.posted with
    | nil => simp [can, hp] at hcan
    | cons raw rest =>
      have hrest : Flow { w with posted := rest } :=
        ⟨h.live, h.text, h.terminal, h.order, h.stand⟩
      simpa only [next, hp] using flow_deliver hrest raw
  | ask => exact flow_ask h (by simpa [alone] using hmay)
  | goOn call => exact flow_goOn h hcan
  | abandon call => simp [alone] at hmay
  | cancel => simp [alone] at hmay

/-! ## Every run -/

/-- In every run of one consumer that neither abandons a call nor cancels: what it has been given,
what is on its way to its call, and what is queued are together the events of the payloads taken in,
in order and once each. When each text extends the one before, their deltas are the text received.
Payloads are taken in in the producer's order when the producer keeps to one side of the loop. -/
theorem given_in_order {acts : List Act} {w : World} (h : run alone acts {} = some w) :
    w.received ++ w.bridge.inFlight ++ w.bridge.queue = eventsAfter [] w.delivered ∧
      w.bridge.inFlight.length ≤ 1 ∧
      (Cumulative [] w.delivered →
        deltaText (w.received ++ w.bridge.inFlight ++ w.bridge.queue) = w.bridge.text) ∧
      ((∀ a ∈ acts, a.isPush = false) ∨ (∀ a ∈ acts, a.isPost = false) →
        w.delivered ++ w.posted = acts.filterMap Act.pushed?) := by
  have hflow : Flow w := run_invariant flow_next h flow_start
  have horder : w.received ++ w.bridge.inFlight ++ w.bridge.queue = eventsAfter [] w.delivered := by
    rw [List.append_assoc]
    exact hflow.order
  refine ⟨horder, hflow.stand.length_inFlight, ?_, ?_⟩
  · intro hcumulative
    rw [horder, deltaText_eventsAfter hcumulative, hflow.text]
  · intro hside
    have hpayloads := payloads_run h (hside.imp_right fun hpost => ⟨hpost, rfl⟩)
    simpa using hpayloads

/-- A call waits and is handed the first delta; it goes on only after a text, the end and one more
payload have been taken in behind it. -/
def lateRun : List Act :=
  [.ask, .post (some "a"), .post (some "ab"), .takeIn, .takeIn, .post none, .takeIn,
    .post (some "abc"), .takeIn, .goOn 0, .ask]

theorem given_in_order_lateRun :
    ∃ w, run alone lateRun {} = some w ∧ w.received = [.textDelta "a", .textDelta "b"] ∧
      w.bridge.queue = [.finished] ∧
      w.received ++ w.bridge.inFlight ++ w.bridge.queue = eventsAfter [] w.delivered := by
  refine ⟨_, rfl, rfl, rfl, ?_⟩
  exact (@given_in_order lateRun _ rfl).1

end World

end Dialogue.Stream
