import Dialogue.Proofs.Stream.Fifo

/-!
# Dialogue.Proofs.Stream.Abandonment — giving up a call and asking again

A consumer may give up a call that has not returned and ask again later. What becomes of the events
depends on when it does so.

* Before the call has been handed an event, nothing is lost: events that come in go to the queue, and
  the call is as good as gone (`Kept`, `kept_when_abandoned`).
* Once an event is on its way to the call, giving the call up loses that event and no other
  (`lost_when_abandoned_late`). When it is the end of the stream, a later call waits for ever
  (`end_lost_when_abandoned_late`).

`Told` adds to the `Flow` of events that the end is known as soon as it has been given. It carries
the second half of the main statement: what has not been given yet can be asked for, and after the
end has come in no call waits.
-/

namespace Dialogue.Stream

/-! ## The end among events -/

/-- A payload that ends the stream stands for one event, the end. -/
theorem eventsAfter_end {raw : RawPayload} (h : endsStream raw = true) (text : List Char) :
    ∃ e, eventsAfter text [raw] = [e] ∧ e.isTerminal = true := by
  unfold endsStream at h
  rw [eventsAfter]
  cases hc : rawChars raw with
  | nil => exact ⟨_, rfl, rfl⟩
  | cons c cs =>
    have he : c = errorMark := by simpa [hc] using h
    simp [he, Event.isTerminal]

theorem not_isTerminal_deltaEvents {delta : List Char} {e : Event} (h : e ∈ deltaEvents delta) :
    e.isTerminal = false := by
  unfold deltaEvents at h
  split at h
  · simp at h
  · obtain rfl : e = .textDelta (String.ofList delta) := List.mem_singleton.1 h
    rfl

/-- Payloads stand for the end of the stream just when one of them ends it. -/
theorem any_isTerminal_eventsAfter (text : List Char) (raws : List RawPayload) :
    (eventsAfter text raws).any Event.isTerminal = raws.any endsStream := by
  induction raws generalizing text with
  | nil => rfl
  | cons raw rest ih =>
    cases h : endsStream raw with
    | true =>
      obtain ⟨e, hone, he⟩ := eventsAfter_end h text
      rw [eventsAfter_cons_end h, hone]
      simp [h, he]
    | false =>
      have hdelta : (deltaEvents ((rawChars raw).drop text.length)).any Event.isTerminal = false :=
        List.any_eq_false.2 fun e hmem => by simp [not_isTerminal_deltaEvents hmem]
      rw [eventsAfter_cons_text h, List.any_append, hdelta, ih]
      simp [h]

/-- Nothing stands behind the end of the stream. -/
theorem eventsAfter_terminal_last {text : List Char} {raws : List RawPayload}
    {before after : List Event} {e : Event} (h : eventsAfter text raws = before ++ e :: after)
    (he : e.isTerminal = true) : after = [] := by
  induction raws generalizing text before with
  | nil => simp at h
  | cons raw rest ih =>
    cases hends : endsStream raw with
    | true =>
      obtain ⟨only, hone, -⟩ := eventsAfter_end hends text
      rw [eventsAfter_cons_end hends, hone] at h
      cases before with
      | nil => exact (List.cons.inj h).2.symm
      | cons other before => simp at h
    | false =>
      -- the end is no delta, so it is among the events of the rest
      rw [eventsAfter_cons_text hends] at h
      rcases List.append_eq_append_iff.1 h with ⟨more, -, hrest⟩ | ⟨more, hdelta, hrest⟩
      · exact ih hrest
      · cases more with
        | nil =>
          have hfirst : eventsAfter (rawChars raw) rest = [] ++ e :: after := hrest.symm
          exact ih hfirst
        | cons other more =>
          obtain ⟨rfl, -⟩ := List.cons.inj hrest
          rw [not_isTerminal_deltaEvents (by rw [hdelta]; simp)] at he
          contradiction

/-! ## What a call learns of the end -/

namespace Bridge

/-- Handing out an event marks the end just when the event is the end. -/
theorem finished_consume (e : Event) (b : Bridge) :
    (b.consume e).1.finished = (b.finished || e.isTerminal) ∧ (b.consume e).2.event? = some e := by
  cases e <;> simp [consume, Event.isTerminal, Answer.event?]

theorem finished_request (call : CallId) (b : Bridge) :
    (b.request call).1.finished =
      (b.finished || (b.request call).2.event?.any Event.isTerminal) := by
  unfold request
  split
  · simp [Answer.event?]
  · split
    · simp [Answer.event?]
    · split
      · rename_i e rest _
        obtain ⟨hfinished, hevent⟩ := finished_consume e { b with queue := rest }
        rw [hfinished, hevent]
        rfl
      · simp [Answer.event?]

theorem finished_resume (call : CallId) (b : Bridge) :
    (b.resume call).1.finished =
      (b.finished || (b.resume call).2.event?.any Event.isTerminal) := by
  unfold resume
  split
  · rename_i h _
    simp only
    split
    · simp [Answer.event?]
    · split
      · rename_i e _
        obtain ⟨hfinished, hevent⟩ :=
          finished_consume e { b with handed := b.handed.filter (·.call != call) }
        rw [hfinished, hevent]
        rfl
      · simp [Answer.event?]
  · unfold forget
    split
    · split <;> simp [Answer.event?]
    · simp [Answer.event?]

theorem finished_deliver (raw : RawPayload) (b : Bridge) :
    (b.deliver raw).finished = b.finished := by
  cases hopen : b.terminal || b.cancelled with
  | true => rw [deliver_dropped hopen]
  | false =>
    obtain ⟨ht, hc⟩ := Bool.or_eq_false_iff.1 hopen
    obtain ⟨_, _, _, hpush⟩ := pushAll_frame (eventsAfter b.text [raw]) (b.remember raw)
    rw [deliver_eq ht hc, hpush]
    rfl

/-- A call that waits after an event was pushed has waited before. -/
theorem waiter_push {e : Event} {b : Bridge} {w : Waiter} (h : (b.push e).waiter = some w) :
    b.waiter = some w := by
  unfold push at h
  split at h
  · simp at h
  · exact h

theorem waiter_deliver {raw : RawPayload} {b : Bridge} {w : Waiter}
    (h : (b.deliver raw).waiter = some w) : b.waiter = some w := by
  have hpush : ∀ (es : List Event) (b : Bridge), (b.pushAll es).waiter = some w →
      b.waiter = some w := by
    intro es
    induction es with
    | nil => exact fun b hb => hb
    | cons e rest ih => exact fun b hb => waiter_push (ih (b.push e) hb)
  cases hopen : b.terminal || b.cancelled with
  | true => rwa [deliver_dropped hopen] at h
  | false =>
    obtain ⟨ht, hc⟩ := Bool.or_eq_false_iff.1 hopen
    rw [deliver_eq ht hc] at h
    exact hpush _ (b.remember raw) h

/-- A payload takes the same way past an abandoned call as when no call is there. -/
theorem deliver_abandoned {b : Bridge} {call : CallId} (hw : b.waiter = some ⟨call, true⟩)
    (raw : RawPayload) :
    (b.deliver raw).waiter = some ⟨call, true⟩ ∧
      { b.deliver raw with waiter := none } = { b with waiter := none }.deliver raw := by
  have hpush : ∀ (e : Event) (b : Bridge), b.waiter = some ⟨call, true⟩ →
      b.push e = { b with queue := b.queue ++ [e] } ∧
        { b with waiter := none }.push e = { b with waiter := none, queue := b.queue ++ [e] } := by
    intro e b hb
    simp [push, hb]
  unfold deliver
  simp only
  split
  · exact ⟨hw, rfl⟩
  · split
    · obtain ⟨h, h'⟩ := hpush .finished { b with terminal := true } hw
      rw [h, h']
      exact ⟨hw, rfl⟩
    · rename_i message _
      obtain ⟨h, h'⟩ := hpush (.error message) { b with terminal := true } hw
      rw [h, h']
      exact ⟨hw, rfl⟩
    · rename_i text _
      -- a text that adds nothing is not pushed at all
      unfold deltaOf
      split
      · exact ⟨hw, rfl⟩
      · obtain ⟨h, h'⟩ := hpush _ { b with text } hw
        rw [h, h']
        exact ⟨hw, rfl⟩

end Bridge

/-! ## Where the only consumer stands -/

/-- Whether an act is a call that begins or goes on. -/
def Act.isCall : Act → Bool
  | .ask => true
  | .goOn _ => true
  | _ => false

/-- Nobody cancels, and a call begins only while no event is on its way to another. The consumer may
abandon a call at any time. -/
def World.uncancelled (w : World) : Act → Bool
  | .ask => w.bridge.handed.isEmpty
  | .cancel => false
  | _ => true

/-- A call is abandoned only as long as it has not been handed an event. -/
def World.timely (w : World) : Act → Bool
  | .abandon call => !w.bridge.handed.any (·.call == call)
  | a => w.uncancelled a

/-- The flow of events of a consumer that learns of the end when it is given it, and then waits no
more. -/
structure Told (w : World) : Prop extends Flow w where
  finished : w.bridge.finished = w.received.any Event.isTerminal
  waits : ∀ call, w.bridge.waiter = some ⟨call, false⟩ → w.bridge.finished = false

namespace World

variable {w : World}

/-! ### Acts of a patient consumer -/

theorem bridge_ask (w : World) : w.ask.bridge = (w.bridge.request w.begun).1 := by
  unfold ask
  split
  rename_i b a hreq
  rw [hreq]
  split <;> rfl

theorem received_ask (w : World) :
    w.ask.received = w.received ++ (w.bridge.request w.begun).2.event?.toList := by
  unfold ask
  split
  rename_i b a hreq
  rw [hreq]
  split
  · rename_i ha
    simp [received, ha, Bridge.Answer.event?]
  · cases h : a.event? <;> simp [received, h]

theorem received_goOn (call : CallId) (w : World) :
    (w.goOn call).received = w.received ++ (w.bridge.resume call).2.event?.toList := by
  cases h : (w.bridge.resume call).2.event? <;> simp [goOn, received, h]

theorem told_start : Told {} := ⟨flow_start, rfl, by simp⟩

theorem told_deliver (h : Told w) (raw : RawPayload) : Told (w.deliver raw) := by
  refine ⟨flow_deliver h.toFlow raw, ?_, ?_⟩
  · exact (Bridge.finished_deliver raw w.bridge).trans h.finished
  · intro call hwaits
    exact (Bridge.finished_deliver raw w.bridge).trans (h.waits call (Bridge.waiter_deliver hwaits))

theorem told_ask (h : Told w) (hidle : w.pending = []) : Told w.ask := by
  refine ⟨flow_ask h.toFlow hidle, ?_, ?_⟩
  · rw [bridge_ask, received_ask, Bridge.finished_request, h.finished, List.any_append]
    cases (w.bridge.request w.begun).2.event? <;> simp
  · rw [bridge_ask]
    intro call hwaits
    have hw : w.bridge.waiter = none := by
      cases h.stand with
      | idle hp hw hh => exact hw
      | waiting other hp hw hh hq => simp [hidle] at hp
      | served other e hp hw hh => simp [hidle] at hp
    -- a call that begins waits only while the end has not been given
    rcases Bridge.request_cases hw w.begun with ⟨-, hreq⟩ | ⟨hopen, -, hreq⟩ |
      ⟨-, e, rest, finished, a, -, hreq, -, -⟩
    · simp [hreq, hw] at hwaits
    · rw [hreq]
      exact hopen
    · simp [hreq, hw] at hwaits

theorem told_goOn (h : Told w) {call : CallId} (hcan : w.can (.goOn call) = true) :
    Told (w.goOn call) := by
  have hflow : Flow (w.goOn call) := flow_goOn h.toFlow hcan
  refine ⟨hflow, ?_, ?_⟩
  · rw [received_goOn, List.any_append, ← h.finished]
    show (w.bridge.resume call).1.finished = _
    rw [Bridge.finished_resume]
    cases (w.bridge.resume call).2.event? <;> simp
  · intro other hwaits
    -- the call that went on was the only one
    have hempty : (w.goOn call).pending = [] := by
      simp only [can, Bool.and_eq_true, List.contains_iff_mem] at hcan
      cases h.stand with
      | idle hp hw hh => simp [hp] at hcan
      | waiting only hp hw hh hq => simp_all [goOn]
      | served only e hp hw hh => simp_all [goOn]
    cases hflow.stand with
    | idle hp hw hh => simp [hw] at hwaits
    | waiting only hp hw hh hq => simp [hempty] at hp
    | served only e hp hw hh => simp [hempty] at hp

/-- The flow is one of the bridge, the payloads, the calls and what they were given. -/
theorem told_congr {v : World} (h : Told w) (hb : v.bridge = w.bridge)
    (hd : v.delivered = w.delivered) (hp : v.pending = w.pending)
    (hr : v.received = w.received) : Told v := by
  refine ⟨⟨?_, ?_, ?_, ?_, ?_⟩, ?_, ?_⟩
  · rw [hb]
    exact h.live
  · rw [hb, hd]
    exact h.text
  · rw [hb, hd]
    exact h.terminal
  · rw [hb, hd, hr]
    exact h.order
  · rw [hb, hp]
    exact h.stand
  · rw [hb, hr]
    exact h.finished
  · rw [hb]
    exact h.waits

/-- A call that begins while another is there is refused. -/
theorem ask_busy {waiter : Waiter} (hw : w.bridge.waiter = some waiter) :
    w.ask = { w with begun := w.begun + 1, answers := w.answers ++ [(w.begun, .busy)] } := by
  simp [ask, Bridge.request, hw]

theorem received_snoc_none {call : CallId} {a : Bridge.Answer} (h : a.event? = none) :
    ({ w with answers := w.answers ++ [(call, a)] } : World).received = w.received := by
  simp [received, h]

/-! ### Abandoned calls -/

/-- The world once its call has gone. -/
def left (w : World) : World := { w with pending := [], bridge := { w.bridge with waiter := none } }

end World

/-- The flow of events of a consumer that may have abandoned its call: either no call is abandoned,
or one was abandoned while it waited, and the world is as good as without it. -/
inductive Kept (w : World) : Prop where
  | present (h : Told w)
  | leaving (call : CallId) (hp : w.pending = [call]) (hw : w.bridge.waiter = some ⟨call, true⟩)
      (h : Told w.left)

namespace World

variable {w : World}

/-- Without its call the world has nothing on its way. -/
theorem handed_of_told_left (h : Told w.left) : w.bridge.handed = [] := by
  cases h.stand with
  | idle hp hw hh => exact hh
  | waiting call hp hw hh hq => exact hh
  | served call e hp hw hh => simp [left] at hp

theorem kept_deliver (h : Kept w) (raw : RawPayload) : Kept (w.deliver raw) := by
  cases h with
  | present h => exact .present (told_deliver h raw)
  | leaving call hp hw h =>
    obtain ⟨hw', hleft⟩ := Bridge.deliver_abandoned hw raw
    refine .leaving call hp hw' ?_
    exact told_congr (told_deliver h raw) hleft rfl rfl rfl

theorem kept_ask (h : Kept w) (hfree : w.bridge.handed = []) : Kept w.ask := by
  cases h with
  | present h =>
    cases h.stand with
    | idle hp hw hh => exact .present (told_ask h hp)
    | waiting call hp hw hh hq =>
      rw [ask_busy hw]
      exact .present (told_congr h rfl rfl rfl (received_snoc_none rfl))
    | served call e hp hw hh => simp [hh] at hfree
  | leaving call hp hw h =>
    rw [ask_busy hw]
    exact .leaving call hp hw (told_congr h rfl rfl rfl (received_snoc_none (w := w) rfl))

theorem kept_goOn (h : Kept w) {call : CallId} (hcan : w.can (.goOn call) = true) :
    Kept (w.goOn call) := by
  cases h with
  | present h => exact .present (told_goOn h hcan)
  | leaving other hp hw h =>
    obtain rfl : call = other := by
      simp only [can, Bool.and_eq_true, List.contains_iff_mem] at hcan
      simpa [hp] using hcan.1
    have hres : w.bridge.resume call = ({ w.bridge with waiter := none }, .abandoned) := by
      simp [Bridge.resume, Bridge.forget, handed_of_told_left h, hw]
    have hgone : w.goOn call = { w.left with answers := w.answers ++ [(call, .abandoned)] } := by
      simp [goOn, hres, hp, left]
    rw [hgone]
    exact .present (told_congr h rfl rfl rfl (received_snoc_none (w := w.left) rfl))

/-- A call that has not been handed an event is abandoned while it waits, or it is abandoned
already. -/
theorem kept_abandon (h : Kept w) {call : CallId} (hcan : w.can (.abandon call) = true)
    (hlate : w.bridge.handed.any (·.call == call) = false) :
    Kept { w with bridge := w.bridge.abandon call } := by
  have hopen : call ∈ w.pending := by simpa [can] using hcan
  cases h with
  | present h =>
    cases h.stand with
    | idle hp hw hh => simp [hp] at hopen
    | waiting other hp hw hh hq =>
      obtain rfl : call = other := by simpa [hp] using hopen
      have hgiven : w.bridge.abandon call = { w.bridge with waiter := some ⟨call, true⟩ } := by
        simp [Bridge.abandon, Bridge.isWaiting, hw]
      rw [hgiven]
      refine .leaving call hp rfl ⟨⟨h.live, h.text, h.terminal, h.order, .idle rfl rfl hh⟩, ?_, ?_⟩
      · exact h.finished
      · intro other hwaits
        simp [left] at hwaits
    | served other e hp hw hh =>
      obtain rfl : call = other := by simpa [hp] using hopen
      simp [hh] at hlate
  | leaving other hp hw h =>
    have hsame : w.bridge.abandon call = w.bridge := by
      have hwaits : w.bridge.isWaiting call = false := by simp [Bridge.isWaiting, hw]
      have hnone : (w.bridge.handed.map fun h =>
          if h.call = call then { h with abandoned := true } else h) = w.bridge.handed := by
        rw [handed_of_told_left h]
        rfl
      rw [Bridge.abandon, hwaits, hnone]
      rfl
    rw [hsame]
    exact .leaving other hp hw h

/-- Every act of a consumer that abandons a call only before it has been handed an event, and of the
producer, keeps the flow. -/
theorem kept_next (w : World) (a : Act) (hcan : w.can a = true) (hmay : w.timely a = true)
    (h : Kept w) : Kept (w.next a) := by
  cases a with
  | push raw => exact kept_deliver h raw
  | post raw =>
    cases h with
    | present h => exact .present (told_congr h rfl rfl rfl rfl)
    | leaving call hp hw h => exact .leaving call hp hw (told_congr h rfl rfl rfl rfl)
  | takeIn =>
    cases hposted : w.posted with
    | nil => simp [can, hposted] at hcan
    | cons raw rest =>
      have hrest : Kept { w with posted := rest } := by
        cases h with
        | present h => exact .present (told_congr h rfl rfl rfl rfl)
        | leaving call hp hw h => exact .leaving call hp hw (told_congr h rfl rfl rfl rfl)
      simpa only [next, hposted] using kept_deliver hrest raw
  | ask => exact kept_ask h (by simpa [timely, uncancelled] using hmay)
  | goOn call => exact kept_goOn h hcan
  | abandon call => exact kept_abandon h hcan (by simpa [timely] using hmay)
  | cancel => simp [timely, uncancelled] at hmay

/-! ## Asking for the rest -/

/-- While an event is on its way to a call or queued, the end has not been given. -/
theorem not_finished_of_left (h : Told w) (hleft : w.bridge.inFlight ++ w.bridge.queue ≠ []) :
    w.bridge.finished = false := by
  cases hend : w.bridge.finished with
  | false => rfl
  | true =>
    rw [h.finished, List.any_eq_true] at hend
    obtain ⟨last, hlast, hterminal⟩ := hend
    obtain ⟨before, after, hreceived⟩ := List.append_of_mem hlast
    -- nothing may come after the end
    have horder := h.order
    rw [hreceived, List.append_assoc, List.cons_append] at horder
    have hnone := eventsAfter_terminal_last horder.symm hterminal
    exact absurd (List.append_eq_nil_iff.1 hnone).2 hleft

/-- A consumer without a call is given all that is queued when it asks often enough. -/
theorem ask_for_rest (h : Told w) (hidle : w.pending = []) :
    ∃ later w', (∀ a ∈ later, a.isCall = true) ∧ run timely later w = some w' ∧
      w'.received = eventsAfter [] w.delivered := by
  obtain ⟨hw, hh⟩ : w.bridge.waiter = none ∧ w.bridge.handed = [] := by
    cases h.stand with
    | idle hp hw hh => exact ⟨hw, hh⟩
    | waiting call hp hw hh hq => simp [hidle] at hp
    | served call e hp hw hh => simp [hidle] at hp
  generalize hqueue : w.bridge.queue = queue
  induction queue generalizing w with
  | nil =>
    refine ⟨[], w, by simp, rfl, ?_⟩
    simpa [Bridge.inFlight, hh, hqueue] using h.order
  | cons e rest ih =>
    have hopen := not_finished_of_left h (by simp [hqueue])
    -- the first of them is given at once
    rcases Bridge.request_cases hw w.begun with ⟨hend, -⟩ | ⟨-, hempty, -⟩ |
      ⟨-, head, tail, finished, a, hq, hreq, -, hne⟩
    · simp [hopen] at hend
    · simp [hqueue] at hempty
    · obtain ⟨rfl, rfl⟩ := List.cons.inj (hqueue.symm.trans hq)
      have hask : w.ask = { w with
          bridge := { w.bridge with queue := rest, finished }
          begun := w.begun + 1
          answers := w.answers ++ [(w.begun, a)] } := by
        simp [ask, hreq, hne]
      have hnext : Told w.ask := told_ask h hidle
      obtain ⟨later, w', hcalls, hrun, hall⟩ :=
        ih hnext (by rw [hask]; exact hidle) (by rw [hask]; exact hw) (by rw [hask]; exact hh)
          (by rw [hask])
      refine ⟨.ask :: later, w', ?_, ?_, ?_⟩
      · exact List.forall_mem_cons.2 ⟨rfl, hcalls⟩
      · simpa [run, can, timely, uncancelled, hh, next] using hrun
      · rw [hall, (delivered_ask w).1]

/-- Whatever the state of its call, the consumer is given all events when it goes on and asks often
enough. -/
theorem ask_for_all (h : Kept w) :
    ∃ later w', (∀ a ∈ later, a.isCall = true) ∧ run timely later w = some w' ∧
      w'.received = eventsAfter [] w.delivered := by
  -- a call that can go on does so first
  have hfirst : ∀ call, w.pending = [call] → w.can (.goOn call) = true →
      Told (w.goOn call) → ∃ later w', (∀ a ∈ later, a.isCall = true) ∧
        run timely later w = some w' ∧ w'.received = eventsAfter [] w.delivered := by
    intro call hp hcan htold
    have hidle : (w.goOn call).pending = [] := by simp [goOn, hp]
    obtain ⟨later, w', hcalls, hrun, hall⟩ := ask_for_rest htold hidle
    refine ⟨.goOn call :: later, w', List.forall_mem_cons.2 ⟨rfl, hcalls⟩, ?_, hall⟩
    simpa [run, hcan, timely, uncancelled, next] using hrun
  cases h with
  | present h =>
    cases h.stand with
    | idle hp hw hh => exact ask_for_rest h hp
    | waiting call hp hw hh hq =>
      -- a call waits only when everything has been given
      refine ⟨[], w, by simp, rfl, ?_⟩
      simpa [Bridge.inFlight, hh, hq] using h.order
    | served call e hp hw hh =>
      have hcan : w.can (.goOn call) = true := by simp [can, hp, Bridge.isReady, hh]
      exact hfirst call hp hcan (told_goOn h hcan)
  | leaving call hp hw h =>
    have hcan : w.can (.goOn call) = true := by simp [can, hp, Bridge.isReady, hw]
    cases kept_goOn (.leaving call hp hw h) hcan with
    | present htold => exact hfirst call hp hcan htold
    | leaving other hp' hw' h' => simp [goOn, hp] at hp'

/-- Once the end has come in, a consumer with nothing left to be given has been given the end. -/
theorem finished_of_all_given (h : Told w) (hend : w.delivered.any endsStream = true)
    (hh : w.bridge.handed = []) (hq : w.bridge.queue = []) : w.bridge.finished = true := by
  have hall : w.received = eventsAfter [] w.delivered := by
    simpa [Bridge.inFlight, hh, hq] using h.order
  rw [h.finished, hall, any_isTerminal_eventsAfter, hend]

/-- Once the end has come in, no call waits, and none that begins while no event is on its way to
another does. -/
theorem no_wait_after_end (h : Kept w) (hend : w.delivered.any endsStream = true) :
    (∀ call, w.bridge.isWaiting call = false) ∧
      (w.bridge.handed = [] → ∀ call, (w.bridge.request call).2 ≠ .waiting) := by
  cases h with
  | present h =>
    cases h.stand with
    | idle hp hw hh =>
      refine ⟨fun call => by simp [Bridge.isWaiting, hw], fun _ call => ?_⟩
      rcases Bridge.request_cases hw call with ⟨-, hreq⟩ | ⟨hopen, hq, -⟩ |
        ⟨-, e, rest, finished, a, -, hreq, -, hne⟩
      · simp [hreq]
      · rw [finished_of_all_given h hend hh hq] at hopen
        contradiction
      · rw [hreq]
        exact hne
    | waiting call hp hw hh hq =>
      have hopen := h.waits call hw
      rw [finished_of_all_given h hend hh hq] at hopen
      contradiction
    | served call e hp hw hh =>
      refine ⟨fun call => by simp [Bridge.isWaiting, hw], fun hfree => ?_⟩
      simp [hh] at hfree
  | leaving call hp hw h =>
    refine ⟨fun other => by simp [Bridge.isWaiting, hw], fun _ other => ?_⟩
    simp [Bridge.request, hw]

/-! ## Every run -/

/-- In every run of one consumer that does not cancel, and abandons a call only before it has been
handed an event: what it has been given, what is on its way to its call, and what is queued are
together the events of the payloads taken in, in order and once each. Further calls alone give it all
of them. Once a payload that ends the stream has been taken in, the last of these events is the end,
and no call waits any more. Payloads are taken in in the producer's order when the producer keeps to
one side of the loop. -/
theorem kept_when_abandoned {acts : List Act} {w : World} (h : run timely acts {} = some w) :
    w.received ++ w.bridge.inFlight ++ w.bridge.queue = eventsAfter [] w.delivered ∧
      (∃ later w', (∀ a ∈ later, a.isCall = true) ∧ run timely later w = some w' ∧
        w'.received = eventsAfter [] w.delivered) ∧
      (w.delivered.any endsStream = true →
        (∃ before e, eventsAfter [] w.delivered = before ++ [e] ∧ e.isTerminal = true) ∧
        (∀ call, w.bridge.isWaiting call = false) ∧
        (w.timely .ask = true → ∀ call, (w.bridge.request call).2 ≠ .waiting)) ∧
      ((∀ a ∈ acts, a.isPush = false) ∨ (∀ a ∈ acts, a.isPost = false) →
        w.delivered ++ w.posted = acts.filterMap Act.pushed?) := by
  have hkept : Kept w := run_invariant kept_next h (.present told_start)
  refine ⟨?_, ask_for_all hkept, ?_, ?_⟩
  · rw [List.append_assoc]
    cases hkept with
    | present h => exact h.order
    | leaving call hp hw h => exact h.order
  · intro hend
    obtain ⟨hnone, hasks⟩ := no_wait_after_end hkept hend
    refine ⟨?_, hnone, ?_⟩
    · -- the end is among the events, and nothing stands behind it
      rw [← any_isTerminal_eventsAfter [], List.any_eq_true] at hend
      obtain ⟨e, he, hterminal⟩ := hend
      obtain ⟨before, after, heq⟩ := List.append_of_mem he
      obtain rfl := eventsAfter_terminal_last heq hterminal
      exact ⟨before, e, heq, hterminal⟩
    · intro hfree
      exact hasks (by simpa [timely, uncancelled] using hfree)
  · intro hside
    have hpayloads := payloads_run h (hside.imp_right fun hpost => ⟨hpost, rfl⟩)
    simpa using hpayloads

/-- A call is abandoned while it waits. A text comes in before it goes on, a call that begins too
early is refused, and the end comes in before the consumer asks again. -/
def timelyRun : List Act :=
  [.ask, .abandon 0, .push (some "a"), .ask, .goOn 0, .push none, .ask, .ask]

theorem kept_when_abandoned_timelyRun :
    ∃ w, run timely timelyRun {} = some w ∧ w.received = [.textDelta "a", .finished] ∧
      w.answers.lookup 0 = some .abandoned ∧
      w.received ++ w.bridge.inFlight ++ w.bridge.queue = eventsAfter [] w.delivered := by
  refine ⟨_, rfl, rfl, rfl, ?_⟩
  exact (@kept_when_abandoned timelyRun _ rfl).1

/-! ## Calls that are abandoned late -/

/-- A call that is abandoned once an event is on its way to it goes on without the event, which is
lost; everything else is kept. -/
theorem lost_when_abandoned_late (h : Flow w) {call : CallId} {e : Event}
    (hh : w.bridge.handed = [⟨call, some e, false⟩]) :
    let w' := (w.next (.abandon call)).next (.goOn call)
    eventsAfter [] w'.delivered = w.received ++ e :: w.bridge.queue ∧
      w'.received ++ w'.bridge.inFlight ++ w'.bridge.queue = w.received ++ w.bridge.queue := by
  have hw : w.bridge.waiter = none := by
    cases h.stand with
    | idle hp' hw hh' => exact hw
    | waiting other hp' hw hh' hq => simp [hh] at hh'
    | served other e' hp' hw hh' => exact hw
  have habandon : w.bridge.abandon call = { w.bridge with handed := [⟨call, some e, true⟩] } := by
    simp [Bridge.abandon, Bridge.isWaiting, hw, hh]
  have horder := h.order
  constructor
  · simpa [next, goOn, habandon, Bridge.inFlight, hh] using horder.symm
  · simp [next, goOn, habandon, Bridge.resume, received, Bridge.inFlight, Bridge.Answer.event?]

/-- A call waits, the stream ends, and the call is abandoned before it goes on. -/
def endedWhileLeaving : List Act := [.ask, .push none, .abandon 0, .goOn 0, .ask]

/-- Here the consumer is never told that the stream has ended: the end has come in, it is nowhere,
the next call waits, and no further payload changes that. -/
theorem end_lost_when_abandoned_late :
    ∃ w, run uncancelled endedWhileLeaving {} = some w ∧ eventsAfter [] w.delivered = [.finished] ∧
      w.received ++ w.bridge.inFlight ++ w.bridge.queue = [] ∧
      w.bridge.isWaiting 1 = true ∧ ∀ raw, w.bridge.deliver raw = w.bridge :=
  ⟨_, rfl, rfl, rfl, rfl, fun raw => Bridge.deliver_dropped rfl raw⟩

end World

end Dialogue.Stream
