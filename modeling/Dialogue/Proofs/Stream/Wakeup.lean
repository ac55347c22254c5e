import Dialogue.Proofs.Stream.Abandonment

/-!
# Dialogue.Proofs.Stream.Wakeup — no call waits in vain

One consumer asks only when its last call has returned, and the stream may be cancelled at any time
(`single`). A call of it may wait for two reasons only: nothing is queued and the stream is open. As
soon as there is something to tell, the call can go on.

* Until the stream is cancelled the flow of events is `Told`, so a waiting call has an empty queue
  before it and the end has not come in.
* After a cancellation nothing waits, and a call that has not returned has been handed an answer
  (`Over`).
* `waits_only_while_open` — the statement for every run.
-/

namespace Dialogue.Stream

/-- One consumer asks only when its last call has returned, and abandons none. The stream may be
cancelled at any time. -/
def World.single (w : World) : Act → Bool
  | .ask => w.pending.isEmpty
  | .abandon _ => false
  | _ => true

/-- A stream after its cancellation: nothing is queued, no call waits, and every call that has not
returned has its answer. -/
structure Over (w : World) : Prop where
  cancelled : w.bridge.cancelled = true
  finished : w.bridge.finished = true
  queue : w.bridge.queue = []
  waiter : w.bridge.waiter = none
  answered : ∀ call ∈ w.pending, w.bridge.handed.any (·.call == call) = true

/-- A stream that is open, ending or cancelled, with a consumer that has been told all it can be. -/
inductive Watched (w : World) : Prop where
  | live (h : Told w)
  | ended (h : Over w)

namespace Bridge

/-! ## What touches the mark of a cancellation -/

theorem cancelled_deliver (raw : RawPayload) (b : Bridge) :
    (b.deliver raw).cancelled = b.cancelled := by
  cases hopen : b.terminal || b.cancelled with
  | true => rw [deliver_dropped hopen]
  | false =>
    obtain ⟨hterminal, hcancelled⟩ := Bool.or_eq_false_iff.1 hopen
    rw [deliver_eq hterminal hcancelled, cancelled_pushAll, cancelled_remember]

/-- Handing out an event touches nothing but the mark of the end. -/
theorem consume_frame (e : Event) (b : Bridge) :
    ∃ finished, (b.consume e).1 = { b with finished } := by
  obtain ⟨finished, a, hconsume, _⟩ := consume_cases e b
  exact ⟨finished, by rw [hconsume]⟩

theorem cancelled_request (call : CallId) (b : Bridge) :
    (b.request call).1.cancelled = b.cancelled := by
  unfold request
  split
  · rfl
  · split
    · rfl
    · split
      · rename_i e rest _
        obtain ⟨finished, hconsume⟩ := consume_frame e { b with queue := rest }
        rw [hconsume]
      · rfl

/-- A call that goes on takes its answer away, or its wait. -/
theorem resume_frame (call : CallId) (b : Bridge) :
    (∃ finished, (b.resume call).1 =
        { b with handed := b.handed.filter (·.call != call), finished }) ∨
      (b.resume call).1 = b.forget call := by
  unfold resume
  split
  · left
    simp only
    split
    · exact ⟨b.finished, rfl⟩
    · split
      · rename_i e _
        exact consume_frame e { b with handed := b.handed.filter (·.call != call) }
      · exact ⟨b.finished, rfl⟩
  · right
    rfl

theorem cancelled_resume (call : CallId) (b : Bridge) :
    (b.resume call).1.cancelled = b.cancelled := by
  rcases resume_frame call b with ⟨finished, hresume⟩ | hresume
  · rw [hresume]
  · rw [hresume]
    unfold forget
    split
    · split <;> rfl
    · rfl

theorem cancelled_abandon (call : CallId) (b : Bridge) :
    (b.abandon call).cancelled = b.cancelled := by
  unfold abandon
  split <;> rfl

theorem cancelled_cancel (b : Bridge) : b.cancel.cancelled = true := by
  unfold cancel
  split
  · assumption
  · rfl

end Bridge

namespace World

variable {w : World}

theorem cancelled_next (w : World) (a : Act) :
    (w.next a).bridge.cancelled = (w.bridge.cancelled || a == .cancel) := by
  cases a with
  | push raw => simp [next, deliver, Bridge.cancelled_deliver]
  | post raw => simp [next]
  | takeIn =>
    cases hposted : w.posted with
    | nil => simp [next, hposted]
    | cons raw rest => simp [next, hposted, deliver, Bridge.cancelled_deliver]
  | ask => simp [next, bridge_ask, Bridge.cancelled_request]
  | goOn call => simp [next, goOn, Bridge.cancelled_resume]
  | abandon call => simp [next, Bridge.cancelled_abandon]
  | cancel => simp [next, Bridge.cancelled_cancel]

/-- The mark says whether somebody has cancelled. -/
theorem cancelled_run {may : World → Act → Bool} {acts : List Act} {w' : World}
    (h : run may acts w = some w') :
    w'.bridge.cancelled = (w.bridge.cancelled || acts.contains .cancel) := by
  induction acts generalizing w with
  | nil =>
    simp only [run, Option.some.injEq] at h
    subst h
    simp
  | cons a rest ih =>
    simp only [run, Option.ite_none_right_eq_some] at h
    have hrest := ih h.2
    rw [hrest, cancelled_next, List.contains_cons, Bool.or_assoc, Bool.beq_comm]

/-! ## After a cancellation -/

/-- A cancellation answers the call that waits; one that has been handed an event keeps it. -/
theorem over_of_cancel (h : Told w) : Over (w.next .cancel) := by
  have hlive := h.live
  refine ⟨?_, ?_, ?_, ?_, ?_⟩ <;> simp only [next, Bridge.cancel, hlive, Bool.false_eq_true, if_false]
  intro call hcall
  cases h.stand with
  | idle hp hw hh =>
    rw [hp] at hcall
    contradiction
  | waiting other hp hw hh hq =>
    rw [hp, List.mem_singleton] at hcall
    simp [hw, hh, hcall]
  | served other e hp hw hh =>
    rw [hp, List.mem_singleton] at hcall
    simp [hw, hh, hcall]

/-- After a cancellation every act of a single consumer leaves it at that. -/
theorem over_next (h : Over w) {a : Act} (hcan : w.can a = true) (hmay : w.single a = true) :
    Over (w.next a) := by
  have hdrop : ∀ raw, w.bridge.deliver raw = w.bridge := by
    intro raw
    exact Bridge.deliver_dropped (by simp [h.cancelled]) raw
  cases a with
  | push raw =>
    simp only [next, deliver, hdrop]
    exact ⟨h.cancelled, h.finished, h.queue, h.waiter, h.answered⟩
  | post raw => exact ⟨h.cancelled, h.finished, h.queue, h.waiter, h.answered⟩
  | takeIn =>
    cases hposted : w.posted with
    | nil => simp [can, hposted] at hcan
    | cons raw rest =>
      simp only [next, hposted, deliver, hdrop]
      exact ⟨h.cancelled, h.finished, h.queue, h.waiter, h.answered⟩
  | ask =>
    -- a call that begins finds the stream over
    have hrequest : w.bridge.request w.begun = (w.bridge, .ended) := by
      simp [Bridge.request, h.waiter, h.finished]
    simp only [next, ask, hrequest, reduceCtorEq, if_false]
    exact ⟨h.cancelled, h.finished, h.queue, h.waiter, h.answered⟩
  | goOn call =>
    have hother : ∀ other ∈ (w.goOn call).pending, other ∈ w.pending ∧ other ≠ call := by
      intro other hmem
      simpa [goOn] using hmem
    have hhanded : ∀ other ∈ (w.goOn call).pending,
        (w.bridge.handed.filter (·.call != call)).any (·.call == other) = true := by
      intro other hmem
      obtain ⟨hpending, hne⟩ := hother other hmem
      obtain ⟨answer, hanswer, hcall⟩ := List.any_eq_true.1 (h.answered other hpending)
      rw [beq_iff_eq] at hcall
      refine List.any_eq_true.2 ⟨answer, List.mem_filter.2 ⟨hanswer, ?_⟩, ?_⟩
      · simpa [hcall] using hne
      · simpa using hcall
    have hfinished : (w.goOn call).bridge.finished = true := by
      show (w.bridge.resume call).1.finished = true
      rw [Bridge.finished_resume, h.finished, Bool.true_or]
    have hcancelled : (w.goOn call).bridge.cancelled = true :=
      (Bridge.cancelled_resume call w.bridge).trans h.cancelled
    show Over (w.goOn call)
    rcases Bridge.resume_frame call w.bridge with ⟨finished, hresume⟩ | hresume
    · have hbridge : (w.goOn call).bridge =
          { w.bridge with handed := w.bridge.handed.filter (·.call != call), finished } := hresume
      rw [hbridge] at hfinished
      refine ⟨hcancelled, ?_, ?_, ?_, ?_⟩ <;> rw [hbridge]
      · exact hfinished
      · exact h.queue
      · exact h.waiter
      · exact hhanded
    · -- no call waits, so there is no wait to forget
      have hbridge : (w.goOn call).bridge = w.bridge := by
        show (w.bridge.resume call).1 = w.bridge
        rw [hresume, Bridge.forget, h.waiter]
      refine ⟨hcancelled, hfinished, ?_, ?_, ?_⟩ <;> rw [hbridge]
      · exact h.queue
      · exact h.waiter
      · intro other hmem
        exact h.answered other (hother other hmem).1
  | abandon call => simp [single] at hmay
  | cancel =>
    have hsame : w.bridge.cancel = w.bridge := by simp [Bridge.cancel, h.cancelled]
    simp only [next, hsame]
    exact ⟨h.cancelled, h.finished, h.queue, h.waiter, h.answered⟩

/-! ## One act -/

/-- Every act of a single consumer, of its producer, or of whoever cancels keeps the watch. -/
theorem watched_next (w : World) (a : Act) (hcan : w.can a = true) (hmay : w.single a = true)
    (h : Watched w) : Watched (w.next a) := by
  cases h with
  | ended h => exact .ended (over_next h hcan hmay)
  | live h =>
    cases a with
    | push raw => exact .live (told_deliver h raw)
    | post raw => exact .live (told_congr h rfl rfl rfl rfl)
    | takeIn =>
      cases hposted : w.posted with
      | nil => simp [can, hposted] at hcan
      | cons raw rest =>
        have hrest : Told { w with posted := rest } := told_congr h rfl rfl rfl rfl
        have hnext : Told ({ w with posted := rest }.deliver raw) := told_deliver hrest raw
        simp only [next, hposted]
        exact .live hnext
    | ask => exact .live (told_ask h (by simpa [single] using hmay))
    | goOn call => exact .live (told_goOn h hcan)
    | abandon call => simp [single] at hmay
    | cancel => exact .ended (over_of_cancel h)

/-- A call waits only while nothing is queued, the end has not come in, and nobody has cancelled. -/
theorem open_of_waiting (h : Watched w) {waiter : Waiter} (hw : w.bridge.waiter = some waiter) :
    w.bridge.queue = [] ∧ w.delivered.any endsStream = false ∧ w.bridge.cancelled = false := by
  cases h with
  | ended h =>
    rw [h.waiter] at hw
    contradiction
  | live h =>
    cases h.stand with
    | idle hp hnone hh =>
      rw [hnone] at hw
      contradiction
    | served call e hp hnone hh =>
      rw [hnone] at hw
      contradiction
    | waiting call hp hsome hh hq =>
      refine ⟨hq, ?_, h.live⟩
      -- with an empty queue the end would have been given to the consumer, who waits no more then
      cases hend : w.delivered.any endsStream with
      | false => rfl
      | true =>
        have hopen := h.waits call hsome
        rw [finished_of_all_given h hend hh hq] at hopen
        contradiction

/-- A call that has not returned waits, or it can go on. -/
theorem waiting_or_ready (h : Watched w) {call : CallId} (hcall : call ∈ w.pending) :
    w.bridge.waiter = some ⟨call, false⟩ ∨ w.can (.goOn call) = true := by
  cases h with
  | ended h =>
    right
    simp [can, Bridge.isReady, hcall, h.answered call hcall]
  | live h =>
    cases h.stand with
    | idle hp hw hh =>
      rw [hp] at hcall
      contradiction
    | waiting other hp hw hh hq =>
      rw [hp, List.mem_singleton] at hcall
      left
      rw [hcall, hw]
    | served other e hp hw hh =>
      rw [hp, List.mem_singleton] at hcall
      right
      simp [can, Bridge.isReady, hp, hh, hcall]

/-! ## Every run -/

/-- In every run of one consumer that abandons no call, whenever the stream is cancelled: a call
waits only while nothing is queued, no payload that ends the stream has been taken in, and nobody has
cancelled. So a call that has not returned can go on as soon as an event is queued or the stream has
ended. -/
theorem waits_only_while_open {acts : List Act} {w : World} (h : run single acts {} = some w) :
    (∀ waiter, w.bridge.waiter = some waiter →
      w.bridge.queue = [] ∧ w.delivered.any endsStream = false ∧ .cancel ∉ acts) ∧
    ∀ call ∈ w.pending,
      w.bridge.queue ≠ [] ∨ w.delivered.any endsStream = true ∨ .cancel ∈ acts →
        w.can (.goOn call) = true := by
  have hwatched : Watched w := run_invariant watched_next h (.live told_start)
  have hcancelled : w.bridge.cancelled = acts.contains .cancel := by
    simpa using cancelled_run h
  have hwaits : ∀ waiter, w.bridge.waiter = some waiter →
      w.bridge.queue = [] ∧ w.delivered.any endsStream = false ∧ .cancel ∉ acts := by
    intro waiter hw
    obtain ⟨hqueue, hend, hnot⟩ := open_of_waiting hwatched hw
    rw [hcancelled] at hnot
    exact ⟨hqueue, hend, by simpa using hnot⟩
  refine ⟨hwaits, ?_⟩
  intro call hcall hsome
  rcases waiting_or_ready hwatched hcall with hw | hready
  · obtain ⟨hqueue, hend, hnot⟩ := hwaits _ hw
    rcases hsome with hsome | hsome | hsome
    · exact absurd hqueue hsome
    · rw [hend] at hsome
      contradiction
    · exact absurd hsome hnot
  · exact hready

/-- A call is given a text, the next one waits, and the stream is cancelled while a payload is on its
way to the bridge. -/
def cancelledRun : List Act :=
  [.push (some "a"), .ask, .ask, .post (some "ab"), .cancel, .takeIn]

theorem waits_only_while_open_cancelledRun :
    ∃ w, run single cancelledRun {} = some w ∧ w.pending = [1] ∧ w.bridge.waiter = none ∧
      w.can (.goOn 1) = true := by
  refine ⟨_, rfl, rfl, rfl, ?_⟩
  exact (@waits_only_while_open cancelledRun _ rfl).2 1 (by decide) (.inr (.inr (by decide)))

end World

end Dialogue.Stream
