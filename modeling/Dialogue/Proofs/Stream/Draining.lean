import Dialogue.Proofs.Stream.Abandonment

/-!
# Dialogue.Proofs.Stream.Draining — a consumer that asks on is told the end, or waits

A consumer that goes on and asks for one event after the other is given all events of the payloads
that were taken in. What it comes to then lies in the payloads alone.

* If one of them ends the stream, the consumer is told the end and does not wait: `Drains` and
  `drains_of_ended`.
* If none of them does, a call of the consumer waits, and nothing that happens on the consumer's side
  answers it: `waits_without_end`.

An error is handed out as a failure only, never as an event that a call returns: `raised_of_drains`.
-/

namespace Dialogue.Stream

/-- Whether an answer returns an error as if it were an event. -/
def Bridge.Answer.returnsError : Bridge.Answer → Bool
  | .event (.error _) => true
  | _ => false

namespace Bridge

theorem returnsError_consume (e : Event) (b : Bridge) : (b.consume e).2.returnsError = false := by
  cases e <;> rfl

theorem returnsError_request (call : CallId) (b : Bridge) :
    (b.request call).2.returnsError = false := by
  unfold request
  split
  · rfl
  · split
    · rfl
    · split
      · exact returnsError_consume _ _
      · rfl

theorem returnsError_resume (call : CallId) (b : Bridge) :
    (b.resume call).2.returnsError = false := by
  unfold resume
  split
  · dsimp only
    split
    · rfl
    · split
      · exact returnsError_consume _ _
      · rfl
  · rfl

end Bridge

namespace World

variable {w : World}

/-! ## With an end -/

/-- A consumer is told these events and waits for none of them: what it has been given, what is on
its way to its call and what is queued are these events, the last of them is the end, and calls alone
give it all of them. -/
structure Drains (w : World) (events : List Event) : Prop where
  told : w.received ++ w.bridge.inFlight ++ w.bridge.queue = events
  ending : ∃ before e, events = before ++ [e] ∧ e.isTerminal = true
  awake : ∀ call, w.bridge.isWaiting call = false
  answered : w.timely .ask = true → ∀ call, (w.bridge.request call).2 ≠ .waiting
  rest : ∃ later w', (∀ a ∈ later, a.isCall = true) ∧ run timely later w = some w' ∧
    w'.received = events

theorem order_of_kept (h : Kept w) :
    w.received ++ w.bridge.inFlight ++ w.bridge.queue = eventsAfter [] w.delivered := by
  rw [List.append_assoc]
  cases h with
  | present h => exact h.order
  | leaving call hp hw h => exact h.order

/-- Once a payload that ends the stream has been taken in, the consumer is told all events. -/
theorem drains_of_ended {acts : List Act} (h : run timely acts {} = some w)
    (hend : w.delivered.any endsStream = true) : w.Drains (eventsAfter [] w.delivered) := by
  have hkept : Kept w := run_invariant kept_next h (.present told_start)
  obtain ⟨hawake, hasks⟩ := no_wait_after_end hkept hend
  refine ⟨order_of_kept hkept, ?_, hawake, ?_, ask_for_all hkept⟩
  · -- the end is among the events, and nothing stands behind it
    rw [← any_isTerminal_eventsAfter [], List.any_eq_true] at hend
    obtain ⟨e, he, hterminal⟩ := hend
    obtain ⟨before, after, heq⟩ := List.append_of_mem he
    obtain rfl := eventsAfter_terminal_last heq hterminal
    exact ⟨before, e, heq, hterminal⟩
  · intro hfree
    exact hasks (by simpa [timely, uncancelled] using hfree)

/-! ## Runs -/

theorem run_append {may : World → Act → Bool} {first second : List Act} {v w u : World}
    (hfirst : run may first v = some w) (hsecond : run may second w = some u) :
    run may (first ++ second) v = some u := by
  induction first generalizing v with
  | nil =>
    obtain rfl := Option.some.inj hfirst
    exact hsecond
  | cons a rest ih =>
    simp only [run, Option.ite_none_right_eq_some] at hfirst
    obtain ⟨hallowed, hrest⟩ := hfirst
    simpa only [List.cons_append, run, hallowed, if_true] using ih hrest

/-- What was posted can be taken in, whatever the consumer has done. -/
theorem run_takeIn_all (w : World) :
    ∃ w', run timely (List.replicate w.posted.length .takeIn) w = some w' ∧
      w'.delivered = w.delivered ++ w.posted ∧ w'.posted = [] := by
  generalize hposted : w.posted = posted
  induction posted generalizing w with
  | nil => exact ⟨w, rfl, by simp, hposted⟩
  | cons raw rest ih =>
    have hnext : w.next .takeIn = { w with posted := rest }.deliver raw := by
      simp only [next, hposted]
    obtain ⟨w', hrun, hdelivered, hnone⟩ := ih (w.next .takeIn) (by rw [hnext]; rfl)
    refine ⟨w', ?_, ?_, hnone⟩
    · simpa [List.replicate_succ, run, can, hposted, timely, uncancelled] using hrun
    · rw [hdelivered, hnext]
      simp [deliver]

/-! ## Errors -/

/-- No call has returned an error as an event. -/
def RaisesErrors (w : World) : Prop := ∀ answer ∈ w.answers, answer.2.returnsError = false

theorem raisesErrors_next (w : World) (a : Act) (h : w.RaisesErrors) : (w.next a).RaisesErrors := by
  have hsnoc : ∀ answer : CallId × Bridge.Answer, answer.2.returnsError = false →
      ∀ other ∈ w.answers ++ [answer], other.2.returnsError = false := by
    intro answer hanswer other hother
    rcases List.mem_append.1 hother with hold | hnew
    · exact h other hold
    · exact List.mem_singleton.1 hnew ▸ hanswer
  cases a with
  | ask =>
    have hanswer := Bridge.returnsError_request w.begun w.bridge
    simp only [RaisesErrors, next, ask]
    split
    · exact h
    · exact hsnoc _ hanswer
  | goOn call => exact hsnoc _ (Bridge.returnsError_resume call w.bridge)
  | takeIn =>
    simp only [RaisesErrors, next]
    split <;> exact h
  | _ => exact h

/-- A consumer that is told an error and nothing else: one of its calls fails with it, and no call
returns anything. -/
theorem raised_of_drains {acts : List Act} (h : run timely acts {} = some w) {message : String}
    (hdrains : w.Drains [.error message]) :
    ∃ later w' call, (∀ a ∈ later, a.isCall = true) ∧ run timely later w = some w' ∧
      (call, .failed message) ∈ w'.answers ∧ w'.received = [.error message] := by
  obtain ⟨later, w', hcalls, hrun, hall⟩ := hdrains.rest
  have hstart : RaisesErrors {} := by simp [RaisesErrors]
  have hraises : w'.RaisesErrors :=
    run_invariant (fun w a _ _ => raisesErrors_next w a) hrun
      (run_invariant (fun w a _ _ => raisesErrors_next w a) h hstart)
  have hmem : Event.error message ∈ w'.received := by simp [hall]
  obtain ⟨⟨call, answer⟩, hanswer, hevent⟩ := List.mem_filterMap.1 hmem
  have hreturned := hraises _ hanswer
  refine ⟨later, w', call, hcalls, hrun, ?_, hall⟩
  cases answer with
  | failed other =>
    obtain rfl : other = message := by simpa [Bridge.Answer.event?] using hevent
    exact hanswer
  | event e =>
    obtain rfl : e = .error message := by simpa [Bridge.Answer.event?] using hevent
    simp [Bridge.Answer.returnsError] at hreturned
  | _ => simp [Bridge.Answer.event?] at hevent

/-! ## Without an end -/

/-- Calls take no payload in. -/
theorem delivered_calls {later : List Act} {w' : World} (hcalls : ∀ a ∈ later, a.isCall = true)
    (h : run timely later w = some w') : w'.delivered = w.delivered := by
  induction later generalizing w with
  | nil =>
    obtain rfl := Option.some.inj h
    rfl
  | cons a rest ih =>
    simp only [run, Option.ite_none_right_eq_some] at h
    obtain ⟨-, hrest⟩ := h
    rw [ih (fun b hb => hcalls b (List.mem_cons_of_mem a hb)) hrest]
    cases a with
    | ask => exact (delivered_ask w).1
    | goOn call => rfl
    | _ => simp [Act.isCall] at hcalls

/-- A consumer without a call that has been given everything waits when it asks. -/
theorem ask_waits (h : Told w) (hidle : w.pending = []) (hopen : w.delivered.any endsStream = false)
    (hall : w.received = eventsAfter [] w.delivered) :
    w.timely .ask = true ∧ w.ask.bridge.isWaiting w.begun = true := by
  have horder := h.order
  rw [hall] at horder
  obtain ⟨-, hqueue⟩ := List.append_eq_nil_iff.1 (List.append_right_eq_self.1 horder)
  have hfinished : w.bridge.finished = false := by
    rw [h.finished, hall, any_isTerminal_eventsAfter, hopen]
  cases h.stand with
  | idle hp hw hh =>
    refine ⟨by simp [timely, uncancelled, hh], ?_⟩
    rw [bridge_ask]
    simp [Bridge.request, hw, hfinished, hqueue, Bridge.isWaiting]
  | waiting call hp hw hh hq => simp [hidle] at hp
  | served call e hp hw hh => simp [hidle] at hp

/-- As long as no payload that ends the stream has been taken in, a consumer that goes on and asks
comes to wait: a call has no answer, and everything has been given to the calls before it. -/
theorem waits_without_end {acts : List Act} (h : run timely acts {} = some w)
    (hopen : w.delivered.any endsStream = false) :
    ∃ later w' call, (∀ a ∈ later, a.isCall = true) ∧ run timely later w = some w' ∧
      w'.delivered = w.delivered ∧ w'.bridge.isWaiting call = true := by
  have hkept : Kept w := run_invariant kept_next h (.present told_start)
  obtain ⟨later, w', hcalls, hrun, hall⟩ := ask_for_all hkept
  have hdelivered := delivered_calls hcalls hrun
  rw [← hdelivered] at hopen hall
  -- one more call waits, once there is none
  have hask : ∀ more v, (∀ a ∈ more, a.isCall = true) → run timely more w' = some v → Told v →
      v.pending = [] → v.received = w'.received →
      ∃ later w' call, (∀ a ∈ later, a.isCall = true) ∧ run timely later w = some w' ∧
        w'.delivered = w.delivered ∧ w'.bridge.isWaiting call = true := by
    intro more v hmore hv htold hidle hreceived
    have hsame := delivered_calls hmore hv
    obtain ⟨hmay, hwaits⟩ := ask_waits htold hidle (hsame ▸ hopen) (by rw [hreceived, hall, hsame])
    refine ⟨later ++ (more ++ [.ask]), v.ask, v.begun, ?_, ?_, ?_, hwaits⟩
    · intro a ha
      simp only [List.mem_append, List.mem_singleton] at ha
      rcases ha with ha | ha | rfl
      · exact hcalls a ha
      · exact hmore a ha
      · rfl
    · refine run_append hrun (run_append hv ?_)
      simp [run, can, hmay, next]
    · rw [(delivered_ask v).1, hsame, hdelivered]
  have horder : w'.received ++ (w'.bridge.inFlight ++ w'.bridge.queue) = w'.received := by
    rw [← List.append_assoc, order_of_kept (run_invariant kept_next hrun hkept), hall]
  have hnothing := List.append_right_eq_self.1 horder
  cases run_invariant kept_next hrun hkept with
  | present htold =>
    cases htold.stand with
    | idle hp hw hh => exact hask [] w' (by simp) rfl htold hp rfl
    | waiting call hp hw hh hq =>
      exact ⟨later, w', call, hcalls, hrun, hdelivered, by simp [Bridge.isWaiting, hw]⟩
    | served call e hp hw hh => simp [Bridge.inFlight, hh] at hnothing
  | leaving call hp hw htold =>
    -- the abandoned call returns without an event
    have hcan : w'.can (.goOn call) = true := by simp [can, hp, Bridge.isReady, hw]
    have hhanded := handed_of_told_left htold
    have hidle : (w'.goOn call).pending = [] := by simp [goOn, hp]
    have hreceived : (w'.goOn call).received = w'.received := by
      simp [goOn, Bridge.resume, hhanded, received, Bridge.Answer.event?]
    have hgone : Told (w'.goOn call) := by
      cases kept_goOn (.leaving call hp hw htold) hcan with
      | present htold => exact htold
      | leaving other hp' => simp [hidle] at hp'
    refine hask [.goOn call] (w'.goOn call) ?_ ?_ hgone hidle hreceived
    · simp [Act.isCall]
    · simp [run, hcan, timely, uncancelled, next]

end World

end Dialogue.Stream
