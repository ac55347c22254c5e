import Dialogue.Proofs.Stream.Events

/-!
# Dialogue.Proofs.Stream.Reading — reading a stream that has been delivered

* `deliverAll_eq` — while no call waits, payloads put their events into the queue;
* `readLoop_done` — a reader without a limit takes everything up to the end, and then it is over.
-/

namespace Dialogue.Stream.Bridge

/-! ## Delivering -/

/-- While no call waits that can take them, events go into the queue. -/
theorem pushAll_unwaited {b : Bridge} (hwaiter : ∀ call, b.waiter ≠ some ⟨call, false⟩)
    (es : List Event) : b.pushAll es = { b with queue := b.queue ++ es } := by
  induction es generalizing b with
  | nil => simp
  | cons e rest ih =>
    have hpush : b.push e = { b with queue := b.queue ++ [e] } := by
      unfold push
      split
      · rename_i call hw
        exact absurd hw (hwaiter call)
      · rfl
    rw [pushAll_cons, hpush, ih (b := { b with queue := b.queue ++ [e] }) hwaiter]
    simp

theorem pushAll_idle {b : Bridge} (hwaiter : b.waiter = none) (es : List Event) :
    b.pushAll es = { b with queue := b.queue ++ es } :=
  pushAll_unwaited (by simp [hwaiter]) es

/-- Payloads after the end are dropped. -/
theorem deliverAll_dropped {b : Bridge} (h : (b.terminal || b.cancelled) = true)
    (raws : List RawPayload) : b.deliverAll raws = b := by
  induction raws with
  | nil => rfl
  | cons raw rest ih =>
    show (b.deliver raw).deliverAll rest = b
    rw [deliver_dropped h, ih]

/-- While no call waits, payloads put their events into the queue. -/
theorem deliverAll_eq {b : Bridge} (hwaiter : b.waiter = none) (hterminal : b.terminal = false)
    (hcancelled : b.cancelled = false) (raws : List RawPayload) :
    b.deliverAll raws =
      { b with
        queue := b.queue ++ eventsAfter b.text raws
        text := textAfter b.text raws
        terminal := raws.any endsStream } := by
  induction raws generalizing b with
  | nil => simp [deliverAll, ← hterminal]
  | cons raw rest ih =>
    have hremembered : (b.remember raw).waiter = none := hwaiter
    have hdeliver := deliver_eq hterminal hcancelled raw
    rw [pushAll_idle hremembered] at hdeliver
    show (b.deliver raw).deliverAll rest = _
    cases hends : endsStream raw with
    | true =>
      -- the rest comes after the end
      have hdropped : ((b.deliver raw).terminal || (b.deliver raw).cancelled) = true := by
        simp [hdeliver, hends]
      rw [deliverAll_dropped hdropped, hdeliver, eventsAfter_cons_end hends b.text rest]
      simp [remember, textAfter, hends]
    | false =>
      have hidle : (b.deliver raw).waiter = none := by rw [hdeliver]; exact hwaiter
      have hopen : (b.deliver raw).terminal = false := by rw [hdeliver]; exact hends
      have hkept : (b.deliver raw).cancelled = false := by rw [hdeliver]; exact hcancelled
      have hevents := eventsAfter_cons_text hends b.text
      have htext := textAfter_cons_text hends b.text
      rw [ih hidle hopen hkept, hdeliver, hevents rest, htext rest]
      simp [remember, hends, hevents [], htext []]

/-! ## Reading -/

section

variable {α : Type} {wanted : Event → Option α} {b : Bridge}

/-- Nothing is read of a stream that is over. -/
theorem readLoop_finished (hwaiter : b.waiter = none) (hfinished : b.finished = true)
    (calls : Nat) (items : List α) :
    b.readLoop wanted none (calls + 1) items = ⟨items, .complete, b⟩ := by
  simp [readLoop, request, hwaiter, hfinished]

/-- A reader without a limit keeps an event that is wanted and goes on. -/
theorem readLoop_event {after : Bridge} {e : Event}
    (h : b.request consumer = (after, .event e)) (calls : Nat) (items : List α) :
    b.readLoop wanted none (calls + 1) items =
      after.readLoop wanted none calls (items ++ (wanted e).toList) := by
  rw [readLoop, h]
  cases hwanted : wanted e with
  | none => simp [hwanted]
  | some item => simp [hwanted, Reading.enough]

/-- A reader without a limit takes everything that is queued up to the end. -/
theorem readLoop_done {es : List Event} {reason : Option String}
    (hes : ∀ e ∈ es, e.isTerminal = false) (hqueue : b.queue = es ++ [.done reason])
    (hwaiter : b.waiter = none) (hfinished : b.finished = false) (items : List α) :
    b.readLoop wanted none (es.length + 2) items =
      ⟨items ++ b.queue.filterMap wanted, .complete, { b with queue := [], finished := true }⟩ := by
  induction es generalizing b items with
  | nil =>
    -- the end is handed out, and the call after it finds the stream over
    have hrequest : b.request consumer =
        ({ b with queue := [], finished := true }, .event (.done reason)) := by
      simp [request, hwaiter, hfinished, hqueue, consume]
    rw [List.length_nil, readLoop_event hrequest,
      readLoop_finished (b := { b with queue := [], finished := true }) hwaiter rfl, hqueue]
    cases hwanted : wanted (.done reason) <;> simp [hwanted]
  | cons e rest ih =>
    have hopen : e.isTerminal = false := hes e List.mem_cons_self
    have hrequest : b.request consumer =
        ({ b with queue := rest ++ [.done reason] }, .event e) := by
      cases e with
      | error message => contradiction
      | done reason => contradiction
      | textDelta delta => simp [request, hwaiter, hfinished, hqueue, consume]
      | toolCall call => simp [request, hwaiter, hfinished, hqueue, consume]
    have hrest : ∀ e ∈ rest, e.isTerminal = false := fun e he =>
      hes e (List.mem_cons_of_mem _ he)
    rw [List.length_cons, readLoop_event hrequest,
      ih (b := { b with queue := rest ++ [.done reason] }) hrest rfl hwaiter hfinished, hqueue]
    cases hwanted : wanted e <;> simp [hwanted]

end

end Dialogue.Stream.Bridge
