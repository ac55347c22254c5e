import Dialogue.Proofs.Stream.Events

/-!
# Dialogue.Proofs.Stream.Interleaving — everything that can happen around one bridge

A `World` is a bridge with what surrounds it: the payloads that other threads have posted, the calls
for the next event that have not returned, and what the calls that have returned came to. An `Act`
is one thing that happens next. Posted payloads are taken in in the order in which they were posted;
apart from that any act may come at any time, so a list of acts is one interleaving of producer and
consumers.

`World.run` carries out a list of acts, and gives nothing when one of them is not possible or not
allowed. `run_invariant` turns what one act keeps into what every run keeps.
-/

namespace Dialogue.Stream

/-- What happens next. -/
inductive Act where
  /-- The producer pushes a payload on the loop itself, where it is taken in at once. -/
  | push (raw : RawPayload)
  /-- The producer pushes a payload from another thread. -/
  | post (raw : RawPayload)
  /-- The payload that was posted first is taken in. -/
  | takeIn
  /-- A call for the next event begins. -/
  | ask
  /-- A call whose wait is over goes on. -/
  | goOn (call : CallId)
  /-- A call that has not returned is abandoned. -/
  | abandon (call : CallId)
  /-- The stream is cancelled. -/
  | cancel
deriving DecidableEq, Repr

/-- The payload that an act adds to what the producer pushed. -/
def Act.pushed? : Act → Option RawPayload
  | .push raw => some raw
  | .post raw => some raw
  | _ => none

/-- Whether a payload is pushed on the loop itself. -/
def Act.isPush : Act → Bool
  | .push _ => true
  | _ => false

/-- Whether a payload is pushed from another thread. -/
def Act.isPost : Act → Bool
  | .post _ => true
  | _ => false

/-- The event that an answer hands to the consumer, by returning it or by raising it. -/
def Bridge.Answer.event? : Bridge.Answer → Option Event
  | .event e => some e
  | .failed message => some (.error message)
  | _ => none

/-- The events that have been handed to calls which have not gone on. -/
def Bridge.inFlight (b : Bridge) : List Event := b.handed.filterMap (·.answer)

/-- Whether the wait of a call is over: it was answered or abandoned. -/
def Bridge.isReady (call : CallId) (b : Bridge) : Bool :=
  b.handed.any (·.call == call) || b.waiter == some ⟨call, true⟩

/-! ## What a call can do -/

namespace Bridge

/-- Handing out an event answers with it and touches nothing but the mark of the end. -/
theorem consume_cases (e : Event) (b : Bridge) :
    ∃ finished a, b.consume e = ({ b with finished }, a) ∧ a.event? = some e ∧ a ≠ .waiting := by
  cases e with
  | error message => exact ⟨true, .failed message, rfl, rfl, by simp⟩
  | done reason => exact ⟨true, .event (.done reason), rfl, rfl, by simp⟩
  | textDelta delta => exact ⟨b.finished, .event (.textDelta delta), rfl, rfl, by simp⟩
  | toolCall call => exact ⟨b.finished, .event (.toolCall call), rfl, rfl, by simp⟩

/-- A call that begins when no other waits finds the end, waits on an empty queue, or is given the
head of the queue. -/
theorem request_cases {b : Bridge} (hw : b.waiter = none) (call : CallId) :
    b.finished = true ∧ b.request call = (b, .ended) ∨
      b.finished = false ∧ b.queue = [] ∧
        b.request call = ({ b with waiter := some ⟨call, false⟩ }, .waiting) ∨
      b.finished = false ∧ ∃ e rest finished a, b.queue = e :: rest ∧
        b.request call = ({ b with queue := rest, finished }, a) ∧
          a.event? = some e ∧ a ≠ .waiting := by
  cases hf : b.finished with
  | true => exact Or.inl ⟨rfl, by simp [request, hw, hf]⟩
  | false =>
    cases hq : b.queue with
    | nil => exact Or.inr (Or.inl ⟨rfl, rfl, by simp [request, hw, hf, hq]⟩)
    | cons e rest =>
      obtain ⟨finished, a, hc, hev, hne⟩ := consume_cases e { b with queue := rest }
      refine Or.inr (Or.inr ⟨rfl, e, rest, finished, a, rfl, ?_, hev, hne⟩)
      simpa [request, hw, hf, hq] using hc

/-- The only call that has been handed an event is given it when it goes on. -/
theorem resume_served {b : Bridge} {call : CallId} {e : Event}
    (hh : b.handed = [⟨call, some e, false⟩]) :
    ∃ finished a, b.resume call = ({ b with handed := [], finished }, a) ∧ a.event? = some e := by
  obtain ⟨finished, a, hc, hev, -⟩ := consume_cases e { b with handed := [] }
  exact ⟨finished, a, by simpa [resume, hh] using hc, hev⟩

end Bridge

/-- A bridge and what surrounds it. -/
structure World where
  bridge : Bridge := {}
  /-- The payloads posted and not taken in, oldest first. -/
  posted : List RawPayload := []
  /-- The payloads taken in, oldest first. -/
  delivered : List RawPayload := []
  /-- The calls that have not returned. -/
  pending : List CallId := []
  /-- How many calls have begun. -/
  begun : Nat := 0
  /-- What the calls that have returned came to, in the order in which they returned. -/
  answers : List (CallId × Bridge.Answer) := []
deriving DecidableEq, Repr

namespace World

/-- The events that the calls have been given, in order. -/
def received (w : World) : List Event := w.answers.filterMap (·.2.event?)

/-! ## Acts -/

/-- Whether an act is possible. -/
def can (w : World) : Act → Bool
  | .takeIn => !w.posted.isEmpty
  | .goOn call => w.pending.contains call && w.bridge.isReady call
  | .abandon call => w.pending.contains call
  | _ => true

/-- The bridge takes in a payload. -/
def deliver (raw : RawPayload) (w : World) : World :=
  { w with bridge := w.bridge.deliver raw, delivered := w.delivered ++ [raw] }

/-- A call begins: it returns at once, or it waits. -/
def ask (w : World) : World :=
  let (b, a) := w.bridge.request w.begun
  if a = .waiting then
    { w with bridge := b, begun := w.begun + 1, pending := w.pending ++ [w.begun] }
  else { w with bridge := b, begun := w.begun + 1, answers := w.answers ++ [(w.begun, a)] }

/-- A call goes on and returns. -/
def goOn (call : CallId) (w : World) : World :=
  let (b, a) := w.bridge.resume call
  { w with
    bridge := b, pending := w.pending.filter (· != call), answers := w.answers ++ [(call, a)] }

/-- The world after an act. -/
def next (w : World) : Act → World
  | .push raw => w.deliver raw
  | .post raw => { w with posted := w.posted ++ [raw] }
  | .takeIn =>
    match w.posted with
    | [] => w
    | raw :: rest => { w with posted := rest }.deliver raw
  | .ask => w.ask
  | .goOn call => w.goOn call
  | .abandon call => { w with bridge := w.bridge.abandon call }
  | .cancel => { w with bridge := w.bridge.cancel }

/-- The world after acts that are all possible and allowed. -/
def run (may : World → Act → Bool) : List Act → World → Option World
  | [], w => some w
  | a :: rest, w => if w.can a && may w a then run may rest (w.next a) else none

/-- What every allowed act keeps, every run keeps. -/
theorem run_invariant {may : World → Act → Bool} {inv : World → Prop}
    (hstep : ∀ w a, w.can a = true → may w a = true → inv w → inv (w.next a))
    {acts : List Act} {w w' : World} (h : run may acts w = some w') (hw : inv w) : inv w' := by
  induction acts generalizing w with
  | nil =>
    simp only [run, Option.some.injEq] at h
    subst h
    exact hw
  | cons a rest ih =>
    simp only [run, Option.ite_none_right_eq_some, Bool.and_eq_true] at h
    obtain ⟨⟨hcan, hmay⟩, hrun⟩ := h
    exact ih hrun (hstep w a hcan hmay hw)

/-- What is allowed in a run is allowed wherever more is. -/
theorem run_mono {may might : World → Act → Bool} (hmay : ∀ w a, may w a = true → might w a = true)
    {acts : List Act} {w w' : World} (h : run may acts w = some w') : run might acts w = some w' := by
  induction acts generalizing w with
  | nil => exact h
  | cons a rest ih =>
    simp only [run, Option.ite_none_right_eq_some, Bool.and_eq_true] at h ⊢
    obtain ⟨⟨hcan, hallowed⟩, hrun⟩ := h
    exact ⟨⟨hcan, hmay w a hallowed⟩, ih hrun⟩

/-! ## Payloads in the order of the producer -/

theorem delivered_ask (w : World) : w.ask.delivered = w.delivered ∧ w.ask.posted = w.posted := by
  unfold ask
  split
  split <;> exact ⟨rfl, rfl⟩

/-- An act adds the payload that it pushes behind all others, unless it pushes it on the loop past
those that have been posted. -/
theorem payloads_next {w : World} {a : Act} (hcan : w.can a = true)
    (hside : a.isPush = true → w.posted = []) :
    (w.next a).delivered ++ (w.next a).posted = w.delivered ++ w.posted ++ a.pushed?.toList := by
  cases a with
  | push raw =>
    -- taken in at once, so it must not overtake a payload that has been posted
    have hposted := hside rfl
    simp [next, deliver, hposted, Act.pushed?]
  | takeIn =>
    cases hp : w.posted with
    | nil => simp [can, hp] at hcan
    | cons raw more => simp [next, hp, deliver, Act.pushed?]
  | ask =>
    obtain ⟨hd, hp⟩ := delivered_ask w
    simp [next, hd, hp, Act.pushed?]
  | goOn call => simp [next, goOn, Act.pushed?]
  | _ => simp [next, Act.pushed?]

/-- Without a post nothing becomes posted. -/
theorem posted_next {w : World} {a : Act} (hcan : w.can a = true) (hpost : a.isPost = false)
    (hw : w.posted = []) : (w.next a).posted = [] := by
  cases a with
  | post raw => simp [Act.isPost] at hpost
  | takeIn => simp [can, hw] at hcan
  | ask => exact (delivered_ask w).2.trans hw
  | _ => exact hw

/-- A producer that keeps to one side of the loop has its payloads taken in in its own order. -/
theorem payloads_run {may : World → Act → Bool} {acts : List Act} {w w' : World}
    (h : run may acts w = some w')
    (hside : (∀ a ∈ acts, a.isPush = false) ∨ (∀ a ∈ acts, a.isPost = false) ∧ w.posted = []) :
    w'.delivered ++ w'.posted = w.delivered ++ w.posted ++ acts.filterMap Act.pushed? := by
  induction acts generalizing w with
  | nil =>
    simp only [run, Option.some.injEq] at h
    subst h
    simp
  | cons a rest ih =>
    simp only [run, Option.ite_none_right_eq_some, Bool.and_eq_true] at h
    obtain ⟨⟨hcan, -⟩, hrun⟩ := h
    simp only [List.forall_mem_cons] at hside
    -- the producer is on the same side of the loop after the act
    have hrest : (∀ a ∈ rest, a.isPush = false) ∨
        (∀ a ∈ rest, a.isPost = false) ∧ (w.next a).posted = [] := by
      rcases hside with ⟨-, hside⟩ | ⟨⟨hpost, hside⟩, hposted⟩
      · exact Or.inl hside
      · exact Or.inr ⟨hside, posted_next hcan hpost hposted⟩
    have hone : a.isPush = true → w.posted = [] := by
      intro hpush
      rcases hside with ⟨hnot, -⟩ | ⟨-, hposted⟩
      · rw [hnot] at hpush
        contradiction
      · exact hposted
    rw [ih hrun hrest, payloads_next hcan hone]
    cases hp : a.pushed? <;> simp [hp]

end World

end Dialogue.Stream
