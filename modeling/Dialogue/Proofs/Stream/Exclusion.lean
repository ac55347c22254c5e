import Dialogue.Proofs.Stream.Wakeup

/-!
# Dialogue.Proofs.Stream.Exclusion — one call at a time, and the gap in the guard

A bridge serves one consumer: a call that begins while another waits is refused. The guard looks at
the wait alone. As soon as an event has been handed to the call that waits, the guard is open again,
although that call has not gone on.

* `Lined` — a call that has not returned waits, or it has been handed an event; the invariant of every
  run in which calls may overlap (`lined_next`);
* `refused_while_waiting` — a call is refused just when another waits. When calls begin only while
  nothing is on its way to another one, every call that begins too early is refused, events are given
  in order and no call waits in vain;
* `overtakes_what_is_handed` — in the gap a call overtakes the event that is on its way, or it waits;
  when that event is the end, it waits for ever.
-/

namespace Dialogue.Stream

/-- The calls that have been handed an answer and have not gone on. -/
def Bridge.served (b : Bridge) : List CallId := b.handed.map (·.call)

/-- A call that has been handed an answer takes it away when it goes on. -/
theorem Bridge.resume_of_served {b : Bridge} {call : CallId} (h : call ∈ b.served) :
    ∃ finished, (b.resume call).1 =
      { b with handed := b.handed.filter (·.call != call), finished } := by
  have hfound : (b.handed.find? (·.call == call)).isSome = true := by
    simpa [served] using h
  obtain ⟨x, hx⟩ := Option.isSome_iff_exists.1 hfound
  unfold resume
  simp only [hx]
  split
  · exact ⟨b.finished, rfl⟩
  · split
    · rename_i e _
      exact consume_frame e { b with handed := b.handed.filter (·.call != call) }
    · exact ⟨b.finished, rfl⟩

/-- Calls may begin at any time; none is abandoned, and nobody cancels. -/
def World.overlapping (_ : World) : Act → Bool
  | .abandon _ => false
  | .cancel => false
  | _ => true

/-- Calls may begin while others wait, but not while an event is on its way to one. -/
def World.orderly (w : World) : Act → Bool
  | .ask => w.bridge.handed.isEmpty
  | a => w.overlapping a

/-- Where calls that may overlap stand: each call that has not returned waits or has been handed an
event, and the one that waits has not. -/
structure Lined (begun : Nat) (pending : List CallId) (b : Bridge) : Prop where
  waiter : ∀ x, b.waiter = some x → x.abandoned = false ∧ x.call ∈ pending ∧ x.call ∉ b.served
  answered : ∀ call ∈ pending, call ∈ b.served ∨ b.waiter = some ⟨call, false⟩
  old : ∀ call, call ∈ pending ∨ call ∈ b.served → call < begun

namespace Lined

variable {begun : Nat} {pending : List CallId} {b : Bridge}

theorem start : Lined 0 [] {} := ⟨by simp, by simp, by simp [Bridge.served]⟩

/-- The line sees nothing of a bridge but its wait and what has been handed out. -/
theorem congr (h : Lined begun pending b) {other : Bridge} (hw : other.waiter = b.waiter)
    (hh : other.handed = b.handed) : Lined begun pending other := by
  have hs : other.served = b.served := by rw [Bridge.served, hh, Bridge.served]
  exact ⟨hw ▸ hs ▸ h.waiter, hw ▸ hs ▸ h.answered, hs ▸ h.old⟩

/-- An event that is pushed is handed to the call that waits, if there is one. -/
theorem push (h : Lined begun pending b) (e : Event) : Lined begun pending (b.push e) := by
  cases hw : b.waiter with
  | none =>
    have hpush : b.push e = { b with queue := b.queue ++ [e] } := by simp [Bridge.push, hw]
    rw [hpush]
    exact h.congr rfl rfl
  | some x =>
    obtain ⟨call, abandoned⟩ := x
    obtain ⟨rfl, hcall, -⟩ : abandoned = false ∧ call ∈ pending ∧ call ∉ b.served := h.waiter _ hw
    have hpush : b.push e =
        { b with waiter := none, handed := b.handed ++ [⟨call, some e, false⟩] } := by
      simp [Bridge.push, hw]
    have hserved : (b.push e).served = b.served ++ [call] := by
      rw [hpush]
      simp [Bridge.served]
    refine ⟨?_, ?_, ?_⟩
    · intro x hx
      simp [hpush] at hx
    · intro other hother
      left
      rw [hserved, List.mem_append, List.mem_singleton]
      rcases h.answered other hother with hanswered | hwaits
      · exact Or.inl hanswered
      · right
        have hsame : (⟨call, false⟩ : Waiter) = ⟨other, false⟩ :=
          Option.some.inj (hw.symm.trans hwaits)
        exact (congrArg Waiter.call hsame).symm
    · intro other hother
      rw [hserved, List.mem_append, List.mem_singleton] at hother
      rcases hother with hother | hother | rfl
      · exact h.old other (Or.inl hother)
      · exact h.old other (Or.inr hother)
      · exact h.old other (Or.inl hcall)

theorem pushAll (h : Lined begun pending b) (es : List Event) :
    Lined begun pending (b.pushAll es) := by
  induction es generalizing b with
  | nil => exact h
  | cons e rest ih => exact ih (h.push e)

theorem deliver (h : Lined begun pending b) (raw : RawPayload) :
    Lined begun pending (b.deliver raw) := by
  cases hopen : b.terminal || b.cancelled with
  | true =>
    rw [Bridge.deliver_dropped hopen]
    exact h
  | false =>
    obtain ⟨ht, hc⟩ := Bool.or_eq_false_iff.1 hopen
    rw [Bridge.deliver_eq ht hc]
    apply pushAll
    exact h.congr rfl rfl

/-- A new call waits behind those that have been handed an event. -/
theorem wait (h : Lined begun pending b) (hw : b.waiter = none) :
    Lined (begun + 1) (pending ++ [begun]) { b with waiter := some ⟨begun, false⟩ } := by
  refine ⟨?_, ?_, ?_⟩
  · intro x hx
    obtain rfl : (⟨begun, false⟩ : Waiter) = x := Option.some.inj hx
    refine ⟨rfl, by simp, ?_⟩
    intro hserved
    exact Nat.lt_irrefl begun (h.old begun (Or.inr hserved))
  · intro call hcall
    rw [List.mem_append, List.mem_singleton] at hcall
    rcases hcall with hcall | rfl
    · rcases h.answered call hcall with hserved | hwaits
      · exact Or.inl hserved
      · simp [hw] at hwaits
    · exact Or.inr rfl
  · intro call hcall
    rw [List.mem_append, List.mem_singleton] at hcall
    rcases hcall with (hcall | rfl) | hserved
    · exact Nat.lt_succ_of_lt (h.old call (Or.inl hcall))
    · exact Nat.lt_succ_self call
    · exact Nat.lt_succ_of_lt (h.old call (Or.inr hserved))

/-- A call that returns at once leaves the line as it is. -/
theorem later (h : Lined begun pending b) : Lined (begun + 1) pending b := by
  refine ⟨h.waiter, h.answered, ?_⟩
  intro call hcall
  exact Nat.lt_succ_of_lt (h.old call hcall)

/-- A call that has been handed an event takes it away when it goes on. -/
theorem goOn (h : Lined begun pending b) {call : CallId} (hserved : call ∈ b.served) :
    Lined begun (pending.filter (· != call)) (b.resume call).1 := by
  obtain ⟨finished, hresume⟩ := Bridge.resume_of_served hserved
  rw [hresume]
  have hleft : ∀ other, other ∈ (b.handed.filter (·.call != call)).map (·.call) ↔
      other ∈ b.served ∧ other ≠ call := by
    intro other
    simp [Bridge.served]
    constructor
    · rintro ⟨x, ⟨hx, hne⟩, rfl⟩
      exact ⟨⟨x, hx, rfl⟩, hne⟩
    · rintro ⟨⟨x, hx, rfl⟩, hne⟩
      exact ⟨x, ⟨hx, hne⟩, rfl⟩
  refine ⟨?_, ?_, ?_⟩
  · intro x hx
    obtain ⟨habandoned, hcall, hnot⟩ := h.waiter x hx
    refine ⟨habandoned, ?_, ?_⟩
    · -- the call that goes on is another one, since it has been handed an event
      have hne : x.call ≠ call := by
        rintro rfl
        exact hnot hserved
      simp [hcall, hne]
    · intro hx
      exact hnot ((hleft x.call).1 hx).1
  · intro other hother
    have hmem : other ∈ pending ∧ other ≠ call := by simpa using hother
    rcases h.answered other hmem.1 with hanswered | hwaits
    · left
      exact (hleft other).2 ⟨hanswered, hmem.2⟩
    · exact Or.inr hwaits
  · intro other hother
    rcases hother with hother | hother
    · exact h.old other (Or.inl (List.mem_filter.1 hother).1)
    · exact h.old other (Or.inr ((hleft other).1 hother).1)

end Lined

namespace World

variable {w : World}

/-! ## One act -/

theorem lined_ask (h : Lined w.begun w.pending w.bridge) :
    Lined w.ask.begun w.ask.pending w.ask.bridge := by
  cases hw : w.bridge.waiter with
  | some x =>
    rw [ask_busy hw]
    exact h.later
  | none =>
    rcases Bridge.request_cases hw w.begun with ⟨-, hreq⟩ | ⟨-, -, hreq⟩ |
      ⟨-, e, rest, finished, a, -, hreq, -, hne⟩
    · simp only [ask, hreq, reduceCtorEq, if_false]
      exact h.later
    · simp only [ask, hreq, if_true]
      exact h.wait hw
    · simp only [ask, hreq, hne, if_false]
      exact h.later.congr rfl rfl

/-- Whatever overlapping calls and the producer do, the calls stay in line. -/
theorem lined_next (w : World) (a : Act) (hcan : w.can a = true) (hmay : w.overlapping a = true)
    (h : Lined w.begun w.pending w.bridge) :
    Lined (w.next a).begun (w.next a).pending (w.next a).bridge := by
  cases a with
  | push raw => exact h.deliver raw
  | post raw => exact h
  | takeIn =>
    cases hposted : w.posted with
    | nil => simp [can, hposted] at hcan
    | cons raw rest =>
      simp only [next, hposted]
      exact h.deliver raw
  | ask => exact lined_ask h
  | goOn call =>
    simp only [can, Bridge.isReady, Bool.and_eq_true, Bool.or_eq_true, List.contains_iff_mem] at hcan
    obtain ⟨-, hready⟩ := hcan
    have hserved : call ∈ w.bridge.served := by
      rcases hready with hanswered | hgone
      · simpa [Bridge.served] using hanswered
      · -- no call has been abandoned
        obtain ⟨hnot, -⟩ := h.waiter ⟨call, true⟩ (by simpa using hgone)
        simp at hnot
    exact h.goOn hserved
  | abandon call => simp [overlapping] at hmay
  | cancel => simp [overlapping] at hmay

/-- A call is refused only when another one waits, and leaves the bridge as it is then. -/
theorem request_of_busy {b : Bridge} {call : CallId} (h : (b.request call).2 = .busy) :
    (∃ x, b.waiter = some x) ∧ b.request call = (b, .busy) := by
  cases hw : b.waiter with
  | some x => exact ⟨⟨x, rfl⟩, by simp [Bridge.request, hw]⟩
  | none =>
    rcases Bridge.request_cases hw call with ⟨-, hreq⟩ | ⟨-, -, hreq⟩ |
      ⟨-, e, rest, finished, a, -, hreq, hevent, -⟩
    · simp [hreq] at h
    · simp [hreq] at h
    · rw [hreq] at h
      obtain rfl : a = .busy := h
      simp [Bridge.Answer.event?] at hevent

/-- A call that begins is refused just when another one waits. -/
theorem busy_iff (h : Lined w.begun w.pending w.bridge) (call : CallId) :
    (w.bridge.request call).2 = .busy ↔ ∃ other ∈ w.pending, other ∉ w.bridge.served := by
  constructor
  · intro hbusy
    obtain ⟨⟨x, hw⟩, -⟩ := request_of_busy hbusy
    obtain ⟨-, hcall, hnot⟩ := h.waiter x hw
    exact ⟨x.call, hcall, hnot⟩
  · rintro ⟨other, hother, hnot⟩
    rcases h.answered other hother with hserved | hwaits
    · contradiction
    · simp [Bridge.request, hwaits]

/-! ## Every run -/

/-- In an orderly run the flow of events is that of a patient consumer. -/
theorem told_of_orderly {acts : List Act} (h : run orderly acts {} = some w)
    (hline : Lined w.begun w.pending w.bridge) : Told w := by
  have htimely : run timely acts {} = some w := by
    refine run_mono ?_ h
    intro w a hmay
    cases a with
    | ask => exact hmay
    | abandon call => simp [orderly, overlapping] at hmay
    | cancel => simp [orderly, overlapping] at hmay
    | _ => rfl
  have hkept : Kept w := run_invariant kept_next htimely (.present told_start)
  cases hkept with
  | present htold => exact htold
  | leaving call hp hw hleft =>
    -- nobody abandons a call
    have hnot := (hline.waiter _ hw).1
    contradiction

/-- In every run in which calls may overlap: a call that begins is refused, and leaves the bridge as
it is, just when a call that has not returned has not been handed an event either. When calls begin
only while no event is on its way to another call, this refuses every call that begins before the last
one has returned: the events are given in order and once each, no two calls are open, and a call that
has not returned can go on as soon as an event is queued or the stream has ended. -/
theorem refused_while_waiting {acts : List Act} {w : World} (h : run overlapping acts {} = some w) :
    (∀ call, (w.bridge.request call).2 = .busy ↔ ∃ other ∈ w.pending, other ∉ w.bridge.served) ∧
    (∀ call, (w.bridge.request call).2 = .busy → (w.bridge.request call).1 = w.bridge) ∧
    (run orderly acts {} = some w →
      (w.orderly .ask = true → w.pending ≠ [] →
        ∀ call, w.bridge.request call = (w.bridge, .busy)) ∧
      w.received ++ w.bridge.inFlight ++ w.bridge.queue = eventsAfter [] w.delivered ∧
      w.pending.length ≤ 1 ∧
      ∀ call ∈ w.pending, w.bridge.queue ≠ [] ∨ w.delivered.any endsStream = true →
        w.can (.goOn call) = true) := by
  have hline : Lined w.begun w.pending w.bridge :=
    @run_invariant overlapping (fun w => Lined w.begun w.pending w.bridge) lined_next _ _ _ h .start
  refine ⟨busy_iff hline, ?_, ?_⟩
  · intro call hbusy
    rw [(request_of_busy hbusy).2]
  · intro horderly
    have htold : Told w := told_of_orderly horderly hline
    refine ⟨?_, ?_, ?_, ?_⟩
    · intro hfree hopen call
      have hnone : w.bridge.served = [] := by
        have hhanded : w.bridge.handed = [] := by simpa [orderly] using hfree
        rw [Bridge.served, hhanded, List.map_nil]
      obtain ⟨other, hother⟩ := List.exists_mem_of_ne_nil _ hopen
      have hbusy : (w.bridge.request call).2 = .busy := by
        rw [busy_iff hline]
        exact ⟨other, hother, by simp [hnone]⟩
      exact (request_of_busy hbusy).2
    · rw [List.append_assoc]
      exact htold.order
    · cases htold.stand with
      | idle hp hw hh => simp [hp]
      | waiting call hp hw hh hq => simp [hp]
      | served call e hp hw hh => simp [hp]
    · intro call hcall hsome
      rcases waiting_or_ready (.live htold) hcall with hw | hready
      · obtain ⟨hqueue, hend, -⟩ := open_of_waiting (.live htold) hw
        rcases hsome with hsome | hsome
        · contradiction
        · rw [hend] at hsome
          contradiction
      · exact hready

/-- A call waits, another one is refused, and a third begins once the first has returned. -/
def refusedRun : List Act := [.ask, .ask, .push (some "a"), .goOn 0, .ask]

theorem refused_while_waiting_refusedRun :
    ∃ w, run overlapping refusedRun {} = some w ∧ run orderly refusedRun {} = some w ∧
      w.answers = [(1, .busy), (0, .event (.textDelta "a"))] ∧ w.pending = [2] ∧
      ∀ call, w.bridge.request call = (w.bridge, .busy) := by
  refine ⟨_, rfl, rfl, rfl, rfl, ?_⟩
  exact ((@refused_while_waiting refusedRun _ rfl).2.2 rfl).1 rfl (by decide)

/-! ## The gap -/

/-- While an event is on its way to a call, another call that begins is not refused. It is given what
is queued, ahead of that event, or it waits when nothing is. When the event is the end of the stream,
nothing is queued and the call waits for ever. -/
theorem overtakes_what_is_handed (h : Told w) {call : CallId} {e : Event}
    (hh : w.bridge.handed = [⟨call, some e, false⟩]) :
    (∀ first rest, w.bridge.queue = first :: rest →
      eventsAfter [] w.delivered = w.received ++ e :: first :: rest ∧
        w.ask.received = w.received ++ [first]) ∧
    (w.bridge.queue = [] → w.ask.bridge.isWaiting w.begun = true) ∧
    (e.isTerminal = true → w.bridge.queue = [] ∧ ∀ raw, w.ask.bridge.deliver raw = w.ask.bridge) := by
  have hw : w.bridge.waiter = none := by
    cases h.stand with
    | idle hp hw hh' => exact hw
    | waiting other hp hw hh' hq => simp [hh] at hh'
    | served other e' hp hw hh' => exact hw
  have horder : w.received ++ e :: w.bridge.queue = eventsAfter [] w.delivered := by
    simpa [Bridge.inFlight, hh] using h.order
  have hopen : w.bridge.finished = false := not_finished_of_left h (by simp [Bridge.inFlight, hh])
  have hwaits : w.bridge.queue = [] →
      w.ask.bridge = { w.bridge with waiter := some ⟨w.begun, false⟩ } := by
    intro hq
    simp [bridge_ask, Bridge.request, hw, hopen, hq]
  refine ⟨?_, ?_, ?_⟩
  · intro first rest hq
    rw [← horder, hq]
    refine ⟨rfl, ?_⟩
    rcases Bridge.request_cases hw w.begun with ⟨hend, -⟩ | ⟨-, hempty, -⟩ |
      ⟨-, head, tail, finished, a, hqueue, hreq, hevent, -⟩
    · rw [hopen] at hend
      contradiction
    · rw [hq] at hempty
      contradiction
    · obtain ⟨rfl, -⟩ := List.cons.inj (hq.symm.trans hqueue)
      rw [received_ask, hreq, hevent]
      rfl
  · intro hq
    rw [hwaits hq]
    simp [Bridge.isWaiting]
  · intro hterminal
    have hq : w.bridge.queue = [] := eventsAfter_terminal_last horder.symm hterminal
    have hend : w.bridge.terminal = true := by
      rw [h.terminal, ← any_isTerminal_eventsAfter [], ← horder, List.any_append, List.any_cons,
        hterminal]
      simp
    refine ⟨hq, ?_⟩
    intro raw
    rw [hwaits hq]
    exact Bridge.deliver_dropped (by simp [hend]) raw

/-- A text is handed to a call that waits, the next one is queued, and a second call begins before the
first has gone on. -/
def overtakingRun : List Act := [.ask, .push (some "a"), .push (some "ab"), .ask]

/-- The end is handed to a call that waits, and a second call begins before the first has gone on. -/
def endedUnderWay : List Act := [.ask, .push none, .ask, .goOn 0]

/-- The guard does not keep the second call out. In the first run it returns the second text while the
first call is still open. In the other one the end has been given, the second call waits, and no
payload changes that. -/
theorem passes_guard_when_handed :
    (∃ w, run overlapping overtakingRun {} = some w ∧ w.pending = [0] ∧
      eventsAfter [] w.delivered = [.textDelta "a", .textDelta "b"] ∧
      w.answers = [(1, .event (.textDelta "b"))]) ∧
    ∃ w, run overlapping endedUnderWay {} = some w ∧ w.received = [.finished] ∧
      w.bridge.isWaiting 1 = true ∧ w.can (.goOn 1) = false ∧
      ∀ raw, w.bridge.deliver raw = w.bridge := by
  refine ⟨⟨_, rfl, rfl, rfl, rfl⟩, ⟨_, rfl, rfl, rfl, rfl, ?_⟩⟩
  intro raw
  exact Bridge.deliver_dropped rfl raw

end World

end Dialogue.Stream
