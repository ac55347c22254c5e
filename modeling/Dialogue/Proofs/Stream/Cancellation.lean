import Dialogue.Proofs.Stream.Leaving

/-!
# Dialogue.Proofs.Stream.Cancellation — a cancelled stream stays as it is

* After a cancellation nothing in the bridge changes but which answers are still on their way
  (`closed_move`), and the calls that begin then return nothing at once (`Since`).
* The call that waited is answered with nothing: `Released` follows the answer on its way to it.
* `nothing_after_cancellation` — the statement for every run.
-/

namespace Dialogue.Stream

namespace Bridge

/-- A stream after its cancellation. -/
structure Closed (b : Bridge) : Prop where
  queue : b.queue = []
  waiter : b.waiter = none
  finished : b.finished = true
  cancelled : b.cancelled = true
  stopSignal : b.stopSignal = true

/-! ## After a cancellation -/

namespace Closed

variable {b : Bridge}

/-- The answers on their way do not count. -/
theorem withHanded (h : b.Closed) (handed : List Handed) : Closed { b with handed } :=
  ⟨h.queue, h.waiter, h.finished, h.cancelled, h.stopSignal⟩

theorem deliver (h : b.Closed) (raw : RawPayload) : b.deliver raw = b :=
  deliver_dropped (by simp [h.cancelled]) raw

/-- A call that begins finds the stream over. -/
theorem request (h : b.Closed) (call : CallId) : b.request call = (b, .ended) := by
  simp [Bridge.request, h.waiter, h.finished]

theorem cancel (h : b.Closed) : b.cancel = b := by
  simp [Bridge.cancel, h.cancelled]

theorem leave (h : b.Closed) : b.leave = b := by
  simp [Bridge.leave, h.finished]

/-- A call that goes on takes its answer away, if it has one. -/
theorem resume (h : b.Closed) (call : CallId) :
    ∃ handed, (b.resume call).1 = { b with handed } := by
  rcases resume_frame call b with ⟨finished, hresume⟩ | hresume
  · have hfinished : finished = true := by
      have hend := finished_resume call b
      rw [hresume, h.finished, Bool.true_or] at hend
      exact hend
    refine ⟨b.handed.filter (·.call != call), ?_⟩
    rw [hresume, hfinished, ← h.finished]
  · -- no call waits, so there is no wait to forget
    have hforget : b.forget call = b := by simp [forget, h.waiter]
    exact ⟨b.handed, hresume.trans hforget⟩

theorem abandon (h : b.Closed) (call : CallId) : ∃ handed, b.abandon call = { b with handed } := by
  have hnone : b.isWaiting call = false := by simp [isWaiting, h.waiter]
  exact ⟨b.handed.map fun x => if x.call = call then { x with abandoned := true } else x,
    by simp [Bridge.abandon, hnone]⟩

end Closed

/-- A cancellation closes a stream. -/
theorem closed_cancel {b : Bridge} (h : b.cancelled = false) : b.cancel.Closed := by
  unfold Bridge.cancel
  rw [if_neg (by simp [h])]
  exact ⟨rfl, rfl, rfl, rfl, rfl⟩

/-! ## Reporting a cancellation -/

/-- What a bridge keeps about its cancellation: whether it came, the signal to the producer, and how
often it was reported to a hook, if there is one. -/
def report (b : Bridge) : Bool × Bool × Bool × Nat :=
  (b.cancelled, b.stopSignal, b.hasHook, b.hookRuns)

theorem report_deliver (raw : RawPayload) (b : Bridge) : (b.deliver raw).report = b.report := by
  cases hopen : b.terminal || b.cancelled with
  | true => rw [deliver_dropped hopen]
  | false =>
    obtain ⟨hterminal, hcancelled⟩ := Bool.or_eq_false_iff.1 hopen
    obtain ⟨_, _, _, hpush⟩ := pushAll_frame (eventsAfter b.text [raw]) (b.remember raw)
    rw [deliver_eq hterminal hcancelled, hpush]
    rfl

theorem report_request (call : CallId) (b : Bridge) : (b.request call).1.report = b.report := by
  unfold request
  split
  · rfl
  · split
    · rfl
    · split
      · rename_i e rest _
        obtain ⟨finished, hconsume⟩ := consume_frame e { b with queue := rest }
        rw [hconsume]
        rfl
      · rfl

theorem report_forget (call : CallId) (b : Bridge) : (b.forget call).report = b.report := by
  unfold forget
  split
  · split <;> rfl
  · rfl

theorem report_resume (call : CallId) (b : Bridge) : (b.resume call).1.report = b.report := by
  rcases resume_frame call b with ⟨finished, hresume⟩ | hresume
  · rw [hresume]
    rfl
  · rw [hresume, report_forget]

theorem report_abandon (call : CallId) (b : Bridge) : (b.abandon call).report = b.report := by
  unfold abandon
  split <;> rfl

/-- A bridge whose cancellation is reported to a hook just once, if there is one, and closes it. -/
structure Reported (hook : Bool) (b : Bridge) : Prop where
  report : b.report = (b.cancelled, b.cancelled, hook, if b.cancelled && hook then 1 else 0)
  closed : b.cancelled = true → b.Closed

/-- A bridge that keeps its report of no cancellation. -/
theorem Reported.of_report {hook : Bool} {b b' : Bridge} (h : b.Reported hook)
    (hb : b.cancelled = false) (hreport : b'.report = b.report) : b'.Reported hook := by
  have hcancelled : b'.cancelled = b.cancelled := congrArg Prod.fst hreport
  refine ⟨?_, ?_⟩
  · rw [hreport, h.report, hcancelled]
  · intro hb'
    rw [hcancelled, hb] at hb'
    contradiction

theorem Reported.cancel {hook : Bool} {b : Bridge} (h : b.Reported hook) :
    b.cancel.Reported hook ∧ b.cancel.Closed ∧ b.cancel.text = b.text := by
  cases hb : b.cancelled with
  | true =>
    rw [(h.closed hb).cancel]
    exact ⟨h, h.closed hb, rfl⟩
  | false =>
    have hreport := h.report
    simp only [Bridge.report, hb, Bool.false_and, Bool.false_eq_true, if_false, Prod.mk.injEq,
      true_and] at hreport
    obtain ⟨-, hhook, hruns⟩ := hreport
    have hclosed := closed_cancel hb
    refine ⟨⟨?_, fun _ => hclosed⟩, hclosed, by simp [Bridge.cancel, hb]⟩
    cases hook <;> simp [Bridge.cancel, Bridge.report, hb, hhook, hruns]

end Bridge

namespace World

/-! ## Moves of a stream that is cancelled -/

/-- Whether a move cancels the stream, or finds it cancelled. -/
def cancelledBy (w : World) : Move → Bool
  | .act .cancel => true
  | .leave => !w.bridge.finished
  | _ => false

variable {w : World}

/-- After a cancellation nothing in the bridge changes but which answers are on their way. -/
theorem closed_move (h : w.bridge.Closed) (m : Move) :
    ∃ handed, (w.move m).bridge = { w.bridge with handed } := by
  cases m with
  | leave => exact ⟨w.bridge.handed, h.leave⟩
  | act a =>
    cases a with
    | push raw => exact ⟨w.bridge.handed, h.deliver raw⟩
    | post raw => exact ⟨w.bridge.handed, rfl⟩
    | takeIn =>
      refine ⟨w.bridge.handed, ?_⟩
      cases hposted : w.posted with
      | nil => simp [move, next, hposted]
      | cons raw rest => simpa [move, next, hposted, deliver] using h.deliver raw
    | ask =>
      refine ⟨w.bridge.handed, ?_⟩
      simp [move, next, bridge_ask, h.request]
    | goOn call => exact h.resume call
    | abandon call => exact h.abandon call
    | cancel => exact ⟨w.bridge.handed, h.cancel⟩

/-- Until its cancellation a stream keeps its report, and then it is closed. -/
theorem reported_move {hook : Bool} (w : World) (m : Move) (h : w.bridge.Reported hook) :
    (w.move m).bridge.Reported hook := by
  cases hcancelled : w.bridge.cancelled with
  | true =>
    obtain ⟨handed, hmove⟩ := closed_move (h.closed hcancelled) m
    rw [hmove]
    exact ⟨h.report, fun _ => (h.closed hcancelled).withHanded handed⟩
  | false =>
    cases m with
    | leave =>
      show (w.bridge.leave).Reported hook
      unfold Bridge.leave
      split
      · exact h
      · exact h.cancel.1
    | act a =>
      cases a with
      | push raw => exact h.of_report hcancelled (Bridge.report_deliver raw w.bridge)
      | post raw => exact h
      | takeIn =>
        cases hposted : w.posted with
        | nil => simpa [move, next, hposted] using h
        | cons raw rest =>
          have hdeliver := h.of_report hcancelled (Bridge.report_deliver raw w.bridge)
          simpa [move, next, hposted, deliver] using hdeliver
      | ask =>
        have hask := h.of_report hcancelled (Bridge.report_request w.begun w.bridge)
        simpa [move, next, bridge_ask] using hask
      | goOn call => exact h.of_report hcancelled (Bridge.report_resume call w.bridge)
      | abandon call => exact h.of_report hcancelled (Bridge.report_abandon call w.bridge)
      | cancel => exact h.cancel.1

end World

/-! ## The calls after a cancellation -/

/-- A world some time after another one whose stream is cancelled: of the bridge only the answers on
their way have changed, and the calls that have begun since then have returned nothing, at once. -/
structure Since (cancelled w : World) : Prop where
  bridge : ∃ handed, w.bridge = { cancelled.bridge with handed }
  registered : Registered w
  begun : cancelled.begun ≤ w.begun
  pending : ∀ call ∈ w.pending, call < cancelled.begun
  answers : ∀ x ∈ w.answers, cancelled.begun ≤ x.1 → x.2 = .ended

/-- A call that waited when the stream was cancelled: nothing is on its way to it, or it has returned
nothing. -/
inductive Released (call : CallId) (w : World) : Prop where
  | going (hp : call ∈ w.pending) (hs : call ∈ w.bridge.served)
      (hh : ∀ x ∈ w.bridge.handed, x.call = call → x = ⟨call, none, false⟩)
  | gone (hp : call ∉ w.pending) (hb : call < w.begun)
      (ha : w.answers.filter (·.1 == call) = [(call, .ended)])

/-- Of a world only its calls and what is on its way to them count. -/
theorem Released.congr {call : CallId} {w w' : World} (h : Released call w)
    (hp : w'.pending = w.pending) (hb : w'.begun = w.begun) (ha : w'.answers = w.answers)
    (hh : w'.bridge.handed = w.bridge.handed) : Released call w' := by
  cases h with
  | going hpending hserved hnothing =>
    refine .going (hp ▸ hpending) ?_ (hh ▸ hnothing)
    rw [Bridge.served, hh]
    exact hserved
  | gone hpending hbegun hanswers => exact .gone (hp ▸ hpending) (hb ▸ hbegun) (ha ▸ hanswers)

/-- A call that goes on takes away just its own answers. -/
theorem Bridge.handed_resume (call : CallId) (b : Bridge) :
    (b.resume call).1.handed = b.handed.filter (·.call != call) := by
  by_cases hserved : call ∈ b.served
  · obtain ⟨finished, hresume⟩ := resume_of_served hserved
    rw [hresume]
  · have hall : b.handed.filter (·.call != call) = b.handed := by
      rw [List.filter_eq_self]
      intro x hx
      simp only [bne_iff_ne, ne_eq]
      rintro rfl
      exact hserved (List.mem_map_of_mem hx)
    rw [resume_of_not_served hserved, hall]
    unfold forget
    split
    · split <;> rfl
    · rfl

/-- A call to which nothing is on its way returns nothing when it goes on. -/
theorem Bridge.resume_of_nothing {b : Bridge} {call : CallId} (hs : call ∈ b.served)
    (hh : ∀ x ∈ b.handed, x.call = call → x = ⟨call, none, false⟩) :
    b.resume call = ({ b with handed := b.handed.filter (·.call != call) }, .ended) := by
  have hfound : (b.handed.find? (·.call == call)).isSome = true := by simpa [served] using hs
  obtain ⟨x, hx⟩ := Option.isSome_iff_exists.1 hfound
  have hcall : x.call = call := by simpa using List.find?_some hx
  obtain rfl := hh x (List.mem_of_find?_eq_some hx) hcall
  simp [resume, hx]

namespace World

variable {w : World}

theorem ask_closed (h : w.bridge.Closed) :
    w.ask = { w with begun := w.begun + 1, answers := w.answers ++ [(w.begun, .ended)] } := by
  simp [ask, h.request]

theorem since_move {cancelled : World} (hclosed : cancelled.bridge.Closed) (w : World) (m : Move)
    (hcan : w.allows m = true) (h : Since cancelled w) : Since cancelled (w.move m) := by
  obtain ⟨handed, hbridge⟩ := h.bridge
  have hclosed' : w.bridge.Closed := hbridge ▸ hclosed.withHanded handed
  have hmoved : ∃ handed, (w.move m).bridge = { cancelled.bridge with handed } := by
    obtain ⟨handed', hmove⟩ := closed_move hclosed' m
    exact ⟨handed', by rw [hmove, hbridge]⟩
  have hregistered := registered_move w m hcan h.registered
  cases m with
  | leave => exact ⟨hmoved, hregistered, h.begun, h.pending, h.answers⟩
  | act a =>
    cases a with
    | ask =>
      refine ⟨hmoved, hregistered, ?_, ?_, ?_⟩ <;> simp only [move, next, ask_closed hclosed']
      · exact Nat.le_succ_of_le h.begun
      · exact h.pending
      · intro x hx hlate
        rw [List.mem_append, List.mem_singleton] at hx
        rcases hx with hx | rfl
        · exact h.answers x hx hlate
        · rfl
    | goOn call =>
      simp only [allows, Bool.and_eq_true, List.contains_iff_mem] at hcan
      refine ⟨hmoved, hregistered, h.begun, ?_, ?_⟩
      · intro other hother
        exact h.pending other (List.mem_filter.1 hother).1
      · intro x hx hlate
        simp only [move, next, goOn, List.mem_append, List.mem_singleton] at hx
        rcases hx with hx | rfl
        · exact h.answers x hx hlate
        · -- only a call from before the cancellation can still go on
          exact absurd (h.pending call hcan.1) (Nat.not_lt.2 hlate)
    | takeIn =>
      cases hposted : w.posted with
      | nil => simpa [move, next, hposted] using h
      | cons raw rest =>
        simp only [move, next, hposted] at hmoved hregistered ⊢
        exact ⟨hmoved, hregistered, h.begun, h.pending, h.answers⟩
    | _ => exact ⟨hmoved, hregistered, h.begun, h.pending, h.answers⟩

theorem released_goOn {call other : CallId} (hregistered : Registered w)
    (hcan : w.allows (.act (.goOn other)) = true) (h : Released call w) :
    Released call (w.goOn other) := by
  simp only [allows, Bool.and_eq_true, List.contains_iff_mem] at hcan
  cases h with
  | going hp hs hh =>
    by_cases hsame : other = call
    · -- the call itself goes on, and has not returned before
      subst hsame
      obtain ⟨hbegun, hnot⟩ := hregistered.pending other hp
      have hnone : w.answers.filter (·.1 == other) = [] := by
        rw [List.filter_eq_nil_iff]
        intro x hx
        simpa using hnot x hx
      refine .gone (by simp [goOn]) hbegun ?_
      simp [goOn, Bridge.resume_of_nothing hs hh, hnone]
    · have hhanded : (w.goOn other).bridge.handed = w.bridge.handed.filter (·.call != other) :=
        Bridge.handed_resume other w.bridge
      have hother : call ≠ other := Ne.symm hsame
      refine .going (by simp [goOn, hp, hother]) ?_ ?_
      · rw [Bridge.served, hhanded]
        obtain ⟨x, hx, hcall⟩ := List.mem_map.1 hs
        refine List.mem_map.2 ⟨x, List.mem_filter.2 ⟨hx, ?_⟩, hcall⟩
        simpa [hcall] using hother
      · intro x hx
        rw [hhanded] at hx
        exact hh x (List.mem_filter.1 hx).1
  | gone hp hb ha =>
    have hne : (other == call) = false := by
      simp only [beq_eq_false_iff_ne, ne_eq]
      rintro rfl
      exact hp hcan.1
    refine .gone ?_ hb ?_
    · intro hmem
      exact hp (List.mem_filter.1 hmem).1
    · simp [goOn, ha, hne]

theorem released_abandon {call other : CallId} (hclosed : w.bridge.Closed) (hne : call ≠ other)
    (h : Released call w) : Released call { w with bridge := w.bridge.abandon other } := by
  have hnone : w.bridge.isWaiting other = false := by simp [Bridge.isWaiting, hclosed.waiter]
  have hhanded : (w.bridge.abandon other).handed =
      w.bridge.handed.map fun x => if x.call = other then { x with abandoned := true } else x := by
    simp [Bridge.abandon, hnone]
  cases h with
  | gone hp hb ha => exact .gone hp hb ha
  | going hp hs hh =>
    -- the mark is set at other calls only
    have hkept : ∀ x ∈ (w.bridge.abandon other).handed, x.call = call → x ∈ w.bridge.handed := by
      intro x hx hcall
      rw [hhanded] at hx
      obtain ⟨y, hy, rfl⟩ := List.mem_map.1 hx
      split at hcall
      · rename_i hy'
        exact absurd (hcall.symm.trans hy') hne
      · rename_i hy'
        rwa [if_neg hy']
    refine .going hp ?_ (fun x hx hcall => hh x (hkept x hx hcall) hcall)
    obtain ⟨x, hx, hcall⟩ := List.mem_map.1 hs
    show call ∈ (w.bridge.abandon other).handed.map (·.call)
    rw [hhanded]
    refine List.mem_map.2 ⟨x, List.mem_map.2 ⟨x, hx, ?_⟩, hcall⟩
    rw [if_neg (by rw [hcall]; exact hne)]

/-- A call that was released stays so, unless it is abandoned before it goes on. -/
theorem released_move {call : CallId} (hclosed : w.bridge.Closed) (hregistered : Registered w)
    {m : Move} (hcan : w.allows m = true) (hkept : m ≠ .act (.abandon call))
    (h : Released call w) : Released call (w.move m) := by
  cases m with
  | leave => exact h.congr rfl rfl rfl (by simp only [move, hclosed.leave])
  | act a =>
    cases a with
    | push raw => exact h.congr rfl rfl rfl (by simp only [move, next, deliver, hclosed.deliver])
    | post raw => exact h.congr rfl rfl rfl rfl
    | takeIn =>
      cases hposted : w.posted with
      | nil => simpa [move, next, hposted] using h
      | cons raw rest =>
        simp only [move, next, hposted, deliver, hclosed.deliver]
        exact h.congr rfl rfl rfl rfl
    | ask =>
      simp only [move, next, ask_closed hclosed]
      cases h with
      | going hp hs hh => exact .going hp hs hh
      | gone hp hb ha =>
        refine .gone hp (Nat.lt_succ_of_lt hb) ?_
        have hnew : (w.begun == call) = false := by simpa using (Nat.ne_of_lt hb).symm
        simp [ha, hnew]
    | goOn other => exact released_goOn hregistered hcan h
    | abandon other =>
      have hne : call ≠ other := by
        rintro rfl
        exact hkept rfl
      exact released_abandon hclosed hne h
    | cancel => exact h.congr rfl rfl rfl (by simp only [move, next, hclosed.cancel])

/-! ## Every run -/

/-- A move that cancels the stream ends it on the bridge. -/
theorem move_of_cancelledBy {m : Move} (h : w.cancelledBy m = true) :
    w.move m = { w with bridge := w.bridge.cancel } := by
  cases m with
  | leave =>
    have hopen : w.bridge.finished = false := by simpa [cancelledBy] using h
    simp [move, Bridge.leave, hopen]
  | act a =>
    cases a with
    | cancel => rfl
    | _ => simp [cancelledBy] at h

/-- The call that waits when the stream is cancelled is released. -/
theorem released_of_cancel {call : CallId} (hregistered : Registered w)
    (hlive : w.bridge.cancelled = false) (hw : w.bridge.waiter = some ⟨call, false⟩) :
    Released call { w with bridge := w.bridge.cancel } := by
  have hhanded : w.bridge.cancel.handed = w.bridge.handed ++ [⟨call, none, false⟩] := by
    simp [Bridge.cancel, hlive, hw]
  obtain ⟨hpending, hnot⟩ := hregistered.waiter _ hw
  refine .going hpending ?_ ?_
  · show call ∈ w.bridge.cancel.handed.map (·.call)
    rw [hhanded]
    simp
  · intro x hx hcall
    have hmem : x ∈ w.bridge.cancel.handed := hx
    rw [hhanded, List.mem_append, List.mem_singleton] at hmem
    rcases hmem with hold | hnew
    · exact absurd (List.mem_map.2 ⟨x, hold, hcall⟩) hnot
    · exact hnew

theorem since_of_cancel (hregistered : Registered w) :
    Since { w with bridge := w.bridge.cancel } { w with bridge := w.bridge.cancel } := by
  refine ⟨⟨_, rfl⟩, registered_passes hregistered (Bridge.passes_cancel w.bridge),
    Nat.le_refl _, ?_, ?_⟩
  · intro call hcall
    exact (hregistered.pending call hcall).1
  · intro x hx hlate
    exact absurd (hregistered.answers x hx) (Nat.not_lt.2 hlate)

theorem reported_start (hook : Bool) : (start hook).bridge.Reported hook :=
  ⟨rfl, fun h => by contradiction⟩

/-- Whatever has happened around a stream before, once it has been cancelled, or left before its end,
and whatever happens then: nothing is queued and no call waits, the text is the one that was known, the
marks of the end and of the cancellation and the stop signal stay set, and the cancellation has been
reported once. A call that begins returns nothing at once and leaves the bridge as it is, as all have
done that have begun since then. The call that waited returns nothing, unless it is abandoned. -/
theorem nothing_after_cancellation {hook : Bool} {before later : List Move} {last : Move}
    {w w' : World} (hbefore : moves before (start hook) = some w)
    (hcancels : w.cancelledBy last = true) (hlater : moves later (w.move last) = some w') :
    w'.bridge.queue = [] ∧ w'.bridge.waiter = none ∧ w'.bridge.text = w.bridge.text ∧
    w'.bridge.finished = true ∧ w'.bridge.cancelled = true ∧ w'.bridge.stopSignal = true ∧
    w'.bridge.hookRuns = (if hook then 1 else 0) ∧
    (∀ call, w'.bridge.request call = (w'.bridge, .ended)) ∧
    (∀ x ∈ w'.answers, w.begun ≤ x.1 → x.2 = .ended) ∧ (∀ call ∈ w'.pending, call < w.begun) ∧
    ∀ call, w.bridge.waiter = some ⟨call, false⟩ → .act (.abandon call) ∉ later →
      (call ∈ w'.pending ∧ w'.allows (.act (.goOn call)) = true ∧
        (w'.bridge.resume call).2 = .ended) ∨
      w'.answers.filter (·.1 == call) = [(call, .ended)] := by
  have hreported : w.bridge.Reported hook :=
    moves_invariant (fun m _ w _ => reported_move w m) hbefore (reported_start hook)
  have hregistered : Registered w :=
    moves_invariant (fun m _ w => registered_move w m) hbefore (registered_start hook)
  obtain ⟨hreport, hclosed, htext⟩ := hreported.cancel
  rw [move_of_cancelledBy hcancels] at hlater
  have hsince : Since { w with bridge := w.bridge.cancel } w' :=
    moves_invariant (fun m _ w => since_move hclosed w m) hlater (since_of_cancel hregistered)
  obtain ⟨handed, hbridge⟩ := hsince.bridge
  have hclosed' : w'.bridge.Closed := hbridge ▸ hclosed.withHanded handed
  refine ⟨hclosed'.queue, hclosed'.waiter, ?_, hclosed'.finished, hclosed'.cancelled,
    hclosed'.stopSignal, ?_, hclosed'.request, hsince.answers, hsince.pending, ?_⟩
  · rw [hbridge]
    exact htext
  · have hruns : w.bridge.cancel.hookRuns = if w.bridge.cancel.cancelled && hook then 1 else 0 :=
      congrArg (fun report => report.2.2.2) hreport.report
    rw [hclosed.cancelled, Bool.true_and] at hruns
    rw [hbridge]
    exact hruns
  · intro call hw hkept
    have hlive : w.bridge.cancelled = false := by
      cases hcancelled : w.bridge.cancelled with
      | false => rfl
      | true =>
        rw [(hreported.closed hcancelled).waiter] at hw
        contradiction
    -- the run keeps both at once, since what becomes of the call rests on the closed bridge
    have hstep : ∀ m ∈ later, ∀ v, v.allows m = true →
        Since { w with bridge := w.bridge.cancel } v ∧ Released call v →
        Since { w with bridge := w.bridge.cancel } (v.move m) ∧ Released call (v.move m) := by
      rintro m hm v hcan ⟨hv, hreleased⟩
      obtain ⟨_, hv'⟩ := hv.bridge
      have hclosedv : v.bridge.Closed := hv' ▸ hclosed.withHanded _
      have hother : m ≠ .act (.abandon call) := by
        rintro rfl
        exact hkept hm
      exact ⟨since_move hclosed v m hcan hv,
        released_move hclosedv hv.registered hcan hother hreleased⟩
    obtain ⟨-, hreleased⟩ := moves_invariant hstep hlater
      ⟨since_of_cancel hregistered, released_of_cancel hregistered hlive hw⟩
    cases hreleased with
    | going hp hs hh =>
      left
      have hready : w'.bridge.isWaiting call = false := by
        simp [Bridge.isWaiting, hclosed'.waiter]
      refine ⟨hp, by simp [allows, hp, hready], ?_⟩
      rw [Bridge.resume_of_nothing hs hh]
    | gone hp hb ha => exact Or.inr ha

/-- A text is read, the next call waits, and the consumer leaves. Then a payload comes, another call
begins, the stream is cancelled again, and the call that waited goes on. -/
def leftWaiting : List Move :=
  [.act .ask, .act (.push (some "a")), .act (.goOn 0), .act .ask]

/-- What happens after the consumer has left. -/
def afterLeaving : List Move :=
  [.act (.push (some "ab")), .act .ask, .act .cancel, .act (.goOn 1), .leave]

theorem nothing_after_cancellation_leftWaiting :
    ∃ w w', moves leftWaiting (start true) = some w ∧ w.cancelledBy .leave = true ∧
      moves afterLeaving (w.move .leave) = some w' ∧ w.bridge.waiter = some ⟨1, false⟩ ∧
      w'.bridge.text = "a".toList ∧ w'.bridge.hookRuns = 1 ∧
      w'.answers = [(0, .event (.textDelta "a")), (2, .ended), (1, .ended)] ∧
      ∀ call, w'.bridge.request call = (w'.bridge, .ended) := by
  refine ⟨_, _, rfl, rfl, rfl, rfl, rfl, rfl, rfl, ?_⟩
  exact (@nothing_after_cancellation true leftWaiting afterLeaving .leave _ _ rfl rfl rfl).2.2.2.2.2.2.2.1

end World

end Dialogue.Stream
