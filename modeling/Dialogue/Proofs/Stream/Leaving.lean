import Dialogue.Proofs.Stream.Exclusion

/-!
# Dialogue.Proofs.Stream.Leaving — streams that may be left at any time

A stream is ended from the consumer's side by a cancellation, or by leaving it before it has ended.
This may come at any time: calls may overlap or be abandoned, events may be queued or on their way,
the end may have been seen. A `Move` is whatever can happen around such a stream.

* `Bridge.Passes` — what an operation does to the calls of a bridge that begins and ends none;
* `Registered` — every call has a number of its own, and the call that waits has no answer yet;
  `registered_move` keeps it in every move.
-/

namespace Dialogue.Stream

/-- What happens next around a stream that may be left. -/
inductive Move where
  | act (a : Act)
  /-- The consumer leaves the stream, which cancels it unless it has ended. -/
  | leave
deriving DecidableEq, Repr

namespace World

/-- A world whose stream may report a cancellation. -/
def start (hook : Bool) : World := { bridge := { hasHook := hook } }

/-- Whether a move is possible: a call that has not returned goes on once it does not wait any more,
be it answered, abandoned, or both. -/
def allows (w : World) : Move → Bool
  | .act (.goOn call) => w.pending.contains call && !w.bridge.isWaiting call
  | .act a => w.can a
  | .leave => true

/-- The world after a move. -/
def move (w : World) : Move → World
  | .act a => w.next a
  | .leave => { w with bridge := w.bridge.leave }

/-- The world after moves that are all possible. -/
def moves : List Move → World → Option World
  | [], w => some w
  | m :: rest, w => if w.allows m then moves rest (w.move m) else none

/-- What every possible move of a run keeps, the run keeps. -/
theorem moves_invariant {inv : World → Prop} {ms : List Move}
    (hstep : ∀ m ∈ ms, ∀ w, w.allows m = true → inv w → inv (w.move m)) {w w' : World}
    (h : moves ms w = some w') (hw : inv w) : inv w' := by
  induction ms generalizing w with
  | nil =>
    simp only [moves, Option.some.injEq] at h
    exact h ▸ hw
  | cons m rest ih =>
    simp only [moves, Option.ite_none_right_eq_some] at h
    rw [List.forall_mem_cons] at hstep
    exact ih hstep.2 h.2 (hstep.1 w h.1 hw)

end World

/-! ## Calls and their numbers -/

/-- What an operation that begins and ends no call does to the calls of a bridge: the wait may end, and
the call that waited may be handed an answer then. -/
structure Bridge.Passes (b b' : Bridge) : Prop where
  waiter : ∀ x, b'.waiter = some x → ∃ y, b.waiter = some y ∧ y.call = x.call
  served : ∀ call ∈ b'.served,
    call ∈ b.served ∨ b'.waiter = none ∧ ∃ y, b.waiter = some y ∧ y.call = call

namespace Bridge

theorem Passes.of_eq {b b' : Bridge} (hw : b'.waiter = b.waiter) (hh : b'.handed = b.handed) :
    b.Passes b' := by
  refine ⟨?_, ?_⟩
  · intro x hx
    exact ⟨x, hw ▸ hx, rfl⟩
  · intro call hcall
    rw [Bridge.served, hh] at hcall
    exact Or.inl hcall

theorem Passes.trans {b b' b'' : Bridge} (h : b.Passes b') (h' : b'.Passes b'') : b.Passes b'' := by
  refine ⟨?_, ?_⟩
  · intro x hx
    obtain ⟨y, hy, hyx⟩ := h'.waiter x hx
    obtain ⟨z, hz, hzy⟩ := h.waiter y hy
    exact ⟨z, hz, hzy.trans hyx⟩
  · intro call hcall
    rcases h'.served call hcall with hserved | ⟨hnone, y, hy, rfl⟩
    · rcases h.served call hserved with hserved | ⟨hnone, hwaited⟩
      · exact Or.inl hserved
      · refine Or.inr ⟨?_, hwaited⟩
        -- a wait of the last bridge would be one of the middle bridge
        cases hw : b''.waiter with
        | none => rfl
        | some x =>
          obtain ⟨y, hy, -⟩ := h'.waiter x hw
          rw [hnone] at hy
          contradiction
    · exact Or.inr ⟨hnone, h.waiter y hy⟩

/-- An answer for the call that waits ends its wait. -/
theorem passes_answer {b b' : Bridge} {x : Waiter} {answer : Handed} (hw : b.waiter = some x)
    (hcall : answer.call = x.call) (hw' : b'.waiter = none) (hh : b'.handed = b.handed ++ [answer]) :
    b.Passes b' := by
  refine ⟨?_, ?_⟩
  · intro y hy
    rw [hw'] at hy
    contradiction
  · intro call hmem
    rw [served, hh, List.map_append, List.mem_append] at hmem
    rcases hmem with hmem | hmem
    · exact Or.inl hmem
    · have hsame : call = answer.call := by simpa using hmem
      exact Or.inr ⟨hw', x, hw, by rw [hsame, hcall]⟩

theorem passes_push (e : Event) (b : Bridge) : b.Passes (b.push e) := by
  unfold push
  split
  · rename_i call hw
    exact passes_answer hw rfl rfl rfl
  · exact .of_eq rfl rfl

theorem passes_deliver (raw : RawPayload) (b : Bridge) : b.Passes (b.deliver raw) := by
  have hpush : ∀ (es : List Event) (b : Bridge), b.Passes (b.pushAll es) := by
    intro es
    induction es with
    | nil => exact fun b => .of_eq rfl rfl
    | cons e rest ih => exact fun b => (passes_push e b).trans (ih (b.push e))
  cases hopen : b.terminal || b.cancelled with
  | true =>
    rw [deliver_dropped hopen]
    exact .of_eq rfl rfl
  | false =>
    obtain ⟨hterminal, hcancelled⟩ := Bool.or_eq_false_iff.1 hopen
    rw [deliver_eq hterminal hcancelled]
    have hremember : b.Passes (b.remember raw) := .of_eq rfl rfl
    exact hremember.trans (hpush _ _)

theorem passes_abandon (call : CallId) (b : Bridge) : b.Passes (b.abandon call) := by
  unfold abandon
  split
  · rename_i hwaits
    have hw : b.waiter = some ⟨call, false⟩ := by simpa [isWaiting] using hwaits
    refine ⟨?_, fun other hother => Or.inl hother⟩
    intro x hx
    obtain rfl : (⟨call, true⟩ : Waiter) = x := Option.some.inj hx
    exact ⟨_, hw, rfl⟩
  · refine ⟨fun x hx => ⟨x, hx, rfl⟩, ?_⟩
    intro other hother
    left
    -- the mark of an abandoned call leaves its number
    have hcalls : (b.handed.map fun h => if h.call = call then { h with abandoned := true } else h).map
        (·.call) = b.handed.map (·.call) := by
      rw [List.map_map]
      refine List.map_congr_left ?_
      intro x _
      simp only [Function.comp_apply]
      split <;> rfl
    rw [served, hcalls] at hother
    exact hother

theorem passes_cancel (b : Bridge) : b.Passes b.cancel := by
  unfold cancel
  split
  · exact .of_eq rfl rfl
  · cases hw : b.waiter with
    | none => exact ⟨by simp, fun call hcall => Or.inl hcall⟩
    | some x =>
      obtain ⟨call, abandoned⟩ := x
      cases abandoned with
      | false => exact passes_answer hw rfl rfl rfl
      | true => exact ⟨by simp, fun call hcall => Or.inl hcall⟩

theorem passes_leave (b : Bridge) : b.Passes b.leave := by
  unfold leave
  split
  · exact .of_eq rfl rfl
  · exact passes_cancel b

/-- A call that has no answer gives up its wait when it goes on. -/
theorem resume_of_not_served {b : Bridge} {call : CallId} (h : call ∉ b.served) :
    b.resume call = (b.forget call, .abandoned) := by
  have hnone : b.handed.find? (·.call == call) = none := by
    rw [List.find?_eq_none]
    intro x hx hcall
    refine h (List.mem_map.2 ⟨x, hx, ?_⟩)
    simpa using hcall
  rw [resume, hnone]

/-- A call that goes on leaves neither a wait nor an answer behind. -/
theorem resume_calls {b : Bridge} {call : CallId}
    (h : ∀ x, b.waiter = some x → x.call ∉ b.served) :
    (∀ x, (b.resume call).1.waiter = some x → b.waiter = some x ∧ x.call ≠ call) ∧
      ∀ other ∈ (b.resume call).1.served, other ∈ b.served ∧ other ≠ call := by
  by_cases hserved : call ∈ b.served
  · obtain ⟨finished, hresume⟩ := resume_of_served hserved
    rw [hresume]
    refine ⟨?_, ?_⟩
    · intro x hx
      refine ⟨hx, ?_⟩
      rintro rfl
      exact h x hx hserved
    · intro other hother
      obtain ⟨x, hx, rfl⟩ := List.mem_map.1 hother
      obtain ⟨hmem, hne⟩ := List.mem_filter.1 hx
      exact ⟨List.mem_map_of_mem hmem, by simpa using hne⟩
  · rw [resume_of_not_served hserved]
    unfold forget
    cases hw : b.waiter with
    | none =>
      refine ⟨fun x hx => ?_, fun other hother => ⟨hother, ?_⟩⟩
      · simp [hw] at hx
      · rintro rfl
        exact hserved hother
    | some y =>
      simp only
      split
      · refine ⟨by simp, fun other hother => ⟨hother, ?_⟩⟩
        rintro rfl
        exact hserved hother
      · rename_i hne
        refine ⟨fun x hx => ?_, fun other hother => ⟨hother, ?_⟩⟩
        · obtain rfl : y = x := Option.some.inj (hw.symm.trans hx)
          exact ⟨rfl, hne⟩
        · rintro rfl
          exact hserved hother

end Bridge

/-- Every call has a number of its own: the calls that have not returned are not among those that
have, an answer on its way is for one of the former, and the call that waits has none. -/
structure Registered (w : World) : Prop where
  waiter : ∀ x, w.bridge.waiter = some x → x.call ∈ w.pending ∧ x.call ∉ w.bridge.served
  served : ∀ call ∈ w.bridge.served, call ∈ w.pending
  pending : ∀ call ∈ w.pending, call < w.begun ∧ ∀ x ∈ w.answers, x.1 ≠ call
  answers : ∀ x ∈ w.answers, x.1 < w.begun

namespace World

variable {w : World}

theorem registered_passes (h : Registered w) {b : Bridge} (hb : w.bridge.Passes b) :
    Registered { w with bridge := b } := by
  refine ⟨?_, ?_, h.pending, h.answers⟩
  · intro x hx
    obtain ⟨y, hy, hyx⟩ := hb.waiter x hx
    obtain ⟨hpending, hnot⟩ := h.waiter y hy
    rw [hyx] at hpending hnot
    refine ⟨hpending, ?_⟩
    intro hserved
    rcases hb.served x.call hserved with hold | ⟨hnone, -⟩
    · exact hnot hold
    · have hx' : b.waiter = some x := hx
      rw [hnone] at hx'
      contradiction
  · intro call hcall
    rcases hb.served call hcall with hold | ⟨-, y, hy, rfl⟩
    · exact h.served call hold
    · exact (h.waiter y hy).1

/-- A call that returns at once is new. -/
theorem registered_snoc (h : Registered w) {b : Bridge} (hb : w.bridge.Passes b)
    (a : Bridge.Answer) :
    Registered { w with
      bridge := b, begun := w.begun + 1, answers := w.answers ++ [(w.begun, a)] } := by
  have hpassed := registered_passes h hb
  refine ⟨hpassed.waiter, hpassed.served, ?_, ?_⟩
  · intro call hcall
    obtain ⟨hbegun, hnot⟩ := h.pending call hcall
    refine ⟨Nat.lt_succ_of_lt hbegun, ?_⟩
    intro x hx
    rw [List.mem_append, List.mem_singleton] at hx
    rcases hx with hx | rfl
    · exact hnot x hx
    · exact (Nat.ne_of_lt hbegun).symm
  · intro x hx
    rw [List.mem_append, List.mem_singleton] at hx
    rcases hx with hx | rfl
    · exact Nat.lt_succ_of_lt (h.answers x hx)
    · exact Nat.lt_succ_self w.begun

theorem registered_ask (h : Registered w) : Registered w.ask := by
  cases hw : w.bridge.waiter with
  | some x =>
    rw [ask_busy hw]
    exact registered_snoc h (.of_eq rfl rfl) .busy
  | none =>
    rcases Bridge.request_cases hw w.begun with ⟨-, hreq⟩ | ⟨-, -, hreq⟩ |
      ⟨-, e, rest, finished, a, -, hreq, -, hne⟩
    · simp only [ask, hreq, reduceCtorEq, if_false]
      exact registered_snoc h (.of_eq rfl rfl) .ended
    · -- the call waits
      simp only [ask, hreq, if_true]
      refine ⟨?_, ?_, ?_, ?_⟩
      · intro x hx
        obtain rfl : (⟨w.begun, false⟩ : Waiter) = x := Option.some.inj hx
        refine ⟨by simp, ?_⟩
        intro hserved
        exact Nat.lt_irrefl w.begun (h.pending _ (h.served _ hserved)).1
      · intro call hcall
        exact List.mem_append_left _ (h.served call hcall)
      · intro call hcall
        rw [List.mem_append, List.mem_singleton] at hcall
        rcases hcall with hcall | rfl
        · obtain ⟨hbegun, hnot⟩ := h.pending call hcall
          exact ⟨Nat.lt_succ_of_lt hbegun, hnot⟩
        · exact ⟨Nat.lt_succ_self w.begun, fun x hx => Nat.ne_of_lt (h.answers x hx)⟩
      · intro x hx
        exact Nat.lt_succ_of_lt (h.answers x hx)
    · have htaken : w.bridge.Passes { w.bridge with queue := rest, finished } := .of_eq rfl rfl
      simp only [ask, hreq, hne, if_false]
      exact registered_snoc h htaken a

/-- A call that goes on returns, and the others stay where they are. -/
theorem registered_goOn (h : Registered w) {call : CallId} (hcall : call ∈ w.pending) :
    Registered (w.goOn call) := by
  obtain ⟨hwaiter, hserved⟩ := Bridge.resume_calls fun x hx => (h.waiter x hx).2
  have hleft : ∀ other, other ∈ w.pending → other ≠ call → other ∈ (w.goOn call).pending := by
    intro other hother hne
    simp [goOn, hother, hne]
  refine ⟨?_, ?_, ?_, ?_⟩
  · intro x hx
    obtain ⟨hold, hne⟩ := hwaiter x hx
    obtain ⟨hpending, hnot⟩ := h.waiter x hold
    exact ⟨hleft _ hpending hne, fun hmem => hnot (hserved _ hmem).1⟩
  · intro other hother
    obtain ⟨hold, hne⟩ := hserved other hother
    exact hleft other (h.served other hold) hne
  · intro other hother
    obtain ⟨hold, hne⟩ : other ∈ w.pending ∧ other ≠ call := by simpa [goOn] using hother
    obtain ⟨hbegun, hnot⟩ := h.pending other hold
    refine ⟨hbegun, ?_⟩
    intro x hx
    rw [goOn, List.mem_append, List.mem_singleton] at hx
    rcases hx with hx | rfl
    · exact hnot x hx
    · exact hne.symm
  · intro x hx
    rw [goOn, List.mem_append, List.mem_singleton] at hx
    rcases hx with hx | rfl
    · exact h.answers x hx
    · exact (h.pending call hcall).1

theorem registered_move (w : World) (m : Move) (hcan : w.allows m = true) (h : Registered w) :
    Registered (w.move m) := by
  cases m with
  | leave => exact registered_passes h (Bridge.passes_leave w.bridge)
  | act a =>
    cases a with
    | push raw =>
      have hpassed := registered_passes h (Bridge.passes_deliver raw w.bridge)
      exact ⟨hpassed.waiter, hpassed.served, hpassed.pending, hpassed.answers⟩
    | post raw => exact ⟨h.waiter, h.served, h.pending, h.answers⟩
    | takeIn =>
      cases hposted : w.posted with
      | nil => simpa [move, next, hposted] using h
      | cons raw rest =>
        have hpassed := registered_passes h (Bridge.passes_deliver raw w.bridge)
        simp only [move, next, hposted]
        exact ⟨hpassed.waiter, hpassed.served, hpassed.pending, hpassed.answers⟩
    | ask => exact registered_ask h
    | goOn call =>
      simp only [allows, Bool.and_eq_true, List.contains_iff_mem] at hcan
      exact registered_goOn h hcan.1
    | abandon call => exact registered_passes h (Bridge.passes_abandon call w.bridge)
    | cancel => exact registered_passes h (Bridge.passes_cancel w.bridge)

theorem registered_start (hook : Bool) : Registered (start hook) :=
  ⟨by simp [start], by simp [start, Bridge.served], by simp [start], by simp [start]⟩

end World

end Dialogue.Stream
