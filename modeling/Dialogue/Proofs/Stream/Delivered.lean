import Dialogue.Proofs.Stream.Reader

/-!
# Dialogue.Proofs.Stream.Delivered — a reader of what has been delivered

When all payloads have been taken in before the first item is asked for, a `Reader` and a caller that
reads the queue in one go see the same: `exists_follows`. A caller with a limit closes the reader, one
that finds nothing more is interrupted, and after the end the closing events are given one by one
(`exists_moves_closing`).
-/

namespace Dialogue.Stream.Reader

variable {finale : List Char → List Event} {r : Reader}

/-- A reader takes in payloads. -/
theorem moves_push (finale : List Char → List Event) (raws : List RawPayload) (r : Reader) :
    moves finale (raws.map fun raw => .act (.push raw)) r = some { r with world := { r.world with
      bridge := r.world.bridge.deliverAll raws, delivered := r.world.delivered ++ raws } } := by
  induction raws generalizing r with
  | nil => simp [moves, Bridge.deliverAll]
  | cons raw rest ih =>
    rw [List.map_cons, moves, if_pos (by rfl), ih]
    simp [move, World.next, World.deliver, Bridge.deliverAll]

/-! ## Closing events -/

/-- A reader that gives closing events gives as many as it is asked for. -/
theorem moves_closing {rest : List Event} (hs : r.stage = .closing rest) (hp : r.world.pending = [])
    {n : Nat} (hn : n ≤ rest.length) :
    moves finale (List.replicate n .next) r =
      some { r with stage := .closing (rest.drop n), items := r.items ++ rest.take n } := by
  induction n generalizing r rest with
  | zero => simp [moves, ← hs]
  | succ n ih =>
    cases rest with
    | nil => simp at hn
    | cons e rest =>
      have hmove : r.move finale .next = { r with stage := .closing rest, items := r.items ++ [e] } := by
        simp [move, hs, give]
      rw [List.replicate_succ, moves, if_pos (by simp [allows, hp]), hmove,
        ih (r := { r with stage := .closing rest, items := r.items ++ [e] }) rfl hp
          (Nat.le_of_succ_le_succ hn)]
      simp

/-- A caller that wants more than it has been given before the closing events is given as many of them
as it wants. -/
theorem exists_moves_closing {limit : Option Nat} {before rest : List Event} {e : Event}
    (hs : r.stage = .closing rest) (hi : r.items = before ++ [e]) (hp : r.world.pending = [])
    (hf : r.world.bridge.finished = true) (hn : Reading.enough limit before.length = false) :
    ∃ ms r' ending, moves finale ms r = some r' ∧ r'.world = r.world ∧ r'.stage = .left ending ∧
      r'.items = Reading.cut limit (before ++ e :: rest) ∧
      (ending = .complete ∨ ending = .enough ∧ Reading.enough limit r'.items.length = true) := by
  have hgiven := @moves_closing finale r rest hs hp
  -- all of them are given to a caller that asks on
  have hall : ∃ r', moves finale (List.replicate rest.length .next ++ [.next]) r = some r' ∧
      r'.world = r.world ∧ r'.stage = .left .complete ∧ r'.items = before ++ e :: rest := by
    refine ⟨{ r with stage := .left .complete, items := before ++ e :: rest }, ?_, rfl, rfl, rfl⟩
    rw [moves_append (hgiven (Nat.le_refl _)), moves_cons (by simp [allows, hp])]
    simp [moves, move, give, leave, Bridge.leave, hf, hi]
  cases limit with
  | none =>
    obtain ⟨r', hmoves, hworld, hleft, hitems⟩ := hall
    exact ⟨_, r', .complete, hmoves, hworld, hleft, hitems, Or.inl rfl⟩
  | some n =>
    have hlt : before.length < n := by simpa [Reading.enough] using hn
    obtain ⟨k, rfl⟩ : ∃ k, n = before.length + (k + 1) := ⟨n - (before.length + 1), by omega⟩
    by_cases hfew : k ≤ rest.length
    · -- the caller closes the reader when it has enough
      have hcut : Reading.cut (some (before.length + (k + 1))) (before ++ e :: rest) =
          r.items ++ rest.take k := by
        simp [Reading.cut, List.take_length_add_append, hi]
      refine ⟨List.replicate k .next ++ [.close],
        { r with stage := .left .enough, items := r.items ++ rest.take k }, .enough, ?_, rfl, rfl,
        hcut.symm, Or.inr ⟨rfl, ?_⟩⟩
      · rw [moves_append (hgiven hfew), moves_cons (by simp [allows, hp])]
        simp [moves, move, leave, Bridge.leave, hf]
      · simp [Reading.enough, hi, hfew]
    · obtain ⟨r', hmoves, hworld, hleft, hitems⟩ := hall
      have hcut : Reading.cut (some (before.length + (k + 1))) (before ++ e :: rest) =
          before ++ e :: rest :=
        List.take_of_length_le (by simp; omega)
      exact ⟨_, r', .complete, hmoves, hworld, hleft, hitems.trans hcut.symm, Or.inl rfl⟩

/-! ## Reading in one go -/

/-- What has been read of a stream that has been delivered, against a reader. -/
inductive Follows (finale : List Char → List Event) (limit : Option Nat) (got : Reading Event)
    (r : Reader) : Prop where
  | closing (e : Event) (rest : List Event) (hg : got.ending = .complete)
      (hn : Reading.enough limit got.items.length = false)
      (he : finale got.bridge.text = e :: rest) (hs : r.stage = .closing rest)
      (hi : r.items = got.items ++ [e]) (hb : r.world.bridge = got.bridge)
      (hf : got.bridge.finished = true) (hp : r.world.pending = [])
  | left (handed : List Handed) (hg : got.ending ≠ .complete) (hs : r.stage = .left got.ending)
      (hi : r.items = got.items) (hb : got.bridge.leave = { r.world.bridge with handed })

/-- The events that a reader of a conversation keeps of the stream. -/
def keptDelta (e : Event) : Option Event := e.delta?.map .textDelta

/-- A reader that waits is left when an exception reaches it. -/
theorem moves_interrupt (hs : r.stage = .reading) (hp : r.world.pending = [])
    (hw : r.world.bridge.waiter = none) (hh : r.world.bridge.handed = [])
    (hf : r.world.bridge.finished = false) (hq : r.world.bridge.queue = []) :
    moves finale [.next, .act (.abandon r.world.begun), .act (.goOn r.world.begun)] r =
      some { r with
        stage := .left .pending
        world := { r.world with
          bridge := r.world.bridge.leave
          begun := r.world.begun + 1
          answers := r.world.answers ++ [(r.world.begun, .abandoned)] } } := by
  obtain ⟨world, stage, items⟩ := r
  obtain ⟨bridge, posted, delivered, pending, begun, answers⟩ := world
  obtain ⟨queue, waiter, handed, text, terminal, finished, cancelled, stopSignal, hasHook, hookRuns⟩ :=
    bridge
  subst hs hp hw hh hf hq
  simp [moves, allows, move, take, leave, World.can, World.next, World.ask, World.goOn, Bridge.request,
    Bridge.abandon, Bridge.isWaiting, Bridge.isReady, Bridge.resume, Bridge.forget]

section

variable {limit : Option Nat} {texts : List String} {calls : Nat} {e : Event} {rest : List Event}

/-- A reader is asked for an item while events are queued, and a call of the reader in one go is given
the same event. -/
theorem next_of_queue (hs : r.stage = .reading) (hp : r.world.pending = [])
    (hw : r.world.bridge.waiter = none) (hf : r.world.bridge.finished = false)
    (hq : r.world.bridge.queue = e :: rest) (more : List Move) :
    moves finale (.next :: more) r =
        moves finale more ({ r with world := r.world.ask }.take finale (Bridge.answerOf e)) ∧
      r.world.bridge.request Bridge.consumer = (r.world.ask.bridge, Bridge.answerOf e) := by
  have hrequest := Bridge.request_of_queue hw hf hq
  refine ⟨?_, by rw [World.ask_of_queue hw hf hq, hrequest]⟩
  rw [moves_cons (by simp [allows, hp])]
  simp [move, hs, hrequest]

/-- At the end the next call finds the stream over, and the reader gives the first closing event. -/
theorem follows_finished (hfinale : ∀ text, finale text ≠ []) (hs : r.stage = .reading)
    (hp : r.world.pending = []) (hw : r.world.bridge.waiter = none)
    (hf : r.world.bridge.finished = false) (hq : r.world.bridge.queue = .finished :: rest)
    (hn : Reading.enough limit r.items.length = false) :
    ∃ ms r', moves finale ms r = some r' ∧ r'.world.delivered = r.world.delivered ∧
      Follows finale limit (r.world.bridge.readLoop keptDelta limit (calls + 2) r.items) r' := by
  obtain ⟨first, more, hfirst⟩ := List.exists_cons_of_ne_nil (hfinale r.world.ask.bridge.text)
  obtain ⟨hmoves, hrequest⟩ := @next_of_queue finale r _ _ hs hp hw hf hq []
  have hask := World.ask_of_queue hw hf hq
  have hbridge : r.world.ask.bridge = { r.world.bridge with queue := rest, finished := true } := by
    rw [hask]
    rfl
  have hover : r.world.ask.bridge.request Bridge.consumer = (r.world.ask.bridge, .ended) := by
    rw [hbridge]
    simp [Bridge.request, hw]
  have hread : r.world.bridge.readLoop keptDelta limit (calls + 2) r.items =
      ⟨r.items, .complete, r.world.ask.bridge⟩ := by
    rw [Bridge.readLoop, hrequest]
    show r.world.ask.bridge.readLoop keptDelta limit (calls + 1) r.items = _
    rw [Bridge.readLoop, hover]
  rw [hread]
  refine ⟨[.next], { r with
      world := r.world.ask, stage := .closing more, items := r.items ++ [first] },
    ?_, (World.delivered_ask r.world).1, .closing first more rfl hn hfirst rfl rfl rfl (by rw [hbridge])
      (by rw [hask]; exact hp)⟩
  rw [hmoves]
  simp [moves, take, Bridge.answerOf, Event.finished, hfirst, give]

/-- A stream that fails is left. -/
theorem follows_error {message : String} (hs : r.stage = .reading) (hp : r.world.pending = [])
    (hw : r.world.bridge.waiter = none) (hf : r.world.bridge.finished = false)
    (hq : r.world.bridge.queue = .error message :: rest) :
    ∃ ms r', moves finale ms r = some r' ∧ r'.world.delivered = r.world.delivered ∧
      Follows finale limit (r.world.bridge.readLoop keptDelta limit (calls + 1) r.items) r' := by
  obtain ⟨hmoves, hrequest⟩ := @next_of_queue finale r _ _ hs hp hw hf hq []
  have hread : r.world.bridge.readLoop keptDelta limit (calls + 1) r.items =
      ⟨r.items, .failed message, r.world.ask.bridge⟩ := by
    rw [Bridge.readLoop, hrequest]
    rfl
  rw [hread]
  exact ⟨[.next], ({ r with world := r.world.ask } : Reader).leave (.failed message), hmoves,
    (World.delivered_ask r.world).1, .left r.world.ask.bridge.leave.handed (by simp) rfl rfl rfl⟩

/-- A reader that has been told all that came before its queue does what a caller does that reads the
queue to its end, or as far as it wants. -/
theorem exists_follows (hfinale : ∀ text, finale text ≠ []) (hs : r.stage = .reading)
    (hi : r.items = texts.map .textDelta) (hg : r.world.received = r.items) (ht : Told r.world)
    (hp : r.world.pending = []) (hn : Reading.enough limit r.items.length = false)
    (hcalls : r.world.bridge.queue.length ≤ calls) :
    ∃ ms r', moves finale ms r = some r' ∧ r'.world.delivered = r.world.delivered ∧
      Follows finale limit (r.world.bridge.readLoop keptDelta limit (calls + 1) r.items) r' := by
  generalize hq : r.world.bridge.queue = queue at hcalls
  induction queue generalizing r texts calls with
  | nil =>
    -- the reader waits, until an exception reaches it
    have hf := finished_of_reading ht (hg.trans hi)
    obtain ⟨hw, hh⟩ := (hp ▸ ht.stand).idle_of_nil
    have hread : r.world.bridge.readLoop keptDelta limit (calls + 1) r.items =
        ⟨r.items, .pending, { r.world.bridge with waiter := some ⟨Bridge.consumer, false⟩ }⟩ := by
      simp [Bridge.readLoop, Bridge.request, hw, hf, hq]
    rw [hread]
    refine ⟨_, _, @moves_interrupt finale r hs hp hw hh hf hq, rfl,
      .left [⟨Bridge.consumer, none, false⟩] (by simp) rfl rfl ?_⟩
    simp [Bridge.leave, Bridge.cancel, hf, hw, hh, ht.live]
  | cons e rest ih =>
    have hf := finished_of_reading ht (hg.trans hi)
    have hw := (hp ▸ ht.stand).idle_of_nil.1
    have hmem : e ∈ eventsAfter [] r.world.delivered := by
      rw [← ht.order]
      simp [hq]
    obtain ⟨calls, rfl⟩ : ∃ n, calls = n + 1 := ⟨calls - 1, by simp at hcalls; omega⟩
    rcases mem_eventsAfter hmem with ⟨delta, rfl⟩ | rfl | ⟨message, rfl⟩
    · -- a text is passed on, and the caller may have enough now
      let after : Reader := { r with world := r.world.ask, items := r.items ++ [.textDelta delta] }
      have hask := World.ask_of_queue hw hf hq
      have hmoves : ∀ more, moves finale (.next :: more) r = moves finale more after :=
        fun more => (next_of_queue hs hp hw hf hq more).1
      have hread : r.world.bridge.readLoop keptDelta limit (calls + 1 + 1) r.items =
          if Reading.enough limit after.items.length then ⟨after.items, .enough, after.world.bridge⟩
          else after.world.bridge.readLoop keptDelta limit (calls + 1) after.items := by
        rw [Bridge.readLoop, (@next_of_queue finale r _ _ hs hp hw hf hq []).2]
        rfl
      have hidle : after.world.pending = [] := by
        show r.world.ask.pending = []
        rw [hask]
        exact hp
      have hdelivered : after.world.delivered = r.world.delivered := (World.delivered_ask r.world).1
      cases henough : Reading.enough limit after.items.length with
      | true =>
        rw [hread, henough, if_pos rfl]
        refine ⟨[.next, .close], after.leave .enough, ?_, hdelivered,
          .left after.world.bridge.leave.handed (by simp) rfl rfl rfl⟩
        rw [hmoves, moves_cons (by simp [allows, hidle])]
        simp [moves, move, after, hs]
      | false =>
        rw [hread, henough, if_neg (by simp)]
        have hitems : after.items = (texts ++ [delta]).map .textDelta := by simp [after, hi]
        have hreceived : after.world.received = after.items := by
          show r.world.ask.received = r.items ++ [.textDelta delta]
          rw [World.received_ask, hg, Bridge.request_of_queue hw hf hq, Bridge.event?_answerOf]
          rfl
        have hqueue : after.world.bridge.queue = rest := by
          show r.world.ask.bridge.queue = rest
          rw [hask]
          rfl
        have hrest : rest.length ≤ calls := by simpa using hcalls
        obtain ⟨ms, r', hlater, hdelivered', hfollows⟩ :=
          ih (r := after) hs hitems hreceived (World.told_ask ht hp) hidle henough hqueue hrest
        exact ⟨.next :: ms, r', (hmoves ms).trans hlater, hdelivered'.trans hdelivered, hfollows⟩
    · exact follows_finished hfinale hs hp hw hf hq hn
    · exact follows_error hs hp hw hf hq

end

end Dialogue.Stream.Reader
