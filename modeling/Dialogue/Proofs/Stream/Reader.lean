import Dialogue.Proofs.Stream.Cancellation
import Dialogue.Proofs.Stream.Reading

/-!
# Dialogue.Proofs.Stream.Reader — a reader that adds something of its own

A `Reader` hands a caller one item after the other: the deltas of a stream, and once the stream is over
some closing events made of the whole text. However it is left, it leaves the stream. Payloads come in
while it reads, and the caller may stop anywhere: by asking no more, by closing the reader between two
items, or by an exception while the reader waits.

* `Course` — what a caller has been given by the time that the reader is left, and how the stream is
  left behind;
* `Sound` — where a reader stands, with `sound_move` for one move;
* `course_of_left` — the statement for every run.
-/

namespace Dialogue.Stream

/-! ## The reader -/

/-- Where a reader stands. -/
inductive Reader.Stage where
  | reading
  /-- The stream is over, and some of the closing events are left to give. -/
  | closing (rest : List Event)
  | left (ending : Ending)
deriving DecidableEq, Repr

/-- A reader of a stream and what it has given. -/
structure Reader where
  world : World := {}
  stage : Reader.Stage := .reading
  items : List Event := []

/-- What happens next to a reader. -/
inductive Reader.Move where
  /-- Something around the stream: a payload comes, or the call that waits goes on or is abandoned
  because of an exception. -/
  | act (a : Act)
  /-- The caller asks for an item. -/
  | next
  /-- The caller closes the reader, or raises an exception in it, between two items. -/
  | close
deriving DecidableEq, Repr

namespace Reader

variable (finale : List Char → List Event)

/-- Leaves the reader, and with it the stream. -/
def leave (ending : Ending) (r : Reader) : Reader :=
  { r with world := { r.world with bridge := r.world.bridge.leave }, stage := .left ending }

/-- Gives the first of the closing events, or ends with the last. -/
def give (r : Reader) : List Event → Reader
  | [] => r.leave .complete
  | e :: rest => { r with stage := .closing rest, items := r.items ++ [e] }

/-- Goes on with the answer of a call for the next event. -/
def take (a : Bridge.Answer) (r : Reader) : Reader :=
  match a with
  | .event (.done _) => r.give (finale r.world.bridge.text)
  | .ended => r.give (finale r.world.bridge.text)
  | .event e => { r with items := r.items ++ [e] }
  | .failed message => r.leave (.failed message)
  | .waiting => r
  | .busy => r.leave .pending
  | .abandoned => r.leave .pending

/-- Whether a move is possible. The reader alone asks the stream, and it is asked and closed only while
it does not wait. -/
def allows (r : Reader) : Move → Bool
  | .act .ask => false
  | .act .cancel => false
  | .act a => r.world.can a
  | .next => r.world.pending.isEmpty
  | .close => r.world.pending.isEmpty

/-- The reader after a move. One that has been left stays so. -/
def move (r : Reader) : Move → Reader
  | .act (.goOn call) =>
    { r with world := r.world.goOn call }.take finale (r.world.bridge.resume call).2
  | .act a => { r with world := r.world.next a }
  | .next =>
    match r.stage with
    | .reading =>
      { r with world := r.world.ask }.take finale (r.world.bridge.request r.world.begun).2
    | .closing rest => r.give rest
    | .left _ => r
  | .close =>
    match r.stage with
    | .left _ => r
    | _ => r.leave .enough

/-- The reader after moves that are all possible. -/
def moves : List Move → Reader → Option Reader
  | [], r => some r
  | m :: rest, r => if r.allows m then moves rest (r.move finale m) else none

theorem moves_cons {finale : List Char → List Event} {m : Move} {r : Reader} (h : r.allows m = true)
    (rest : List Move) : moves finale (m :: rest) r = moves finale rest (r.move finale m) := by
  simp [moves, h]

/-- Moves in a row are moves one after the other. -/
theorem moves_append {finale : List Char → List Event} {first second : List Move} {r r' : Reader}
    (h : moves finale first r = some r') :
    moves finale (first ++ second) r = moves finale second r' := by
  induction first generalizing r with
  | nil =>
    simp only [moves, Option.some.injEq] at h
    rw [h, List.nil_append]
  | cons m rest ih =>
    simp only [moves, Option.ite_none_right_eq_some] at h
    rw [List.cons_append, moves_cons h.1, ih h.2]

end Reader

/-! ## What a caller is given -/

/-- What a caller has been given of a stream that stands for `raws` by the time that its reader is left:
the texts of deltas, and then closing events, which come only after a stream that has run its course. If
the stream fails there are none, and all of them are given to a caller that goes on to the end. The
stream is over then, and its producer is asked to stop just when the caller has been given neither the
failure nor anything that comes after the end. -/
structure Course (finale : List Char → List Event) (raws : List RawPayload) (items : List Event)
    (ending : Ending) (b : Bridge) (texts : List String) (rest : List Event) : Prop where
  given : items = texts.map .textDelta ++ rest
  said : texts.map .textDelta <+: eventsAfter [] raws
  closing : rest <+: finale b.text
  ended : rest ≠ [] → eventsAfter [] raws = texts.map .textDelta ++ [.finished]
  failed : ∀ message, ending = .failed message →
    rest = [] ∧ eventsAfter [] raws = texts.map .textDelta ++ [.error message]
  complete : ending = .complete → rest = finale b.text
  finished : b.finished = true
  stopped : b.stopSignal = true ↔ rest = [] ∧ ∀ message, ending ≠ .failed message

/-- Payloads stand for texts and the end only. -/
theorem mem_eventsAfter {text : List Char} {raws : List RawPayload} {e : Event}
    (h : e ∈ eventsAfter text raws) :
    (∃ delta, e = .textDelta delta) ∨ e = .finished ∨ ∃ message, e = .error message := by
  induction raws generalizing text with
  | nil => simp at h
  | cons raw rest ih =>
    rw [eventsAfter] at h
    split at h
    · exact Or.inr (Or.inl (List.mem_singleton.1 h))
    · split at h
      · exact Or.inr (Or.inr ⟨_, List.mem_singleton.1 h⟩)
      · rw [List.mem_append] at h
        rcases h with h | h
        · unfold deltaEvents at h
          split at h
          · simp at h
          · exact Or.inl ⟨_, List.mem_singleton.1 h⟩
        · exact ih h

/-- A stream that has ended stands for the same whatever comes later. -/
theorem eventsAfter_snoc_of_ended {raws : List RawPayload} {before : List Event} {e : Event}
    (h : eventsAfter [] raws = before ++ [e]) (he : e.isTerminal = true) (raw : RawPayload) :
    eventsAfter [] (raws ++ [raw]) = before ++ [e] := by
  have hend : raws.any endsStream = true := by
    rw [← any_isTerminal_eventsAfter [], h]
    simp [he]
  simp [eventsAfter_append, hend, h]

namespace Course

variable {finale : List Char → List Event} {raws : List RawPayload} {items : List Event}
  {ending : Ending} {b : Bridge} {texts : List String} {rest : List Event}

/-- Later payloads do not change what a caller was given. -/
theorem snoc (h : Course finale raws items ending b texts rest) (raw : RawPayload) :
    Course finale (raws ++ [raw]) items ending b texts rest where
  given := h.given
  said := by
    rw [eventsAfter_append]
    exact h.said.trans (List.prefix_append _ _)
  closing := h.closing
  ended hne := eventsAfter_snoc_of_ended (h.ended hne) rfl raw
  failed message hfailed :=
    ⟨(h.failed message hfailed).1, eventsAfter_snoc_of_ended (h.failed message hfailed).2 rfl raw⟩
  complete := h.complete
  finished := h.finished
  stopped := h.stopped

/-- A caller that leaves before it has been given the end. -/
theorem early (hitems : items = texts.map .textDelta) (hsaid : items <+: eventsAfter [] raws)
    (hb : b.Closed) (hcomplete : ending ≠ .complete) (hfailed : ∀ message, ending ≠ .failed message) :
    Course finale raws items ending b texts [] where
  given := by simp [hitems]
  said := hitems ▸ hsaid
  closing := List.nil_prefix
  ended hne := absurd rfl hne
  failed message h := absurd h (hfailed message)
  complete h := absurd h hcomplete
  finished := hb.finished
  stopped := ⟨fun _ => ⟨rfl, hfailed⟩, fun _ => hb.stopSignal⟩

end Course

/-! ## A call that is abandoned -/

namespace Bridge

/-- A stream whose call is abandoned: no call waits for an event, and an event on its way to this one is
lost. -/
structure Lost (call : CallId) (b : Bridge) : Prop where
  waiter : ∀ other, b.waiter ≠ some ⟨other, false⟩
  handed : ∀ x ∈ b.handed, x.call = call → x.abandoned = true

variable {b : Bridge} {call : CallId}

theorem Lost.deliver (h : b.Lost call) (raw : RawPayload) : (b.deliver raw).Lost call := by
  cases hopen : b.terminal || b.cancelled with
  | true => rwa [deliver_dropped hopen]
  | false =>
    obtain ⟨hterminal, hcancelled⟩ := Bool.or_eq_false_iff.1 hopen
    rw [deliver_eq hterminal hcancelled, pushAll_unwaited (b := b.remember raw) h.waiter]
    exact ⟨h.waiter, h.handed⟩

theorem lost_abandon
    (h : ∀ other, b.waiter = some ⟨other, false⟩ → other = call ∧ b.handed = []) :
    (b.abandon call).Lost call := by
  unfold abandon
  split
  · rename_i hwaits
    have hw : b.waiter = some ⟨call, false⟩ := by simpa [isWaiting] using hwaits
    exact ⟨by simp, by simp [(h call hw).2]⟩
  · rename_i hnot
    refine ⟨?_, ?_⟩
    · intro other hother
      obtain ⟨rfl, -⟩ := h other hother
      exact hnot (by simp [isWaiting, show b.waiter = _ from hother])
    · intro x hx hcall
      obtain ⟨y, hy, rfl⟩ := List.mem_map.1 hx
      split at hcall
      · simp [*]
      · contradiction

/-- An abandoned call goes on with nothing. -/
theorem Lost.resume (h : b.Lost call) : (b.resume call).2 = .abandoned := by
  unfold Bridge.resume
  split
  · rename_i x hx
    have hcall : x.call = call := by simpa using List.find?_some hx
    simp [h.handed x (List.mem_of_find?_eq_some hx) hcall]
  · rfl

/-- Leaving a stream that has not ended closes it. -/
theorem closed_leave (hopen : b.finished = false) (hlive : b.cancelled = false) : b.leave.Closed := by
  rw [Bridge.leave, if_neg (by simp [hopen])]
  exact closed_cancel hlive

/-- What a call answers that is given an event. -/
def answerOf : Event → Answer
  | .error message => .failed message
  | e => .event e

theorem consume_snd (e : Event) (b : Bridge) : (b.consume e).2 = answerOf e := by
  cases e <;> rfl

theorem event?_answerOf (e : Event) : (answerOf e).event? = some e := by
  cases e <;> rfl

/-- A call that begins while events are queued is given the first. -/
theorem request_of_queue {e : Event} {rest : List Event} (hw : b.waiter = none)
    (hf : b.finished = false) (hq : b.queue = e :: rest) (call : CallId) :
    b.request call = (({ b with queue := rest }.consume e).1, answerOf e) := by
  rw [← consume_snd e { b with queue := rest }]
  simp [request, hw, hf, hq]

end Bridge

theorem World.ask_of_queue {w : World} {e : Event} {rest : List Event} (hw : w.bridge.waiter = none)
    (hf : w.bridge.finished = false) (hq : w.bridge.queue = e :: rest) :
    w.ask = { w with
      bridge := ({ w.bridge with queue := rest }.consume e).1
      begun := w.begun + 1
      answers := w.answers ++ [(w.begun, Bridge.answerOf e)] } := by
  have hne : Bridge.answerOf e ≠ .waiting := by
    cases e <;> simp [Bridge.answerOf]
  simp [World.ask, Bridge.request_of_queue hw hf hq, hne]

/-! ## Where a reader stands -/

/-- Where a reader stands: it reads and has given what it was told; the call that it waits for is
abandoned; it gives closing events after a stream that has run its course; or it was left. -/
inductive Reader.Sound (finale : List Char → List Event) (r : Reader) : Prop where
  | reading (texts : List String) (hs : r.stage = .reading) (hi : r.items = texts.map .textDelta)
      (hg : r.world.received = r.items) (ht : Told r.world) (hl : r.world.bridge.stopSignal = false)
  | leaving (call : CallId) (texts : List String) (hs : r.stage = .reading)
      (hi : r.items = texts.map .textDelta) (hg : r.items <+: eventsAfter [] r.world.delivered)
      (hp : r.world.pending = [call]) (hlost : r.world.bridge.Lost call)
      (hf : r.world.bridge.finished = false) (hl : r.world.bridge.cancelled = false)
  | closing (rest given : List Event) (texts : List String) (hs : r.stage = .closing rest)
      (hi : r.items = texts.map .textDelta ++ given) (hne : given ≠ [])
      (hr : given ++ rest = finale r.world.bridge.text)
      (he : eventsAfter [] r.world.delivered = texts.map .textDelta ++ [.finished])
      (hp : r.world.pending = []) (ht : r.world.bridge.terminal = true)
      (hf : r.world.bridge.finished = true) (hl : r.world.bridge.stopSignal = false)
  | left (ending : Ending) (texts : List String) (given : List Event) (hs : r.stage = .left ending)
      (hc : Course finale r.world.delivered r.items ending r.world.bridge texts given)
      (hp : r.world.pending = []) (hd : (r.world.bridge.terminal || r.world.bridge.cancelled) = true)

namespace Reader

variable {finale : List Char → List Event} {r : Reader}

theorem sound_start : Sound finale {} := .reading [] rfl rfl rfl World.told_start rfl

/-- Texts do not end a stream. -/
theorem not_any_isTerminal_texts (texts : List String) :
    (texts.map Event.textDelta).any Event.isTerminal = false := by
  simp [Event.isTerminal]

/-- A reader that reads has not been told the end. -/
theorem finished_of_reading {w : World} {texts : List String} (ht : Told w)
    (hg : w.received = texts.map .textDelta) : w.bridge.finished = false := by
  rw [ht.finished, hg, not_any_isTerminal_texts]

/-- What a reader has been told is the first of what the payloads stand for. -/
theorem initial_received {w : World} (ht : Told w) : w.received <+: eventsAfter [] w.delivered :=
  ⟨_, ht.order⟩

/-! ### Payloads -/

theorem sound_deliver (h : Sound finale r) (raw : RawPayload) :
    Sound finale { r with world := r.world.deliver raw } := by
  cases h with
  | reading texts hs hi hg ht hl =>
    have hreport := Bridge.report_deliver raw r.world.bridge
    exact .reading texts hs hi hg (World.told_deliver ht raw)
      ((congrArg (·.2.1) hreport).trans hl)
  | leaving call texts hs hi hg hp hlost hf hl =>
    refine .leaving call texts hs hi ?_ hp (hlost.deliver raw) ?_ ?_
    · show r.items <+: eventsAfter [] (r.world.delivered ++ [raw])
      rw [eventsAfter_append]
      exact hg.trans (List.prefix_append _ _)
    · exact (Bridge.finished_deliver raw _).trans hf
    · exact (Bridge.cancelled_deliver raw _).trans hl
  | closing rest given texts hs hi hne hr he hp ht hf hl =>
    have hb : r.world.bridge.deliver raw = r.world.bridge := Bridge.deliver_dropped (by simp [ht]) raw
    refine .closing rest given texts hs hi hne ?_ (eventsAfter_snoc_of_ended he rfl raw) hp ?_ ?_ ?_ <;>
      simpa only [World.deliver, hb]
  | left ending texts given hs hc hp hd =>
    have hb : r.world.bridge.deliver raw = r.world.bridge := Bridge.deliver_dropped hd raw
    refine .left ending texts given hs ?_ hp ?_ <;> simp only [World.deliver, hb]
    · exact hc.snoc raw
    · exact hd

/-- What is posted does not count before it is taken in. -/
theorem sound_posted (h : Sound finale r) (posted : List RawPayload) :
    Sound finale { r with world := { r.world with posted } } := by
  cases h with
  | reading texts hs hi hg ht hl =>
    exact .reading texts hs hi hg (World.told_congr ht rfl rfl rfl rfl) hl
  | leaving call texts hs hi hg hp hlost hf hl => exact .leaving call texts hs hi hg hp hlost hf hl
  | closing rest given texts hs hi hne hr he hp ht hf hl =>
    exact .closing rest given texts hs hi hne hr he hp ht hf hl
  | left ending texts given hs hc hp hd => exact .left ending texts given hs hc hp hd

/-! ### Closing events and leaving -/

/-- A stream that has ended is left as it is. -/
theorem leave_of_finished (hf : r.world.bridge.finished = true) (ending : Ending) :
    r.leave ending = { r with stage := .left ending } := by
  simp [leave, Bridge.leave, hf]

theorem sound_give {rest given : List Event} {texts : List String}
    (hi : r.items = texts.map .textDelta ++ given) (hr : given ++ rest = finale r.world.bridge.text)
    (he : eventsAfter [] r.world.delivered = texts.map .textDelta ++ [.finished])
    (hne : given ++ rest ≠ []) (hp : r.world.pending = []) (ht : r.world.bridge.terminal = true)
    (hf : r.world.bridge.finished = true) (hl : r.world.bridge.stopSignal = false) :
    Sound finale (r.give rest) := by
  cases rest with
  | nil =>
    rw [List.append_nil] at hr hne
    rw [give, leave_of_finished hf]
    refine .left .complete texts given rfl ?_ hp (by simp [ht])
    exact
      { given := hi
        said := he ▸ List.prefix_append _ _
        closing := hr ▸ List.prefix_rfl
        ended := fun _ => he
        failed := fun message h => by contradiction
        complete := fun _ => hr
        finished := hf
        stopped := by simp [hl, hne] }
  | cons e rest =>
    rw [give]
    exact .closing rest (given ++ [e]) texts rfl (by simp [hi]) (by simp) (by simpa using hr) he hp ht
      hf hl

/-- A caller that has been given no closing event leaves a stream that has not ended. -/
theorem sound_leave {texts : List String} {ending : Ending} (hi : r.items = texts.map .textDelta)
    (hg : r.items <+: eventsAfter [] r.world.delivered) (hp : r.world.pending = [])
    (hf : r.world.bridge.finished = false) (hl : r.world.bridge.cancelled = false)
    (hcomplete : ending ≠ .complete) (hfailed : ∀ message, ending ≠ .failed message) :
    Sound finale (r.leave ending) := by
  have hclosed := Bridge.closed_leave hf hl
  exact .left ending texts [] rfl (.early hi hg hclosed hcomplete hfailed) hp
    (by simp [leave, hclosed.cancelled])

/-! ### Calls -/

/-- A reader goes on with the event that it was given: it passes a text on, begins to close the stream
at its end, and fails with it. -/
theorem sound_take (hfinale : ∀ text, finale text ≠ []) {texts : List String} {e : Event}
    (hs : r.stage = .reading) (hi : r.items = texts.map .textDelta)
    (hg : r.world.received = r.items ++ [e]) (hp : r.world.pending = []) (ht : Told r.world)
    (hl : r.world.bridge.stopSignal = false) :
    Sound finale (r.take finale (Bridge.answerOf e)) := by
  have hmem : e ∈ eventsAfter [] r.world.delivered :=
    (initial_received ht).subset (by rw [hg]; simp)
  -- after the end nothing is left
  have hlast : e.isTerminal = true →
      eventsAfter [] r.world.delivered = texts.map .textDelta ++ [e] ∧
        r.world.bridge.terminal = true ∧ r.world.bridge.finished = true := by
    intro he
    have horder := ht.order
    rw [hg, hi, List.append_assoc, List.singleton_append] at horder
    have hnone := eventsAfter_terminal_last horder.symm he
    rw [hnone] at horder
    refine ⟨horder.symm, ?_, ?_⟩
    · rw [ht.terminal, ← any_isTerminal_eventsAfter [], ← horder]
      simp [he]
    · rw [ht.finished, hg]
      simp [he]
  rcases mem_eventsAfter hmem with ⟨delta, rfl⟩ | rfl | ⟨message, rfl⟩
  · exact .reading (texts ++ [delta]) hs (by simp [take, Bridge.answerOf, hi]) hg ht hl
  · obtain ⟨he, hterminal, hfinished⟩ := hlast rfl
    have hnone : r.items = texts.map .textDelta ++ [] := by simp [hi]
    exact sound_give hnone rfl he (hfinale _) hp hterminal hfinished hl
  · obtain ⟨he, hterminal, hfinished⟩ := hlast rfl
    show Sound finale (r.leave (.failed message))
    rw [leave_of_finished hfinished]
    refine .left (.failed message) texts [] rfl ?_ hp (by simp [hterminal])
    exact
      { given := by simp [hi]
        said := he ▸ List.prefix_append _ _
        closing := List.nil_prefix
        ended := fun hne => absurd rfl hne
        failed := fun m hm => ⟨rfl, by rw [he, Ending.failed.inj hm]⟩
        complete := fun h => by contradiction
        finished := hfinished
        stopped := by simp [hl] }

/-- A reader that asks finds an event, or waits. -/
theorem sound_ask (hfinale : ∀ text, finale text ≠ []) {texts : List String}
    (hs : r.stage = .reading) (hi : r.items = texts.map .textDelta) (hg : r.world.received = r.items)
    (ht : Told r.world) (hl : r.world.bridge.stopSignal = false) (hp : r.world.pending = []) :
    Sound finale ({ r with world := r.world.ask }.take finale
      (r.world.bridge.request r.world.begun).2) := by
  have hopen := finished_of_reading ht (hg.trans hi)
  have htold := World.told_ask ht hp
  have hstop : r.world.ask.bridge.stopSignal = false := by
    rw [World.bridge_ask]
    exact (congrArg (·.2.1) (Bridge.report_request r.world.begun r.world.bridge)).trans hl
  have hw := (hp ▸ ht.stand).idle_of_nil.1
  have hreceived := World.received_ask r.world
  cases hq : r.world.bridge.queue with
  | nil =>
    have hreq : (r.world.bridge.request r.world.begun).2 = .waiting := by
      simp [Bridge.request, hw, hopen, hq]
    rw [hreq] at hreceived ⊢
    refine .reading texts hs hi ?_ htold hstop
    show r.world.ask.received = r.items
    simpa [Bridge.Answer.event?, hg] using hreceived
  | cons e rest =>
    have hanswer : (r.world.bridge.request r.world.begun).2 = Bridge.answerOf e := by
      rw [Bridge.request_of_queue hw hopen hq]
    have hidle : r.world.ask.pending = [] := by
      rw [World.ask_of_queue hw hopen hq]
      exact hp
    rw [hanswer, Bridge.event?_answerOf, hg] at hreceived
    rw [hanswer]
    exact sound_take hfinale (r := { r with world := r.world.ask }) hs hi hreceived hidle htold hstop

/-- A reader whose call goes on has been given an event, or it is left. -/
theorem sound_goOn (hfinale : ∀ text, finale text ≠ []) (h : Sound finale r) {call : CallId}
    (hcan : r.world.can (.goOn call) = true) :
    Sound finale ({ r with world := r.world.goOn call }.take finale
      (r.world.bridge.resume call).2) := by
  have hopen : call ∈ r.world.pending := by
    simp only [World.can, Bool.and_eq_true, List.contains_iff_mem] at hcan
    exact hcan.1
  cases h with
  | reading texts hs hi hg ht hl =>
    have htold := World.told_goOn ht hcan
    have hstop : (r.world.goOn call).bridge.stopSignal = false :=
      (congrArg (·.2.1) (Bridge.report_resume call r.world.bridge)).trans hl
    cases ht.stand with
    | idle hp hw hh => simp [hp] at hopen
    | waiting other hp hw hh hq => simp [World.can, Bridge.isReady, hw, hh] at hcan
    | served other e hp hw hh =>
      obtain rfl : call = other := by simpa [hp] using hopen
      have hanswer : (r.world.bridge.resume call).2 = Bridge.answerOf e := by
        simp [Bridge.resume, hh, Bridge.consume_snd]
      have hreceived := World.received_goOn call r.world
      rw [hanswer, Bridge.event?_answerOf, hg] at hreceived
      rw [hanswer]
      exact sound_take hfinale (r := { r with world := r.world.goOn call }) hs hi hreceived
        (by simp [World.goOn, hp]) htold hstop
  | leaving other texts hs hi hg hp hlost hf hl =>
    obtain rfl : call = other := by simpa [hp] using hopen
    have hanswer := hlost.resume
    have hfinished := Bridge.finished_resume call r.world.bridge
    rw [hanswer] at hfinished
    rw [hanswer]
    refine sound_leave (r := { r with world := r.world.goOn call }) hi hg (by simp [World.goOn, hp])
      ?_ ?_ (by simp) (by simp)
    · exact hfinished.trans (by simp [hf, Bridge.Answer.event?])
    · exact (Bridge.cancelled_resume call r.world.bridge).trans hl
  | closing rest given texts hs hi hne hr he hp ht hf hl => simp [hp] at hopen
  | left ending texts given hs hc hp hd => simp [hp] at hopen

/-- An exception reaches a reader while it waits. -/
theorem sound_abandon (h : Sound finale r) {call : CallId}
    (hcan : r.world.can (.abandon call) = true) :
    Sound finale { r with world := r.world.next (.abandon call) } := by
  have hopen : call ∈ r.world.pending := by simpa [World.can] using hcan
  have hfinished : (r.world.bridge.abandon call).finished = r.world.bridge.finished := by
    unfold Bridge.abandon
    split <;> rfl
  have hcancelled := Bridge.cancelled_abandon call r.world.bridge
  cases h with
  | reading texts hs hi hg ht hl =>
    have hprefix : r.items <+: eventsAfter [] r.world.delivered := hg ▸ initial_received ht
    have hf := finished_of_reading ht (hg.trans hi)
    cases ht.stand with
    | idle hp hw hh => simp [hp] at hopen
    | waiting other hp hw hh hq =>
      obtain rfl : call = other := by simpa [hp] using hopen
      refine .leaving call texts hs hi hprefix hp (Bridge.lost_abandon ?_) (hfinished.trans hf)
        (hcancelled.trans ht.live)
      intro other hother
      rw [hw] at hother
      exact ⟨(congrArg Waiter.call (Option.some.inj hother)).symm, hh⟩
    | served other e hp hw hh =>
      obtain rfl : call = other := by simpa [hp] using hopen
      exact .leaving call texts hs hi hprefix hp (Bridge.lost_abandon (by simp [hw]))
        (hfinished.trans hf) (hcancelled.trans ht.live)
  | leaving other texts hs hi hg hp hlost hf hl =>
    obtain rfl : call = other := by simpa [hp] using hopen
    exact .leaving call texts hs hi hg hp
      (Bridge.lost_abandon fun other hother => absurd hother (hlost.waiter other))
      (hfinished.trans hf) (hcancelled.trans hl)
  | closing rest given texts hs hi hne hr he hp ht hf hl => simp [hp] at hopen
  | left ending texts given hs hc hp hd => simp [hp] at hopen

theorem sound_next (hfinale : ∀ text, finale text ≠ []) (h : Sound finale r)
    (hidle : r.world.pending = []) : Sound finale (r.move finale .next) := by
  cases h with
  | reading texts hs hi hg ht hl =>
    simpa only [move, hs] using sound_ask hfinale hs hi hg ht hl hidle
  | leaving call texts hs hi hg hp hlost hf hl => simp [hidle] at hp
  | closing rest given texts hs hi hne hr he hp ht hf hl =>
    simp only [move, hs]
    exact sound_give hi hr he (by simp [hne]) hp ht hf hl
  | left ending texts given hs hc hp hd =>
    simp only [move, hs]
    exact .left ending texts given hs hc hp hd

theorem sound_close (h : Sound finale r) (hidle : r.world.pending = []) :
    Sound finale (r.move finale .close) := by
  cases h with
  | reading texts hs hi hg ht hl =>
    simp only [move, hs]
    exact sound_leave hi (hg ▸ initial_received ht) hidle (finished_of_reading ht (hg.trans hi)) ht.live
      (by simp) (by simp)
  | leaving call texts hs hi hg hp hlost hf hl => simp [hidle] at hp
  | closing rest given texts hs hi hne hr he hp ht hf hl =>
    -- the end has been given, so there is no stream left to be closed
    simp only [move, hs]
    rw [leave_of_finished hf]
    refine .left .enough texts given rfl ?_ hp (by simp [ht])
    exact
      { given := hi
        said := he ▸ List.prefix_append _ _
        closing := hr ▸ List.prefix_append _ _
        ended := fun _ => he
        failed := fun message h => by contradiction
        complete := fun h => by contradiction
        finished := hf
        stopped := by simp [hl, hne] }
  | left ending texts given hs hc hp hd =>
    simp only [move, hs]
    exact .left ending texts given hs hc hp hd

/-- Every move keeps a reader sound. -/
theorem sound_move (hfinale : ∀ text, finale text ≠ []) (h : Sound finale r) {m : Move}
    (hallowed : r.allows m = true) : Sound finale (r.move finale m) := by
  cases m with
  | next => exact sound_next hfinale h (by simpa [allows] using hallowed)
  | close => exact sound_close h (by simpa [allows] using hallowed)
  | act a =>
    cases a with
    | push raw => exact sound_deliver h raw
    | post raw => exact sound_posted h _
    | takeIn =>
      cases hposted : r.world.posted with
      | nil => simp [allows, World.can, hposted] at hallowed
      | cons raw rest =>
        have hmove : r.move finale (.act .takeIn) =
            { r with world := World.deliver raw { r.world with posted := rest } } := by
          simp [move, World.next, hposted]
        rw [hmove]
        exact sound_deliver (sound_posted h rest) raw
    | ask => simp [allows] at hallowed
    | goOn call => exact sound_goOn hfinale h hallowed
    | abandon call => exact sound_abandon h hallowed
    | cancel => simp [allows] at hallowed

/-- Every run keeps a reader sound. -/
theorem sound_moves (hfinale : ∀ text, finale text ≠ []) {ms : List Move} {r' : Reader}
    (h : moves finale ms r = some r') (hr : Sound finale r) : Sound finale r' := by
  induction ms generalizing r with
  | nil =>
    simp only [moves, Option.some.injEq] at h
    exact h ▸ hr
  | cons m rest ih =>
    simp only [moves, Option.ite_none_right_eq_some] at h
    exact ih h.2 (sound_move hfinale hr h.1)

/-- However payloads came in and wherever its caller stopped, a reader that was left has given what its
stream stands for, and has left the stream. -/
theorem course_of_left (hfinale : ∀ text, finale text ≠ []) {ms : List Move}
    (h : moves finale ms {} = some r) {ending : Ending} (hleft : r.stage = .left ending) :
    ∃ texts rest, Course finale r.world.delivered r.items ending r.world.bridge texts rest := by
  cases sound_moves hfinale h sound_start with
  | reading texts hs hi hg ht hl => simp [hs] at hleft
  | leaving call texts hs hi hg hp hlost hf hl => simp [hs] at hleft
  | closing rest given texts hs hi hne hr he hp ht hf hl => simp [hs] at hleft
  | left ending' texts given hs hc hp hd =>
    obtain rfl : ending' = ending := Stage.left.inj (hs.symm.trans hleft)
    exact ⟨texts, given, hc⟩

end Reader

end Dialogue.Stream
