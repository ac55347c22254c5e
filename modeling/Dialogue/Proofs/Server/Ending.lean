import Dialogue.Proofs.Server.Payloads
import Dialogue.Proofs.Stream.Draining

/-!
# Dialogue.Proofs.Server.Ending — how often a worker ends its stream

A worker that was given a stream, or none, ends it for its consumer once: with an error when
something was raised before the stream was closed, and with the plain end otherwise. Closing the
stream may then fail as well. Only when that is the first thing that fails (`closingFailsFirst`) does
the worker push nothing that ends the stream.

* `payloads_run` — what a worker pushes, in every case;
* `ends_once` — one payload ends the stream, it is the last, and the consumer is told all there is;
* `never_ends` — nothing ends a stream whose closing fails first, and its consumer comes to wait.

A text that begins with the mark of an error is taken for errors, as many as there are reports:
`ends_often_or_never`.
-/

namespace Dialogue.Server

open Dialogue.Stream

/-- Whether closing the stream fails and nothing failed before: the stream was read to its end, or
as far as the worker was not asked to stop. -/
def closingFailsFirst (opened : Except Fault ChunkStream) (stop : StopSignal) : Bool :=
  match opened with
  | .error _ => false
  | .ok s =>
    ((Progress.read stop {} s.chunks).stopped || s.failure.isNone) &&
      s.closable && s.closeFailure.isSome

/-! ## What is pushed -/

theorem payloads_onStream_of_closingFailsFirst {s : ChunkStream} {stop : StopSignal}
    (h : closingFailsFirst (.ok s) stop = true) :
    (Work.onStream s stop).payloads = (Progress.read stop {} s.chunks).reports.map some := by
  simp only [closingFailsFirst, Bool.and_eq_true, Bool.or_eq_true] at h
  obtain ⟨⟨horderly, hclosable⟩, hcloses⟩ := h
  obtain ⟨e, hcloses⟩ := Option.isSome_iff_exists.1 hcloses
  unfold Work.onStream
  dsimp only
  split
  · -- a failure came before
    rename_i hstopped hfailure
    simp [hstopped, hfailure] at horderly
  · simp [hclosable, hcloses]

theorem payloads_onStream_of_not {s : ChunkStream} {stop : StopSignal}
    (h : closingFailsFirst (.ok s) stop = false) :
    ∃ cause, (Work.onStream s stop).payloads =
      (Progress.read stop {} s.chunks).reports.map some ++ [endingOf cause] := by
  unfold Work.onStream
  dsimp only
  split
  · rename_i e hstopped hfailure
    exact ⟨some e, rfl⟩
  · rename_i hother
    split
    · -- closing fails, so something failed before, or nothing was to be closed
      rename_i f hclosable hcloses
      cases hstopped : (Progress.read stop {} s.chunks).stopped with
      | true => simp [closingFailsFirst, hstopped, hclosable, hcloses] at h
      | false =>
        cases hfailure : s.failure with
        | none => simp [closingFailsFirst, hstopped, hfailure, hclosable, hcloses] at h
        | some e => exact (hother e hstopped hfailure).elim
    · exact ⟨none, rfl⟩

/-- A worker pushes a report for each text of the chunks that it reads, and then what ends the
stream, unless closing the stream is the first thing that fails. -/
theorem payloads_run (opened : Except Fault ChunkStream) (stop : StopSignal) :
    ∃ read cause, read <+: offered opened ∧
      (Work.run opened stop).payloads =
        (reportsAfter "" (read.flatMap Chunk.texts)).map some ++
          if closingFailsFirst opened stop then [] else [endingOf cause] := by
  cases opened with
  | error e => exact ⟨[], some e, List.nil_prefix, rfl⟩
  | ok s =>
    obtain ⟨read, huntil, hreports, -⟩ := Progress.read_eq stop (p := {}) rfl s.chunks
    have hreports : (Progress.read stop {} s.chunks).reports =
        reportsAfter "" (read.flatMap Chunk.texts) := by simpa using hreports
    cases hclose : closingFailsFirst (.ok s) stop with
    | true =>
      refine ⟨read, none, huntil.start, ?_⟩
      rw [Work.run, payloads_onStream_of_closingFailsFirst hclose, hreports, if_pos rfl,
        List.append_nil]
    | false =>
      obtain ⟨cause, hpayloads⟩ := payloads_onStream_of_not hclose
      refine ⟨read, cause, huntil.start, ?_⟩
      rw [Work.run, hpayloads, hreports, if_neg (by decide)]

/-- No report ends the stream when the text that is offered does not begin with the mark. -/
theorem endsStream_report_of_prefix {opened : Except Fault ChunkStream} {read : List Chunk}
    (hread : read <+: offered opened)
    (hmark : (String.join ((offered opened).flatMap Chunk.texts)).toList.head? ≠ some errorMark) :
    ∀ raw ∈ (reportsAfter "" (read.flatMap Chunk.texts)).map some, endsStream raw = false := by
  intro raw hraw
  obtain ⟨report, hreport, rfl⟩ := List.mem_map.1 hraw
  obtain ⟨rest, hrest⟩ := hread
  rw [← hrest, List.flatMap_append, String.join_append] at hmark
  exact endsStream_report texts_ne_empty hreport hmark

/-! ## How often the stream ends -/

/-- Whatever the chunks of a stream are, whether or where asking for it or reading it fails, whether
closing it fails after that, and whenever the worker is asked to stop: exactly one of the payloads
ends the stream, and it is the last. Wherever a consumer that does not leave stands then, it is told
all events and never waits once the payloads have been taken in. The text must not begin with the
mark of an error, and closing must not be the first thing that fails. -/
theorem ends_once {opened : Except Fault ChunkStream} {stop : StopSignal}
    (hmark : (String.join ((offered opened).flatMap Chunk.texts)).toList.head? ≠ some errorMark)
    (hclose : closingFailsFirst opened stop = false) :
    (Work.run opened stop).payloads.countP endsStream = 1 ∧
      (∃ ending, (Work.run opened stop).payloads.getLast? = some ending ∧
        endsStream ending = true) ∧
      ∀ acts w, World.run World.timely acts {} = some w →
        w.delivered ++ w.posted = (Work.run opened stop).payloads →
        ∃ w', World.run World.timely (List.replicate w.posted.length .takeIn) w = some w' ∧
          w'.Drains (eventsAfter [] (Work.run opened stop).payloads) := by
  obtain ⟨read, cause, hread, hpayloads⟩ := payloads_run opened stop
  simp only [hclose, Bool.false_eq_true, if_false] at hpayloads
  have hreports := endsStream_report_of_prefix hread hmark
  have hending := endsStream_endingOf cause
  have hnone : List.countP endsStream ((reportsAfter "" (read.flatMap Chunk.texts)).map some) = 0 :=
    List.countP_eq_zero.2 fun raw hraw => by simp [hreports raw hraw]
  refine ⟨?_, ?_, ?_⟩
  · rw [hpayloads, List.countP_append, hnone]
    simp [hending]
  · exact ⟨endingOf cause, by simp [hpayloads], hending⟩
  · intro acts w hrun hpushed
    obtain ⟨w', htaken, hdelivered, -⟩ := World.run_takeIn_all w
    refine ⟨w', htaken, ?_⟩
    rw [hpushed] at hdelivered
    rw [← hdelivered]
    refine World.drains_of_ended (World.run_append hrun htaken) ?_
    rw [hdelivered, hpayloads]
    simp [hending]

/-- A stream that fails while it is read, and then once more when it is closed. -/
def brokenStream : Except Fault ChunkStream := .ok
  { chunks := [[.str "a"], [.null, .str "b"]], failure := some (.service .connection "lost")
    closeFailure := some (.plain .state "already closed") }

/-- The consumer has asked twice, and was given the first report, when the worker is through. -/
def brokenRun : List Act :=
  [.ask, .post (some "a"), .takeIn, .goOn 0, .post (some "ab"), .ask, .post (some "\x02lost")]

theorem ends_once_brokenStream :
    (String.join ((offered brokenStream).flatMap Chunk.texts)).toList.head? ≠ some errorMark ∧
      closingFailsFirst brokenStream .never = false ∧
      (Work.run brokenStream .never).payloads = [some "a", some "ab", some "\x02lost"] ∧
      (Work.run brokenStream .never).payloads.countP endsStream = 1 ∧
      ∃ w w', World.run World.timely brokenRun {} = some w ∧ w.bridge.isWaiting 1 = true ∧
        World.run World.timely (List.replicate w.posted.length .takeIn) w = some w' ∧
        w'.Drains [.textDelta "a", .textDelta "b", .error "lost"] := by
  have hmark : (String.join ((offered brokenStream).flatMap Chunk.texts)).toList.head? ≠
      some errorMark := by decide +kernel
  have hclose : closingFailsFirst brokenStream .never = false := by decide +kernel
  have hpayloads : (Work.run brokenStream .never).payloads =
      [some "a", some "ab", some "\x02lost"] := by decide +kernel
  have hevents : eventsAfter [] [some "a", some "ab", some "\x02lost"] =
      [.textDelta "a", .textDelta "b", .error "lost"] := by decide +kernel
  obtain ⟨honce, -, hconsumer⟩ := ends_once hmark hclose
  obtain ⟨w', htaken, hdrains⟩ := hconsumer brokenRun _ rfl (by rw [hpayloads]; rfl)
  rw [hpayloads, hevents] at hdrains
  exact ⟨hmark, hclose, hpayloads, honce, _, w', rfl, by decide, htaken, hdrains⟩

/-- When closing a stream is the first thing that fails, nothing ends the stream, and its consumer
comes to wait for a payload that the worker does not push. -/
theorem never_ends {opened : Except Fault ChunkStream} {stop : StopSignal}
    (hmark : (String.join ((offered opened).flatMap Chunk.texts)).toList.head? ≠ some errorMark)
    (hclose : closingFailsFirst opened stop = true) :
    (Work.run opened stop).payloads.countP endsStream = 0 ∧
      ∀ acts w, World.run World.timely acts {} = some w →
        w.delivered = (Work.run opened stop).payloads →
        ∃ later w' call, (∀ a ∈ later, a.isCall = true) ∧
          World.run World.timely later w = some w' ∧ w'.delivered = w.delivered ∧
          w'.bridge.isWaiting call = true := by
  obtain ⟨read, cause, hread, hpayloads⟩ := payloads_run opened stop
  simp only [hclose, if_true, List.append_nil] at hpayloads
  have hreports := endsStream_report_of_prefix hread hmark
  rw [← hpayloads] at hreports
  constructor
  · exact List.countP_eq_zero.2 fun raw hraw => by simp [hreports raw hraw]
  · intro acts w hrun hdelivered
    refine World.waits_without_end hrun ?_
    rw [hdelivered]
    exact List.any_eq_false.2 fun raw hraw => by simp [hreports raw hraw]

/-- A stream whose text begins with the mark of an error. -/
def markedStream : Except Fault ChunkStream := .ok { chunks := [[.str "\x02"], [.str "a"]] }

/-- A stream that is read to its end, and then cannot be closed. -/
def stubbornStream : Except Fault ChunkStream := .ok
  { chunks := [[.str "a"]], closeFailure := some (.service .connection "lost") }

/-- A text that begins with the mark makes every report an end. A stream that cannot be closed has no
end: its consumer is given the text, and waits. -/
theorem ends_often_or_never :
    ((Work.run markedStream .never).payloads = [some "\x02", some "\x02a", none] ∧
      (Work.run markedStream .never).payloads.countP endsStream = 3) ∧
    ((Work.run stubbornStream .never).payloads = [some "a"] ∧
      (Work.run stubbornStream .never).payloads.countP endsStream = 0 ∧
      ∃ w, World.run World.timely [.ask, .post (some "a"), .takeIn, .goOn 0, .ask] {} = some w ∧
        w.delivered = (Work.run stubbornStream .never).payloads ∧ w.posted = [] ∧
        w.received = [.textDelta "a"] ∧ w.bridge.isWaiting 1 = true) := by
  have hmarked : (Work.run markedStream .never).payloads = [some "\x02", some "\x02a", none] := by
    decide +kernel
  have hstubborn : (Work.run stubbornStream .never).payloads = [some "a"] := by decide +kernel
  refine ⟨⟨hmarked, ?_⟩, hstubborn, ?_, ?_⟩
  · rw [hmarked]
    decide
  · rw [hstubborn]
    decide
  · rw [hstubborn]
    exact ⟨_, rfl, by decide, by decide, by decide, by decide⟩

end Dialogue.Server
