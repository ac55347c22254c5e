import Dialogue.Proofs.Server.Worker
import Mathlib.Data.List.Chain

/-!
# Dialogue.Proofs.Server.Payloads — a worker keeps to the protocol of payloads

Whatever a stream holds, wherever asking for it or reading it fails, and whenever the worker is asked
to stop, the reports of a worker have one form: each is the whole text so far and goes beyond the one
before, and one payload that ends the stream comes last. It is an error when something was raised,
and the plain end otherwise.

* `ReadUntil` — which chunks are read when a stop signal is heeded;
* `read_eq` — what a worker has when it stops reading;
* `payloads_reports_then_ending` — the statement for every stream and every stop signal.
-/

namespace Dialogue.Server

/-! ## The protocol -/

/-- The chunks that a server has for the one who asked it for a stream. -/
def offered (opened : Except Fault ChunkStream) : List Chunk :=
  match opened with
  | .error _ => []
  | .ok s => s.chunks

/-- The chunks that are read before a stop signal is heeded: it was not set when one of them came,
and it was set when the next one came, if any is left. Each text in them makes one report. -/
structure ReadUntil (stop : StopSignal) (chunks read : List Chunk) : Prop where
  start : read <+: chunks
  unset : ∀ i < read.length, stop i ((read.take i).flatMap Chunk.texts).length = false
  set : read ≠ chunks → stop read.length (read.flatMap Chunk.texts).length = true

/-- What is raised to one who reads these chunks: there was no stream, or it failed after its last
chunk. -/
def raised (opened : Except Fault ChunkStream) (read : List Chunk) : Option Fault :=
  match opened with
  | .error e => some e
  | .ok s => if read.length = s.chunks.length then s.failure else none

/-- The payload that ends a stream: the mark and the text of what was raised, or its name when it
has no text. -/
def endingOf : Option Fault → Stream.RawPayload
  | none => none
  | some e => some (String.ofList (Stream.errorMark :: (if e.text = "" then e.name else e.text).toList))

/-- A text goes beyond another. -/
def GoesBeyond (before after : String) : Prop := ∃ more, more ≠ "" ∧ after = before ++ more

theorem endsStream_endingOf (cause : Option Fault) : Stream.endsStream (endingOf cause) = true := by
  cases cause with
  | none => rfl
  | some e => simp [endingOf, Stream.endsStream, Stream.rawChars]

/-! ## Reports -/

theorem length_reportsAfter (text : String) (texts : List String) :
    (reportsAfter text texts).length = texts.length := by
  induction texts generalizing text with
  | nil => rfl
  | cons more rest ih => simp [reportsAfter, ih]

/-- Reports of texts that are not empty go beyond each other. -/
theorem isChain_reportsAfter (text : String) {texts : List String} (hne : ∀ t ∈ texts, t ≠ "") :
    (text :: reportsAfter text texts).IsChain GoesBeyond := by
  induction texts generalizing text with
  | nil => exact .singleton text
  | cons more rest ih =>
    have hmore : more ≠ "" := hne more List.mem_cons_self
    have hrest : ∀ t ∈ rest, t ≠ "" := fun t ht => hne t (List.mem_cons_of_mem more ht)
    exact .cons_cons ⟨more, hmore, rfl⟩ (ih (text ++ more) hrest)

/-- A report of texts that are not empty is the beginning of the whole text, and not empty. -/
theorem mem_reportsAfter {text report : String} {texts : List String}
    (hne : ∀ t ∈ texts, t ≠ "") (h : report ∈ reportsAfter text texts) :
    report ≠ "" ∧ ∃ more, text ++ String.join texts = report ++ more := by
  induction texts generalizing text with
  | nil => simp [reportsAfter] at h
  | cons first rest ih =>
    have hfirst : first ≠ "" := hne first List.mem_cons_self
    have hrest : ∀ t ∈ rest, t ≠ "" := fun t ht => hne t (List.mem_cons_of_mem first ht)
    have hjoin : text ++ String.join (first :: rest) = text ++ first ++ String.join rest := by
      rw [String.join_cons, String.append_assoc]
    rw [hjoin]
    rcases List.mem_cons.1 h with rfl | h
    · exact ⟨by simp [hfirst], String.join rest, rfl⟩
    · exact ih hrest h

/-- No report ends the stream when the whole text, whatever follows, does not look like an error. -/
theorem endsStream_report {report rest : String} {texts : List String} (hne : ∀ t ∈ texts, t ≠ "")
    (h : report ∈ reportsAfter "" texts)
    (hmark : (String.join texts ++ rest).toList.head? ≠ some Stream.errorMark) :
    Stream.endsStream (some report) = false := by
  obtain ⟨hreport, more, hmore⟩ := mem_reportsAfter hne h
  have hchars : Stream.rawChars (some report) ≠ [] := by simpa [Stream.rawChars] using hreport
  refine Stream.endsStream_eq_false hchars ?_
  -- the report starts with the first character of the whole text
  have hwhole : String.join texts ++ rest = report ++ (more ++ rest) := by
    rw [← String.append_assoc, ← hmore, String.empty_append]
  have hhead : (Stream.rawChars (some report)).head?.isSome := List.isSome_head?.2 hchars
  rw [hwhole, String.toList_append, List.head?_append] at hmark
  rwa [show report.toList = Stream.rawChars (some report) from rfl, Option.or_of_isSome hhead] at hmark

/-! ## Contents -/

theorem withPoint_ne_nil (whole : Nat) (digits : List Char) :
    Layout.withPoint whole digits ≠ [] := by
  unfold Layout.withPoint
  split <;> simp

theorem magnitude_ne_nil (l : Layout) (m : Nat) (e : Int) : l.magnitude m e ≠ [] := by
  unfold Layout.magnitude
  split
  · simp
  · simp only
    split
    · unfold Layout.positional
      split
      · exact withPoint_ne_nil _ _
      · simp
    · simp [Layout.scientific]

/-- Every value is shown by at least one character. -/
theorem displayed_ne_nil (j : Json) : Display.write j ≠ [] := by
  cases j with
  | null => simp [Display.write]
  | bool b => cases b <;> simp [Display.write]
  | int i =>
    cases i with
    | ofNat n => simp [Display.write, decimalChars]
    | negSucc n => simp [Display.write, decimalChars]
  | float x =>
    rw [Display.write]
    cases x with
    | nan => simp [Layout.write, Display.numberLayout]
    | infinite negative => cases negative <;> simp [Layout.write, Display.numberLayout]
    | finite negative m e => cases negative <;> simp [Layout.write, magnitude_ne_nil]
  | str s => simp [Display.write, Display.quote]
  | arr xs => cases xs <;> simp [Display.write]
  | obj ms => cases ms <;> simp [Display.write]

theorem shown_ne_empty {content : Json} (h : content.isGiven = true) : content.shown ≠ "" := by
  cases content with
  | str s => simpa [Json.isGiven, Json.shown] using h
  | _ => simp [Json.shown, Json.quoted, displayed_ne_nil]

/-- No text of a chunk is empty: a content that is missing or empty is none of its texts. -/
theorem Chunk.texts_ne_empty {chunk : Chunk} : ∀ t ∈ chunk.texts, t ≠ "" := by
  intro t ht
  obtain ⟨content, hcontent, hshown⟩ := List.mem_map.1 ht
  rw [← hshown]
  exact shown_ne_empty (List.mem_filter.1 hcontent).2

theorem texts_ne_empty {chunks : List Chunk} : ∀ t ∈ chunks.flatMap Chunk.texts, t ≠ "" := by
  intro t ht
  obtain ⟨chunk, _, htext⟩ := List.mem_flatMap.1 ht
  exact Chunk.texts_ne_empty t htext

/-! ## Reading -/

/-- The signal as it looks to one who has already read so many chunks and made so many reports. -/
def StopSignal.since (stop : StopSignal) (chunks reports : Nat) : StopSignal :=
  fun more further => stop (chunks + more) (reports + further)

@[simp] theorem StopSignal.since_zero (stop : StopSignal) : stop.since 0 0 = stop := by
  funext more further
  simp [since]

@[simp] theorem StopSignal.since_since (stop : StopSignal) (a b c d : Nat) :
    (stop.since a b).since c d = stop.since (a + c) (b + d) := by
  funext more further
  simp [since, Nat.add_assoc]

/-- A chunk that comes while the signal is not set is read before the rest. -/
theorem ReadUntil.cons {stop : StopSignal} {chunk : Chunk} {chunks read : List Chunk}
    (hopen : stop 0 0 = false) (h : ReadUntil (stop.since 1 chunk.texts.length) chunks read) :
    ReadUntil stop (chunk :: chunks) (chunk :: read) := by
  refine ⟨?_, ?_, ?_⟩
  · exact List.prefix_cons_inj chunk |>.2 h.start
  · intro i hi
    cases i with
    | zero => simpa using hopen
    | succ i =>
      have hrest := h.unset i (by simpa using hi)
      simpa [StopSignal.since, Nat.add_comm 1 i] using hrest
  · intro hne
    have hrest := h.set (fun heq => hne (by rw [heq]))
    simpa [StopSignal.since, Nat.add_comm 1] using hrest

namespace Progress

/-- What a worker has when it stops reading: it has taken in the chunks up to the signal. -/
theorem read_eq (stop : StopSignal) {p : Progress} (hp : p.stopped = false) (chunks : List Chunk) :
    ∃ read, ReadUntil (stop.since p.chunks p.reports.length) chunks read ∧
      (p.read stop chunks).reports =
        p.reports ++ reportsAfter p.text (read.flatMap Chunk.texts) ∧
      ((p.read stop chunks).stopped = false ↔ read.length = chunks.length) := by
  induction chunks generalizing p with
  | nil =>
    refine ⟨[], ⟨List.prefix_rfl, by simp, by simp⟩, ?_, ?_⟩
    · simp [Progress.read, reportsAfter]
    · simp [Progress.read, hp]
  | cons chunk rest ih =>
    cases hstop : stop p.chunks p.reports.length with
    | true =>
      -- the signal is heeded before the chunk is looked at
      have hread : p.read stop (chunk :: rest) = { p with stopped := true } := by
        simp [Progress.read, hstop]
      refine ⟨[], ⟨List.nil_prefix, by simp, ?_⟩, ?_, ?_⟩
      · intro _
        simpa [StopSignal.since] using hstop
      · simp [hread, reportsAfter]
      · simp [hread]
    | false =>
      have hread : p.read stop (chunk :: rest) = (p.addChunk chunk).read stop rest := by
        simp [Progress.read, hstop]
      have hadd : p.addChunk chunk = { p with
          chunks := p.chunks + 1
          text := p.text ++ String.join chunk.texts
          reports := p.reports ++ reportsAfter p.text chunk.texts } := by
        simp [addChunk, foldl_add]
      have hopen : (p.addChunk chunk).stopped = false := by
        rw [hadd]
        exact hp
      obtain ⟨read, huntil, hreports, hstopped⟩ := ih hopen
      refine ⟨chunk :: read, .cons ?_ ?_, ?_, ?_⟩
      · simpa [StopSignal.since] using hstop
      · have hsince : (stop.since p.chunks p.reports.length).since 1 chunk.texts.length =
            stop.since (p.addChunk chunk).chunks (p.addChunk chunk).reports.length := by
          simp [hadd, length_reportsAfter]
        rw [hsince]
        exact huntil
      · rw [hread, hreports, hadd]
        simp [reportsAfter_append]
      · rw [hread, hstopped]
        simp

end Progress

/-! ## Every stream -/

/-- A worker pushes what it has reported, and then the end. -/
theorem payloads_onStream_eq {s : ChunkStream}
    (hclose : s.closable = true → s.closeFailure = none) {stop : StopSignal} {p : Progress}
    (hp : Progress.read stop {} s.chunks = p) :
    (Work.onStream s stop).payloads =
      p.reports.map some ++ [endingOf (if p.stopped then none else s.failure)] := by
  unfold Work.onStream
  simp only [hp]
  split
  · -- the stream failed
    rename_i e hstopped hfailure
    simp only [hstopped, hfailure]
    rfl
  · rename_i hother
    have hnone : (if p.stopped then none else s.failure) = none := by
      cases hstopped : p.stopped with
      | true => rfl
      | false =>
        cases hfailure : s.failure with
        | none => rfl
        | some e => exact (hother e hstopped hfailure).elim
    rw [hnone]
    split
    · rename_i hclosable hfails
      rw [hclose hclosable] at hfails
      contradiction
    · rfl

/-- What a worker pushes of a stream that is closed without a failure, by the chunks it reads. -/
theorem payloads_onStream_until {s : ChunkStream}
    (hclose : s.closable = true → s.closeFailure = none) (stop : StopSignal) :
    ∃ read, ReadUntil stop s.chunks read ∧
      (Work.onStream s stop).payloads =
        (reportsAfter "" (read.flatMap Chunk.texts)).map some ++
          [endingOf (raised (.ok s) read)] := by
  obtain ⟨read, huntil, hreports, hstopped⟩ := Progress.read_eq stop (p := {}) rfl s.chunks
  refine ⟨read, by simpa using huntil, ?_⟩
  have hraised : (if (Progress.read stop {} s.chunks).stopped then none else s.failure) =
      raised (.ok s) read := by
    unfold raised
    by_cases hall : read.length = s.chunks.length
    · simp [hall, hstopped.2 hall]
    · have hearly : (Progress.read stop {} s.chunks).stopped = true := by
        simpa [hall] using hstopped
      simp [hall, hearly]
  rw [payloads_onStream_eq hclose rfl, hreports, hraised]
  rfl

/-- For everything a server can answer when it is asked for a stream, and every time at which the
stop signal may be set: a worker reports, for each text of the chunks that came before the signal was
heeded, the whole text so far, so that each report goes beyond the one before; one payload that ends
the stream follows, and nothing after it. It is an error with the text of what was raised, or its
name, and without that the plain end. The stream must not fail to close, and its text must not begin
with the mark of an error. -/
theorem payloads_reports_then_ending {opened : Except Fault ChunkStream}
    (hclose : ∀ s, opened = .ok s → s.closable = true → s.closeFailure = none)
    (hmark : (String.join ((offered opened).flatMap Chunk.texts)).toList.head? ≠
      some Stream.errorMark) (stop : StopSignal) :
    ∃ read, ReadUntil stop (offered opened) read ∧
      ∃ reports ending,
        reports = reportsAfter "" (read.flatMap Chunk.texts) ∧
        ending = endingOf (raised opened read) ∧
        (Work.run opened stop).payloads = reports.map some ++ [ending] ∧
        ("" :: reports).IsChain GoesBeyond ∧
        (∀ report ∈ reports, Stream.endsStream (some report) = false) ∧
        Stream.endsStream ending = true := by
  have hpayloads : ∃ read, ReadUntil stop (offered opened) read ∧
      (Work.run opened stop).payloads =
        (reportsAfter "" (read.flatMap Chunk.texts)).map some ++ [endingOf (raised opened read)] := by
    cases opened with
    | error e =>
      -- there is nothing to read
      exact ⟨[], ⟨List.prefix_rfl, by simp, by simp [offered]⟩, rfl⟩
    | ok s => exact payloads_onStream_until (hclose s rfl) stop
  obtain ⟨read, huntil, heq⟩ := hpayloads
  have hchain := isChain_reportsAfter "" (@texts_ne_empty read)
  refine ⟨read, huntil, _, _, rfl, rfl, heq, hchain, ?_, endsStream_endingOf _⟩
  intro report hreport
  -- what is read is the beginning of the whole text
  obtain ⟨rest, hrest⟩ := huntil.start
  have hjoin : String.join ((offered opened).flatMap Chunk.texts) =
      String.join (read.flatMap Chunk.texts) ++ String.join (rest.flatMap Chunk.texts) := by
    rw [← hrest, List.flatMap_append, String.join_append]
  rw [hjoin] at hmark
  exact endsStream_report texts_ne_empty hreport hmark

/-- A stream with missing and empty contents that fails, without a text, after its last chunk. -/
def failingStream : Except Fault ChunkStream := .ok
  { chunks := [[.str "a", .null], [], [.str "", .str "b"]], failure := some (.plain .value "") }

theorem payloads_reports_then_ending_failingStream :
    (∀ s, failingStream = .ok s → s.closable = true → s.closeFailure = none) ∧
      (String.join ((offered failingStream).flatMap Chunk.texts)).toList.head? ≠
        some Stream.errorMark ∧
      (Work.run failingStream .never).payloads = [some "a", some "ab", some "\x02ValueError"] ∧
      ∃ read, ReadUntil .never (offered failingStream) read ∧
        ∃ reports ending,
          reports = reportsAfter "" (read.flatMap Chunk.texts) ∧
          ending = endingOf (raised failingStream read) ∧
          (Work.run failingStream .never).payloads = reports.map some ++ [ending] ∧
          ("" :: reports).IsChain GoesBeyond ∧
          (∀ report ∈ reports, Stream.endsStream (some report) = false) ∧
          Stream.endsStream ending = true := by
  have hclose : ∀ s, failingStream = .ok s → s.closable = true → s.closeFailure = none := by
    intro s hs _
    rw [← Except.ok.inj hs]
  have hmark : (String.join ((offered failingStream).flatMap Chunk.texts)).toList.head? ≠
      some Stream.errorMark := by decide +kernel
  have hpayloads : (Work.run failingStream .never).payloads =
      [some "a", some "ab", some "\x02ValueError"] := by decide +kernel
  exact ⟨hclose, hmark, hpayloads, payloads_reports_then_ending hclose hmark .never⟩

end Dialogue.Server
