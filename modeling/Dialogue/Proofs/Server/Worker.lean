import Dialogue.Proofs.Stream.Reading
import Dialogue.Server.Worker

/-!
# Dialogue.Proofs.Server.Worker — what a worker reports of a stream

A worker that is never asked to stop reads all chunks and reports, for each text in them, the whole
text so far (`reportsAfter`), and then the end. A bridge makes of these reports the texts again, as
deltas: `eventsAfter_reports`.

`ChunkStream.Spells s text` says that the contents of a stream are texts or missing and that they
make up `text`, however they are spread over chunks and choices.
-/

namespace Dialogue.Server

/-- The reports of texts that come after a text: each is the whole text so far. -/
def reportsAfter (text : String) : List String → List String
  | [] => []
  | more :: rest => (text ++ more) :: reportsAfter (text ++ more) rest

theorem reportsAfter_append (text : String) (first second : List String) :
    reportsAfter text (first ++ second) =
      reportsAfter text first ++ reportsAfter (text ++ String.join first) second := by
  induction first generalizing text with
  | nil => simp [reportsAfter]
  | cons more rest ih => simp [reportsAfter, ih, String.append_assoc]

/-- The texts of a stream that a worker reports. -/
def ChunkStream.texts (s : ChunkStream) : List String := s.chunks.flatMap Chunk.texts

/-- The contents of a stream, which runs to its end, are texts that make up the whole, or missing. -/
structure ChunkStream.Spells (s : ChunkStream) (text : String) : Prop where
  contents : ∀ content ∈ s.chunks.flatten, content = .null ∨ ∃ part, content = .str part
  join : String.join (s.chunks.flatten.filterMap Json.text?) = text
  failure : s.failure = none
  closeFailure : s.closeFailure = none

namespace Progress

theorem foldl_add (p : Progress) (texts : List String) :
    texts.foldl add p =
      { p with
        text := p.text ++ String.join texts
        reports := p.reports ++ reportsAfter p.text texts } := by
  induction texts generalizing p with
  | nil => simp [reportsAfter]
  | cons text rest ih =>
    rw [List.foldl_cons, ih]
    simp [add, reportsAfter, String.append_assoc]

/-- A worker that is never asked to stop takes in every chunk. -/
theorem read_never (p : Progress) (chunks : List Chunk) :
    (read .never p chunks).text = p.text ++ String.join (chunks.flatMap Chunk.texts) ∧
      (read .never p chunks).reports =
        p.reports ++ reportsAfter p.text (chunks.flatMap Chunk.texts) ∧
      (read .never p chunks).stopped = p.stopped := by
  induction chunks generalizing p with
  | nil => simp [read, reportsAfter]
  | cons chunk rest ih =>
    obtain ⟨htext, hreports, hstopped⟩ := ih (p.addChunk chunk)
    have hread : read .never p (chunk :: rest) = read .never (p.addChunk chunk) rest := by
      simp [read, StopSignal.never]
    rw [hread, htext, hreports, hstopped]
    simp [addChunk, foldl_add, reportsAfter_append, String.append_assoc]

end Progress

/-! ## The texts that are reported -/

theorem join_filter_ne_empty (texts : List String) :
    String.join (texts.filter (· ≠ "")) = String.join texts := by
  induction texts with
  | nil => rfl
  | cons text rest ih =>
    by_cases h : text = ""
    · simpa [h] using ih
    · simpa [h] using ih

/-- What is reported of contents that are texts or missing is the texts that are not empty. -/
theorem texts_eq {chunk : Chunk}
    (h : ∀ content ∈ chunk, content = .null ∨ ∃ part, content = .str part) :
    chunk.texts = (chunk.filterMap Json.text?).filter (· ≠ "") := by
  unfold Chunk.texts
  induction chunk with
  | nil => rfl
  | cons content rest ih =>
    have hrest := ih fun c hc => h c (List.mem_cons_of_mem content hc)
    rcases h content List.mem_cons_self with rfl | ⟨part, rfl⟩
    · -- a missing content is passed over, and an empty one as well
      have hgiven : ¬ Json.isGiven .null = true := by simp [Json.isGiven]
      have htext : Json.text? .null = none := rfl
      rw [List.filter_cons_of_neg hgiven, List.filterMap_cons_none htext, hrest]
    · have htext : Json.text? (.str part) = some part := rfl
      rw [List.filterMap_cons_some htext]
      by_cases hpart : part = ""
      · have hgiven : ¬ Json.isGiven (.str part) = true := by simp [Json.isGiven, hpart]
        rw [List.filter_cons_of_neg hgiven, List.filter_cons_of_neg (by simpa using hpart), hrest]
      · have hgiven : Json.isGiven (.str part) = true := by simp [Json.isGiven, hpart]
        rw [List.filter_cons_of_pos hgiven, List.filter_cons_of_pos (by simpa using hpart),
          List.map_cons, hrest]
        rfl

theorem ChunkStream.texts_eq_flatten (s : ChunkStream) :
    s.texts = Chunk.texts s.chunks.flatten := by
  unfold ChunkStream.texts Chunk.texts
  rw [List.filter_flatten, List.map_flatten, List.map_map, ← List.flatMap_def]
  rfl

namespace ChunkStream.Spells

variable {s : ChunkStream} {text : String}

theorem ne_empty (h : s.Spells text) : ∀ part ∈ s.texts, part ≠ "" := by
  rw [s.texts_eq_flatten, texts_eq h.contents]
  simp

theorem join_texts (h : s.Spells text) : String.join s.texts = text := by
  rw [s.texts_eq_flatten, texts_eq h.contents, join_filter_ne_empty]
  exact h.join

end ChunkStream.Spells

/-! ## The events that reports stand for -/

/-- Reports of texts that are not empty stand for these texts as deltas, unless the whole text looks
like an error. -/
theorem eventsAfter_reports (text : String) {texts : List String} (hne : ∀ t ∈ texts, t ≠ "")
    (hmark : (text ++ String.join texts).toList.head? ≠ some Stream.errorMark) :
    Stream.eventsAfter text.toList ((reportsAfter text texts).map some ++ [none]) =
        texts.map .textDelta ++ [.finished] ∧
      Stream.textAfter text.toList ((reportsAfter text texts).map some ++ [none]) =
        (text ++ String.join texts).toList := by
  induction texts generalizing text with
  | nil =>
    simp [reportsAfter, Stream.eventsAfter, Stream.textAfter, Stream.rawChars, Stream.endsStream,
      Event.finished]
  | cons more rest ih =>
    have hmore : more ≠ "" := hne more List.mem_cons_self
    rw [String.join_cons, ← String.append_assoc] at hmark ⊢
    obtain ⟨hevents, htext⟩ :=
      ih (text ++ more) (fun t ht => hne t (List.mem_cons_of_mem more ht)) hmark
    -- the report is not empty, and it starts like the whole text
    have hraw : Stream.rawChars (some (text ++ more)) = (text ++ more).toList := rfl
    have hends : Stream.endsStream (some (text ++ more)) = false := by
      have hchars : (text ++ more).toList ≠ [] := by simp [hmore]
      refine Stream.endsStream_eq_false hchars ?_
      have hhead : (text ++ more).toList.head?.isSome := List.isSome_head?.2 hchars
      rw [String.toList_append, List.head?_append, Option.or_of_isSome hhead] at hmark
      exact hmark
    have hdelta : (text ++ more).toList.drop text.toList.length = more.toList := by simp
    rw [reportsAfter, List.map_cons, List.cons_append, Stream.eventsAfter_cons_text hends,
      Stream.textAfter_cons_text hends, hraw, hdelta, Stream.deltaEvents_toList hmore, hevents]
    exact ⟨rfl, htext⟩

/-- A stream that runs to its end is reported text by text, and then its end. -/
theorem payloads_onStream {s : ChunkStream} (hfailure : s.failure = none)
    (hclose : s.closeFailure = none) :
    (Work.onStream s .never).payloads = (reportsAfter "" s.texts).map some ++ [none] := by
  obtain ⟨-, hreports, hstopped⟩ := Progress.read_never {} s.chunks
  unfold Work.onStream
  simp only [hfailure, hclose, hreports, hstopped]
  split
  · rename_i h
    contradiction
  · split
    · rename_i h
      contradiction
    · rfl

end Dialogue.Server
