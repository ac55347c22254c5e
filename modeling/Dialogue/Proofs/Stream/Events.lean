import Dialogue.Stream.Reading

/-!
# Dialogue.Proofs.Stream.Events — the events that payloads stand for

`eventsAfter` says which events a sequence of payloads stands for, without a bridge: each text
gives the part beyond the length of the text before it, unless that part is empty, and the first
payload that ends the stream gives the last event. `textAfter` is the text that is known then.

* `deliver_eq` — a bridge takes in a payload by pushing just these events;
* `eventsAfter_append` — the events of a sequence are those of its parts, up to the first end;
* `deltaText_eventsAfter` — when each text extends the one before, the deltas add up to the text.
-/

namespace Dialogue.Stream

/-- The characters of a payload; a missing payload has none. -/
def rawChars (raw : RawPayload) : List Char :=
  match raw with
  | none => []
  | some text => text.toList

/-- Whether a payload ends its stream: it is missing, empty, or reports an error. -/
def endsStream (raw : RawPayload) : Bool :=
  match rawChars raw with
  | [] => true
  | c :: _ => c == errorMark

/-- The event of a part of a text, unless the part is empty. -/
def deltaEvents (delta : List Char) : List Event :=
  if delta.isEmpty then [] else [.textDelta (String.ofList delta)]

/-- The events that payloads stand for when `text` is the text before them. -/
def eventsAfter (text : List Char) : List RawPayload → List Event
  | [] => []
  | raw :: rest =>
    match rawChars raw with
    | [] => [.done (some "stop")]
    | c :: cs =>
      if c = errorMark then [.error (String.ofList cs)]
      else deltaEvents ((c :: cs).drop text.length) ++ eventsAfter (c :: cs) rest

/-- The last text among payloads before the end of their stream, when `text` is the text before
them. -/
def textAfter (text : List Char) : List RawPayload → List Char
  | [] => text
  | raw :: rest => if endsStream raw then text else textAfter (rawChars raw) rest

/-- Each text, up to the end of the stream, extends the text before it. -/
def Cumulative (text : List Char) : List RawPayload → Prop
  | [] => True
  | raw :: rest => endsStream raw ∨ text <+: rawChars raw ∧ Cumulative (rawChars raw) rest

/-- The characters of all deltas among events. -/
def deltaText (es : List Event) : List Char :=
  (es.filterMap Event.delta?).flatMap String.toList

/-! ## Sequences of payloads -/

@[simp] theorem eventsAfter_nil (text : List Char) : eventsAfter text [] = [] := rfl

@[simp] theorem textAfter_nil (text : List Char) : textAfter text [] = text := rfl

/-- A payload with a text that does not start with the mark does not end the stream. -/
theorem endsStream_eq_false {raw : RawPayload} (hne : rawChars raw ≠ [])
    (hmark : (rawChars raw).head? ≠ some errorMark) : endsStream raw = false := by
  unfold endsStream
  cases hc : rawChars raw with
  | nil => contradiction
  | cons c cs => simpa [hc] using hmark

/-- A text in front of payloads gives its delta. -/
theorem eventsAfter_cons_text {raw : RawPayload} (h : endsStream raw = false) (text : List Char)
    (rest : List RawPayload) :
    eventsAfter text (raw :: rest) =
      deltaEvents ((rawChars raw).drop text.length) ++ eventsAfter (rawChars raw) rest := by
  unfold endsStream at h
  rw [eventsAfter]
  cases hc : rawChars raw with
  | nil => simp [hc] at h
  | cons c cs =>
    have hne : c ≠ errorMark := by simpa [hc] using h
    simp [hne]

/-- What follows a payload that ends the stream does not count. -/
theorem eventsAfter_cons_end {raw : RawPayload} (h : endsStream raw = true) (text : List Char)
    (rest : List RawPayload) :
    eventsAfter text (raw :: rest) = eventsAfter text [raw] := by
  unfold endsStream at h
  rw [eventsAfter, eventsAfter]
  cases hc : rawChars raw with
  | nil => rfl
  | cons c cs =>
    have he : c = errorMark := by simpa [hc] using h
    simp [he]

theorem textAfter_cons_text {raw : RawPayload} (h : endsStream raw = false) (text : List Char)
    (rest : List RawPayload) :
    textAfter text (raw :: rest) = textAfter (rawChars raw) rest := by
  simp [textAfter, h]

/-- The events of a sequence are those of its first part, and those of the second unless the stream
ended before. -/
theorem eventsAfter_append (text : List Char) (first second : List RawPayload) :
    eventsAfter text (first ++ second) =
      eventsAfter text first ++
        if first.any endsStream then [] else eventsAfter (textAfter text first) second := by
  induction first generalizing text with
  | nil => simp
  | cons raw rest ih =>
    cases h : endsStream raw with
    | true =>
      -- neither side looks past the end of the stream
      rw [List.cons_append, eventsAfter_cons_end h, eventsAfter_cons_end h text rest]
      simp [h]
    | false =>
      rw [List.cons_append, eventsAfter_cons_text h, eventsAfter_cons_text h,
        textAfter_cons_text h, ih, List.append_assoc]
      simp [h]

theorem textAfter_append (text : List Char) (first second : List RawPayload) :
    textAfter text (first ++ second) =
      if first.any endsStream then textAfter text first
      else textAfter (textAfter text first) second := by
  induction first generalizing text with
  | nil => simp
  | cons raw rest ih =>
    cases h : endsStream raw with
    | true => simp [textAfter, h]
    | false => simp [textAfter, h, ih]

/-! ## Deltas and text -/

theorem deltaText_append (es fs : List Event) :
    deltaText (es ++ fs) = deltaText es ++ deltaText fs := by
  simp [deltaText]

theorem deltaEvents_toList {delta : String} (h : delta ≠ "") :
    deltaEvents delta.toList = [.textDelta delta] := by
  simp [deltaEvents, h]

theorem deltaText_deltaEvents (delta : List Char) : deltaText (deltaEvents delta) = delta := by
  unfold deltaEvents
  split
  · rename_i h
    rw [List.isEmpty_iff.1 h]
    rfl
  · simp [deltaText, Event.delta?]

/-- A payload that ends the stream adds no text. -/
theorem deltaText_end {raw : RawPayload} (h : endsStream raw = true) (text : List Char) :
    deltaText (eventsAfter text [raw]) = [] := by
  unfold endsStream at h
  rw [eventsAfter]
  cases hc : rawChars raw with
  | nil => rfl
  | cons c cs =>
    have he : c = errorMark := by simpa [hc] using h
    simp [he, deltaText, Event.delta?]

/-- When each text extends the one before, the deltas are what has been added to the text. -/
theorem append_deltaText_eventsAfter {text : List Char} {raws : List RawPayload}
    (h : Cumulative text raws) :
    text ++ deltaText (eventsAfter text raws) = textAfter text raws := by
  induction raws generalizing text with
  | nil => simp [deltaText]
  | cons raw rest ih =>
    cases he : endsStream raw with
    | true => rw [eventsAfter_cons_end he, deltaText_end he]; simp [textAfter, he]
    | false =>
      obtain ⟨⟨added, hadded⟩, hrest⟩ :
          text <+: rawChars raw ∧ Cumulative (rawChars raw) rest := by
        rcases h with h | h
        · simp [he] at h
        · exact h
      rw [eventsAfter_cons_text he, textAfter_cons_text he, ← ih hrest, deltaText_append,
        deltaText_deltaEvents, ← List.append_assoc]
      congr 1
      -- the text before is a prefix of this one, so dropping its length leaves what was added
      rw [← hadded, List.drop_left]

/-- When each text extends the one before, the deltas add up to the text. -/
theorem deltaText_eventsAfter {raws : List RawPayload} (h : Cumulative [] raws) :
    deltaText (eventsAfter [] raws) = textAfter [] raws := by
  simpa using append_deltaText_eventsAfter h

/-! ## Bridges -/

namespace Bridge

/-- Pushes events one after the other. -/
def pushAll (es : List Event) (b : Bridge) : Bridge := es.foldl (fun b e => b.push e) b

/-- The bridge that remembers the text of a payload, or the end. -/
def remember (raw : RawPayload) (b : Bridge) : Bridge :=
  { b with text := textAfter b.text [raw], terminal := endsStream raw }

@[simp] theorem pushAll_nil (b : Bridge) : b.pushAll [] = b := rfl

@[simp] theorem pushAll_cons (e : Event) (es : List Event) (b : Bridge) :
    b.pushAll (e :: es) = (b.push e).pushAll es := rfl

@[simp] theorem text_remember (raw : RawPayload) (b : Bridge) :
    (b.remember raw).text = textAfter b.text [raw] := rfl

@[simp] theorem terminal_remember (raw : RawPayload) (b : Bridge) :
    (b.remember raw).terminal = endsStream raw := rfl

@[simp] theorem cancelled_remember (raw : RawPayload) (b : Bridge) :
    (b.remember raw).cancelled = b.cancelled := rfl

@[simp] theorem queue_remember (raw : RawPayload) (b : Bridge) :
    (b.remember raw).queue = b.queue := rfl

@[simp] theorem handed_remember (raw : RawPayload) (b : Bridge) :
    (b.remember raw).handed = b.handed := rfl

@[simp] theorem waiter_remember (raw : RawPayload) (b : Bridge) :
    (b.remember raw).waiter = b.waiter := rfl

/-- A pushed event touches nothing but the queue, the waiting call and what is on its way. -/
theorem push_frame (e : Event) (b : Bridge) :
    ∃ queue waiter handed, b.push e = { b with queue, waiter, handed } := by
  unfold push
  split
  · exact ⟨_, _, _, rfl⟩
  · exact ⟨_, _, _, rfl⟩

theorem pushAll_frame (es : List Event) (b : Bridge) :
    ∃ queue waiter handed, b.pushAll es = { b with queue, waiter, handed } := by
  induction es generalizing b with
  | nil => exact ⟨_, _, _, rfl⟩
  | cons e rest ih =>
    obtain ⟨queue, waiter, handed, hpush⟩ := push_frame e b
    obtain ⟨queue', waiter', handed', hrest⟩ := ih (b.push e)
    exact ⟨queue', waiter', handed', by rw [pushAll_cons, hrest, hpush]⟩

@[simp] theorem text_pushAll (es : List Event) (b : Bridge) : (b.pushAll es).text = b.text := by
  obtain ⟨_, _, _, h⟩ := pushAll_frame es b
  rw [h]

@[simp] theorem terminal_pushAll (es : List Event) (b : Bridge) :
    (b.pushAll es).terminal = b.terminal := by
  obtain ⟨_, _, _, h⟩ := pushAll_frame es b
  rw [h]

@[simp] theorem cancelled_pushAll (es : List Event) (b : Bridge) :
    (b.pushAll es).cancelled = b.cancelled := by
  obtain ⟨_, _, _, h⟩ := pushAll_frame es b
  rw [h]

/-- A payload after the end is dropped. -/
theorem deliver_dropped {b : Bridge} (h : (b.terminal || b.cancelled) = true) (raw : RawPayload) :
    b.deliver raw = b := by
  simp [deliver, h]

/-- A payload before the end is remembered and becomes its events. -/
theorem deliver_eq {b : Bridge} (ht : b.terminal = false) (hc : b.cancelled = false)
    (raw : RawPayload) :
    b.deliver raw = (b.remember raw).pushAll (eventsAfter b.text [raw]) := by
  cases raw with
  | none =>
    -- a missing payload is the end
    simp [deliver, remember, ht, hc, Payload.ofRaw, eventsAfter, textAfter, endsStream, rawChars,
      Event.finished]
  | some text =>
    cases hchars : text.toList with
    | nil =>
      -- and so is an empty one
      simp [deliver, remember, ht, hc, Payload.ofRaw, eventsAfter, textAfter, endsStream, rawChars,
        hchars, Event.finished]
    | cons c cs =>
      by_cases he : c = errorMark
      · simp [deliver, remember, ht, hc, Payload.ofRaw, eventsAfter, textAfter, endsStream,
          rawChars, hchars, he]
      · have hends : endsStream (some text) = false := by simp [endsStream, rawChars, hchars, he]
        have hraw : rawChars (some text) = c :: cs := by simp [rawChars, hchars]
        rw [remember, eventsAfter_cons_text hends, textAfter_cons_text hends, hraw, hends]
        -- a text that adds nothing is remembered without an event
        by_cases hd : ((c :: cs).drop b.text.length).isEmpty = true
        · simp [deliver, ht, hc, Payload.ofRaw, hchars, he, deltaEvents, deltaOf, hd]
        · simp [deliver, ht, hc, Payload.ofRaw, hchars, he, deltaEvents, deltaOf, hd]

end Bridge

end Dialogue.Stream
