import Dialogue.Server.Basic
import Dialogue.Stream.Payload
import Dialogue.Journal.Note

/-!
# Dialogue.Server.Worker — reading a server's stream

A worker reads the chunks of a stream and reports the whole text so far for every text that they
hold. Before it looks at a chunk it looks at the stop signal, and stops reading once that is set. At
the end it closes the stream and reports the end; a failure of the stream is reported as an error,
before the stream is closed. When closing fails after an orderly end, nothing more is reported.
-/

namespace Dialogue.Server

/-- Whether a worker has been asked to stop, when it has read so many chunks and made so many
reports. -/
abbrev StopSignal := (chunks reports : Nat) → Bool

/-- The signal that is never set. -/
def StopSignal.never : StopSignal := fun _ _ => false

/-- How far a worker has come. -/
structure Progress where
  chunks : Nat := 0
  text : String := ""
  /-- The texts reported. -/
  reports : List String := []
  stopped : Bool := false
deriving DecidableEq, Repr

namespace Progress

/-- Takes in one more text. -/
def add (p : Progress) (text : String) : Progress :=
  { p with text := p.text ++ text, reports := p.reports ++ [p.text ++ text] }

/-- Takes in a chunk. -/
def addChunk (p : Progress) (c : Chunk) : Progress :=
  let p := c.texts.foldl add p
  { p with chunks := p.chunks + 1 }

/-- Reads chunks until they are over or the worker is asked to stop. -/
def read (stop : StopSignal) (p : Progress) : List Chunk → Progress
  | [] => p
  | c :: rest =>
    if stop p.chunks p.reports.length then { p with stopped := true }
    else read stop (p.addChunk c) rest

end Progress

/-- What a worker did. -/
structure Work where
  payloads : List Stream.RawPayload
  notes : List Journal.Note
  /-- Whether the stream was closed, if there was one. -/
  closed : Option Bool

namespace Work

def source : String := "localfm.native.openai_runtime"

def note (level : Journal.Level) (message : String) : Journal.Note :=
  ⟨level, source, message, .detached⟩

/-- The payload that reports a fault. -/
def faultPayload (e : Fault) : Stream.RawPayload := some (Stream.errorPayload e.textOrName)

/-- The note of a fault. -/
def faultNote (e : Fault) : Journal.Note := note .warning s!"stream generation failed: {e.text}"

/-- The work on a stream that could not be had. -/
def refused (e : Fault) : Work := ⟨[faultPayload e], [faultNote e], none⟩

/-- The work on a stream. -/
def onStream (s : ChunkStream) (stop : StopSignal) : Work :=
  let p := Progress.read stop {} s.chunks
  let reports : List Stream.RawPayload := p.reports.map some
  let closed := some (s.closable && s.closeFailure.isNone)
  let stopNotes :=
    if p.stopped then [note .debug "stream cancelled, stopped reading from server"] else []
  match p.stopped, s.failure with
  | false, some e => ⟨reports ++ [faultPayload e], [faultNote e], closed⟩
  | _, _ =>
    match s.closable, s.closeFailure with
    | true, some _ => ⟨reports, stopNotes, closed⟩
    | _, _ =>
      ⟨reports ++ [none], stopNotes ++ [note .debug s!"stream finished ({p.text.length} chars)"],
        closed⟩

/-- The work on what a server gave when it was asked for a stream. -/
def run (opened : Except Fault ChunkStream) (stop : StopSignal) : Work :=
  match opened with
  | .error e => refused e
  | .ok s => onStream s stop

end Work

end Dialogue.Server
