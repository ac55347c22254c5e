import Dialogue.Stream.Bridge

/-!
# Dialogue.Stream.Schedule — tasks that read a bridge, on one loop

A loop runs one thing at a time, in the order in which things became ready: a payload posted by a
worker, a task that starts, or a task whose wait is over. A task runs until it waits or is done.

* `Job` says what a task does: ask for one event, or read until the end.
* `Schedule.command` does what the loop's owner asks for; nothing that is ready runs meanwhile.
* `Schedule.runUntilIdle` then runs what is ready. Each thing that runs lowers `Schedule.work`, so
  that many turns are enough.
-/

namespace Dialogue.Stream

/-! ## Tasks -/

/-- What a task does. -/
inductive Job where
  /-- Asks for the next event; none at the end. -/
  | nextEvent
  /-- Asks for the next event; the end is a stop. -/
  | nextItem
  /-- Reads all events. -/
  | collect
  /-- Reads all deltas, and leaves the stream when it is through. -/
  | collectText
  /-- Asks the open text feed for the next delta. -/
  | nextText
deriving DecidableEq, Repr

/-- How a task ended. -/
inductive Outcome where
  | event (e : Event)
  | nothing
  | stop
  | events (es : List Event)
  | text (t : String)
  | texts (ts : List String)
  | abandoned
  | failed (message : String)
  | busy
  /-- The text feed was in use by another task. -/
  | feedBusy
deriving DecidableEq, Repr

/-- How far a task has come. -/
inductive Phase where
  | fresh (abandoned : Bool)
  | waiting
  | done (outcome : Outcome)
deriving DecidableEq, Repr

/-- A task and what it has read. -/
structure Task where
  job : Job
  collected : List Event := []
  phase : Phase := .fresh false
deriving DecidableEq, Repr

/-- How a task ended, if it has. -/
def Task.outcome? (t : Task) : Option Outcome :=
  match t.phase with
  | .done o => some o
  | _ => none

/-- What a task does with the answer to its call. -/
inductive Verdict where
  | finish (outcome : Outcome)
  | again (collected : List Event)
  | wait
deriving DecidableEq, Repr

/-- The deltas among events. -/
def deltas (es : List Event) : List String := es.filterMap Event.delta?

/-- What a task makes of an event. -/
def Task.onEvent (t : Task) (e : Event) : Verdict :=
  match t.job with
  | .nextEvent => .finish (.event e)
  | .nextItem => .finish (.event e)
  | .collect => .again (t.collected ++ [e])
  | .collectText => .again (t.collected ++ [e])
  | .nextText =>
    match e.delta? with
    | some delta => .finish (.text delta)
    | none => .again []

/-- What a task makes of the end of the stream. -/
def Task.onEnd (t : Task) : Outcome :=
  match t.job with
  | .nextEvent => .nothing
  | .nextItem => .stop
  | .collect => .events t.collected
  | .collectText => .texts (deltas t.collected)
  | .nextText => .stop

/-- What a task makes of the answer to its call. -/
def Task.on (t : Task) : Bridge.Answer → Verdict
  | .event e => t.onEvent e
  | .ended => .finish t.onEnd
  | .failed message => .finish (.failed message)
  | .busy => .finish .busy
  | .waiting => .wait
  | .abandoned => .finish .abandoned

/-! ## The loop -/

/-- The text feed, which yields one delta at a time. -/
inductive Feed where
  | unstarted
  | suspended
  | running
  | closed
deriving DecidableEq, Repr

/-- Something that is ready to run. -/
inductive Ready where
  /-- A payload posted by a worker. -/
  | deliver (raw : RawPayload)
  /-- A task that starts or goes on. -/
  | task (i : Nat)
deriving DecidableEq, Repr

/-- A loop with one bridge. -/
structure Schedule where
  bridge : Bridge := {}
  tasks : List Task := []
  ready : List Ready := []
  feed : Feed := .closed
  /-- The bridge belongs to a loop that has been closed. -/
  loopClosed : Bool := false
  notes : List Journal.Note := []
deriving Repr

namespace Schedule

/-- Replaces the bridge; calls that have been handed an answer become ready. -/
def setBridge (b : Bridge) (s : Schedule) : Schedule :=
  let handed := (b.handed.drop s.bridge.handed.length).map fun h => Ready.task h.call
  { s with bridge := b, ready := s.ready ++ handed }

def tell (notes : List Journal.Note) (s : Schedule) : Schedule :=
  { s with notes := s.notes ++ notes }

/-- Takes in a payload now. -/
def deliver (raw : RawPayload) (detached : Bool) (s : Schedule) : Schedule :=
  let notes := s.bridge.deliverNotes raw
  (s.tell (if detached then notes.map (·.detach) else notes)).setBridge (s.bridge.deliver raw)

def cancel (s : Schedule) : Schedule :=
  (s.tell s.bridge.cancelNotes).setBridge s.bridge.cancel

/-- Leaves the stream. -/
def leave (s : Schedule) : Schedule :=
  (s.tell s.bridge.leaveNotes).setBridge s.bridge.leave

def setTask (i : Nat) (t : Task) (s : Schedule) : Schedule :=
  { s with tasks := s.tasks.set i t }

/-- Ends a task. A reader of texts leaves the stream; the feed stays open only after a delta. -/
def finish (i : Nat) (t : Task) (o : Outcome) (s : Schedule) : Schedule :=
  let s := s.setTask i { t with phase := .done o }
  match t.job, o with
  | .collectText, _ => s.leave
  | .nextText, .text _ => { s with feed := .suspended }
  | .nextText, _ => { s with feed := .closed }.leave
  | _, _ => s

/-- Goes on with a task after the answer to its call, until it waits or is done. Every further call
takes an event from the queue. -/
def advance : Nat → Nat → Bridge.Answer → Schedule → Schedule
  | 0, _, _, s => s
  | fuel + 1, i, answer, s =>
    match s.tasks[i]? with
    | none => s
    | some t =>
      match t.on answer with
      | .finish o => s.finish i t o
      | .wait => s.setTask i { t with phase := .waiting }
      | .again collected =>
        let s := s.setTask i { t with collected }
        let (b, answer) := s.bridge.request i
        advance fuel i answer (s.setBridge b)

/-- Goes on with a task after the answer that a bridge gave. -/
def goOn (i : Nat) (b : Bridge) (answer : Bridge.Answer) (s : Schedule) : Schedule :=
  let s := s.setBridge b
  advance (b.queue.length + 3) i answer s

/-- Begins the work of a task. -/
def begin (i : Nat) (t : Task) (s : Schedule) : Schedule :=
  let ask (s : Schedule) : Schedule :=
    let (b, answer) := s.bridge.request i
    s.goOn i b answer
  match t.job, s.feed with
  | .nextText, .closed => s.setTask i { t with phase := .done .stop }
  | .nextText, .running => s.setTask i { t with phase := .done .feedBusy }
  | .nextText, _ => ask { s with feed := .running }
  | _, _ => ask s

/-- Runs a task that is ready. A task abandoned before its start does nothing. -/
def runTask (i : Nat) (s : Schedule) : Schedule :=
  match s.tasks[i]? with
  | none => s
  | some t =>
    match t.phase with
    | .fresh true => s.setTask i { t with phase := .done .abandoned }
    | .fresh false => s.begin i t
    | .waiting =>
      let (b, answer) := s.bridge.resume i
      { s with bridge := b }.goOn i b answer
    | .done _ => s

/-- Runs one thing that is ready. -/
def runReady (r : Ready) (s : Schedule) : Schedule :=
  match r with
  | .deliver raw => s.deliver raw true
  | .task i => s.runTask i

/-- A bound on how much there is to run: a delivery may wake a task, and so may the one
cancellation. -/
def work (s : Schedule) : Nat :=
  s.ready.foldl (fun n r => match r with
    | .deliver _ => n + 2
    | .task _ => n + 1) (if s.bridge.cancelled then 0 else 2)

/-- Runs what is ready, in order, for at most the given number of turns. -/
def turns : Nat → Schedule → Schedule
  | 0, s => s
  | n + 1, s =>
    match s.ready with
    | [] => s
    | r :: rest => turns n ({ s with ready := rest }.runReady r)

/-- Runs until nothing is ready. -/
def runUntilIdle (s : Schedule) : Schedule := turns s.work s

/-! ## Commands -/

/-- What the owner of the loop asks for. -/
inductive Command where
  /-- A payload, from the loop itself or from a worker. -/
  | push (raw : RawPayload) (fromWorker : Bool)
  | start (job : Job)
  | openFeed
  | closeFeed
  | cancel
  /-- Leaves the stream. -/
  | leave
  /-- Enters the stream, which changes nothing. -/
  | enter
  /-- Abandons a task. -/
  | abandon (task : Nat)
deriving DecidableEq, Repr

/-- What a command comes to at once. -/
inductive Reply where
  | done
  | started (task : Nat)
  /-- The feed cannot be closed while a task uses it. -/
  | feedBusy
deriving DecidableEq, Repr

/-- Posts a payload. A payload for a closed loop is dropped. -/
def post (raw : RawPayload) (fromWorker : Bool) (s : Schedule) : Schedule :=
  if s.loopClosed then
    s.tell [if fromWorker then Bridge.closedNote.detach else Bridge.closedNote]
  else if fromWorker then { s with ready := s.ready ++ [.deliver raw] }
  else s.deliver raw false

/-- Abandons a task. One that waits is woken up to learn it. -/
def abandon (i : Nat) (s : Schedule) : Schedule :=
  match s.tasks[i]? with
  | none => s
  | some t =>
    match t.phase with
    | .fresh _ => s.setTask i { t with phase := .fresh true }
    | .waiting =>
      let wake := if s.bridge.isWaiting i then [Ready.task i] else []
      { s with bridge := s.bridge.abandon i, ready := s.ready ++ wake }
    | .done _ => s

/-- Closes the text feed; one that has started leaves the stream. -/
def closeFeed (s : Schedule) : Schedule × Reply :=
  match s.feed with
  | .running => (s, .feedBusy)
  | .suspended => ({ s with feed := .closed }.leave, .done)
  | _ => ({ s with feed := .closed }, .done)

/-- Does what is asked for, and runs nothing that is ready. -/
def command (c : Command) (s : Schedule) : Schedule × Reply :=
  match c with
  | .push raw fromWorker => (s.post raw fromWorker, .done)
  | .start job =>
    let i := s.tasks.length
    ({ s with tasks := s.tasks ++ [{ job }], ready := s.ready ++ [.task i] }, .started i)
  | .openFeed => ({ s with feed := .unstarted }, .done)
  | .closeFeed => s.closeFeed
  | .cancel => (s.cancel, .done)
  | .leave => (s.leave, .done)
  | .enter => (s, .done)
  | .abandon i => (s.abandon i, .done)

/-- Several commands in a row. -/
def commands : List Command → Schedule → Schedule × List Reply
  | [], s => (s, [])
  | c :: rest, s =>
    let (s, reply) := s.command c
    let (s, replies) := commands rest s
    (s, reply :: replies)

/-- Several commands in a row, after which the loop runs until it is idle. -/
def step (cs : List Command) (s : Schedule) : Schedule × List Reply :=
  let (s, replies) := s.commands cs
  (s.runUntilIdle, replies)

/-- The tasks that are done after but not before, with their outcomes, by number. -/
def newlyDone (before after : Schedule) : List (Nat × Outcome) :=
  after.tasks.zipIdx.filterMap fun (t, i) =>
    if (before.tasks[i]?.bind Task.outcome?).isSome then none
    else t.outcome?.map fun o => (i, o)

end Schedule

end Dialogue.Stream
