import Dialogue.Proofs.Client.Agreement
import Dialogue.Proofs.Stream.Draining

/-!
# Dialogue.Proofs.Server.Failing — a server that raises something when it is asked

A `Query` can be put to a server at once or as a stream. When the server raises something as soon as
it is asked, both fail.

* At once, the call ends with a failed generation if a service raised it, and the message is its
  text, be it empty. Anything else is passed on as it is: `gives_run_of_raised`.
* As a stream, the consumer is failed once, whatever was raised, and the message is its text, or its
  name when the text is empty: `gives_stream_of_raised`, `drains_errorPayload`.

So the two fail alike just when a service raised something that has a text: `fails_alike_iff`.
-/

namespace Dialogue

open Dialogue.Stream

/-- What a server is asked: to answer a prompt, to go on with a conversation, whose last message
stands apart, or to answer a prompt in a format. -/
inductive Query where
  | prompt (text : String)
  | conversation (history : List Message) (last : Message)
  | structured (text : String) (schema : Schema.Compiled)

namespace Query

/-- The prompt that a stream answers. -/
def current : Query → String
  | .prompt text => text
  | .conversation _ last => last.content
  | .structured text _ => text

/-- The history that a stream has before its prompt. -/
def history : Query → List Message
  | .conversation history _ => history
  | _ => []

/-- The format that a whole reply has to keep to. -/
def format? : Query → Option Json
  | .structured _ schema => some (ChatRequest.schemaFormat schema.name schema.toJson)
  | _ => none

/-- The request for a whole reply: that for a stream, but for how the reply is wanted. -/
def request (c : Connection) (options : Options) (q : Query) : ChatRequest :=
  { c.streamRequest q.current q.history options with streaming := false, format := q.format? }

/-- Asks for a whole reply. -/
def run (c : Connection) (options : Options) : Query → Attempt Unit
  | .prompt text => c.generate text options >>= fun _ => pure ()
  | .conversation history last => c.converse (history ++ [last]) options >>= fun _ => pure ()
  | .structured text schema => c.structured text schema options >>= fun _ => pure ()

/-- Asks for a stream. -/
def stream (c : Connection) (options : Options) (q : Query) : Attempt Model.Output :=
  c.stream q.current q.history options

/-- Whether a query fails alike: with a failed generation, and with one report of an error that has
the same message. -/
def FailsAlike (c : Connection) (options : Options) (q : Query) : Prop :=
  ∃ f : Failure, (q.run c options).result = .error (.failure f) ∧ f.kind = .generation ∧
    ∃ out, (q.stream c options).result = .ok out ∧ out.payloads = [some (errorPayload f.message)]

end Query

namespace Connection

variable {c : Connection} {options : Options} {e : Fault}

/-! ## At once -/

theorem gives_complete_of_raised {request : ChatRequest}
    (h : c.server.complete request = .error e) :
    (c.complete request).Gives (.error (c.completionFault e)) [request] := by
  have hreceived : (Attempt.ofExcept
      ((c.server.complete request).mapError c.completionFault)).Gives
        (.error (c.completionFault e)) [] := by
    rw [h]
    exact Attempt.gives_ofExcept _
  unfold complete
  exact (Attempt.gives_recordRequest request).bind hreceived.bind_error

/-- The request of a prompt is that of a conversation with nothing before it. -/
theorem promptRequest_eq (c : Connection) (text : String) (options : Options) :
    c.promptRequest text options = (Query.prompt text).request c options := by
  simp [promptRequest, Query.request, Query.current, Query.history, Query.format?, streamRequest,
    ChatTurn.ofTranscript]

/-- A query that makes the server raise something ends with it, or with the failed generation that
it is wrapped in, after the one request. -/
theorem gives_run_of_raised (q : Query) (h : c.server.complete (q.request c options) = .error e) :
    (q.run c options).Gives (.error (c.completionFault e)) [q.request c options] := by
  cases q with
  | prompt text =>
    rw [← promptRequest_eq] at h ⊢
    exact (gives_complete_of_raised h).bind_error
  | conversation history last =>
    have hrequest : c.historyRequest? (history ++ [last]) options =
        some ((Query.conversation history last).request c options) := by
      simp [historyRequest?, ChatTurn.ofMessages?, Transcript.split?, Query.request, Query.current,
        Query.history, Query.format?, streamRequest]
    have hconverse : c.converse (history ++ [last]) options =
        c.complete ((Query.conversation history last).request c options) := by
      rw [converse, hrequest]
    rw [Query.run, hconverse]
    exact (gives_complete_of_raised h).bind_error
  | structured text schema =>
    have hrequest : c.structuredRequest text schema options =
        (Query.structured text schema).request c options := by
      rw [structuredRequest, promptRequest_eq]
      rfl
    rw [← hrequest] at h ⊢
    exact (gives_complete_of_raised h).bind_error.bind_error

/-! ## As a stream -/

/-- A stream that cannot be had is reported to its consumer, after the one request. -/
theorem gives_stream_of_raised (q : Query)
    (h : c.server.stream (c.streamRequest q.current q.history options) = .error e) :
    (q.stream c options).Gives (.ok ⟨[some (errorPayload e.textOrName)], true⟩)
      [c.streamRequest q.current q.history options] := by
  have hwork : (c.work q.current q.history options .never).Gives (.ok (Server.Work.refused e))
      [c.streamRequest q.current q.history options] := by
    simp only [work, h]
    refine (Attempt.gives_recordRequest _).bind ?_
    exact (Attempt.gives_tell _).bind (Attempt.gives_pure _)
  exact hwork.bind (Attempt.gives_pure _)

end Connection

/-- The consumer of a stream that reports an error is told that error alone. -/
theorem Stream.World.drains_errorPayload {message : String} {acts : List Act} {w : World}
    (h : World.run World.timely acts {} = some w)
    (hdelivered : w.delivered = [some (errorPayload message)]) : w.Drains [.error message] := by
  have hend : w.delivered.any endsStream = true := by
    simp [hdelivered, endsStream, rawChars, errorPayload]
  have hevents : eventsAfter [] w.delivered = [.error message] := by
    simp [hdelivered, eventsAfter, rawChars, errorPayload]
  rw [← hevents]
  exact World.drains_of_ended h hend

/-! ## Both -/

/-- A failed generation is shown with its code in front of its message. -/
theorem Failure.length_message_lt {f : Failure} (h : f.kind = .generation) :
    f.message.length < f.text.length := by
  have hbracket : (toString "[").length = 1 := by decide
  simp only [text, h]
  split
  · simp only [String.length_append, toString] at hbracket ⊢
    omega
  · simp only [String.length_append, toString] at hbracket ⊢
    omega

namespace Connection

variable {c : Connection} {e : Fault}

/-- The fault of a completion is a failed generation with the message that a stream gives just when
a service raised something with a text. -/
theorem completionFault_alike_iff :
    (∃ f, c.completionFault e = .failure f ∧ f.kind = .generation ∧ f.message = e.textOrName) ↔
      e.isService = true ∧ (e.text = "" → e.name = "") := by
  constructor
  · rintro ⟨f, hfault, hkind, hmessage⟩
    cases hservice : e.isService with
    | true =>
      refine ⟨rfl, fun hempty => ?_⟩
      simp only [completionFault, hservice, if_true, Fault.failure.injEq] at hfault
      subst hfault
      simpa [Failure.generation, Fault.textOrName, hempty] using hmessage.symm
    | false =>
      -- a failed generation that the service has no part in is shown with its code
      simp only [completionFault, hservice, Bool.false_eq_true, if_false] at hfault
      subst hfault
      have hlength := Failure.length_message_lt hkind
      have htext : f.text ≠ "" := by
        intro hempty
        simp [hempty] at hlength
      have hshown : (Fault.failure f).textOrName = f.text := if_neg htext
      rw [hmessage, hshown] at hlength
      omega
  · rintro ⟨hservice, hname⟩
    refine ⟨.generation e.text c.settings.model, by simp [completionFault, hservice], rfl, ?_⟩
    by_cases hempty : e.text = ""
    · simp [Failure.generation, Fault.textOrName, hempty, hname hempty]
    · simp [Failure.generation, Fault.textOrName, hempty]

theorem errorPayload_inj {message other : String} :
    errorPayload message = errorPayload other ↔ message = other := by
  simp [errorPayload]

/-- Whatever a server raises when it is asked for a whole reply and for a stream of it:

* the call ends with a failed generation that has the text of what was raised as its message, if a
  service raised it, and with what was raised itself otherwise;
* the stream reports one error, the text of what was raised, or its name when it has no text;
* a consumer of that stream which does not leave is told this error and nothing else, and waits for
  nothing more: one of its calls fails with it;
* so both fail alike if and only if a service raised something with a text (or with neither a text
  nor a name).

The two requests are the same but for how the reply is wanted. -/
theorem fails_alike_iff (c : Connection) (options : Options) (q : Query) {e : Fault}
    (hwhole : c.server.complete (q.request c options) = .error e)
    (hstreamed : c.server.stream { q.request c options with streaming := true, format := none } =
      .error e) :
    (q.run c options).Gives (.error (c.completionFault e)) [q.request c options] ∧
    (q.stream c options).Gives (.ok ⟨[some (errorPayload e.textOrName)], true⟩)
      [{ q.request c options with streaming := true, format := none }] ∧
    (∀ acts w, World.run World.timely acts {} = some w →
      w.delivered = [some (errorPayload e.textOrName)] →
      w.Drains [.error e.textOrName] ∧
      ∃ later w' call, (∀ a ∈ later, a.isCall = true) ∧ World.run World.timely later w = some w' ∧
        (call, .failed e.textOrName) ∈ w'.answers ∧ w'.received = [.error e.textOrName]) ∧
    (q.FailsAlike c options ↔ e.isService = true ∧ (e.text = "" → e.name = "")) := by
  have hrun := gives_run_of_raised q hwhole
  have hstream := gives_stream_of_raised q hstreamed
  refine ⟨hrun, hstream, ?_, ?_⟩
  · intro acts w hacts hdelivered
    have hdrains := World.drains_errorPayload hacts hdelivered
    exact ⟨hdrains, World.raised_of_drains hacts hdrains⟩
  · rw [← @completionFault_alike_iff c e]
    constructor
    · rintro ⟨f, hfault, hkind, out, hout, hpayloads⟩
      obtain rfl := Except.ok.inj (hstream.1.symm.trans hout)
      refine ⟨f, Except.error.inj (hrun.1.symm.trans hfault), hkind, ?_⟩
      simpa [errorPayload_inj] using hpayloads.symm
    · rintro ⟨f, hfault, hkind, hmessage⟩
      refine ⟨f, ?_, hkind, _, hstream.1, ?_⟩
      · rw [hrun.1, hfault]
      · rw [hmessage]

/-- A server that raises the same whatever it is asked, behind a connection that sends histories as
one turn. -/
def refusing (e : Fault) : Connection where
  settings := { flattenHistory := true }
  address := "http://127.0.0.1:8080/v1"
  server := { complete := fun _ => .error e, stream := fun _ => .error e, models := .ok [] }

theorem fails_alike_iff_unreachable :
    let c := refusing (.service .connection "Connection error.")
    let acts : List Act := [.ask, .post (some "\x02Connection error."), .takeIn, .goOn 0]
    let q : Query :=
      .conversation [⟨"user", "Hello", none, by decide⟩] ⟨"user", "Where?", none, by decide⟩
    c.server.complete (q.request c {}) = .error (.service .connection "Connection error.") ∧
      q.FailsAlike c {} ∧
      ∃ w, World.run World.timely acts {} = some w ∧
        w.answers = [(0, .failed "Connection error.")] ∧ w.Drains [.error "Connection error."] := by
  intro c acts q
  obtain ⟨-, -, hconsumer, hiff⟩ := fails_alike_iff c {} q
    (e := .service .connection "Connection error.") rfl rfl
  refine ⟨rfl, hiff.2 ⟨rfl, by decide⟩, _, rfl, by decide, ?_⟩
  exact (hconsumer acts _ rfl rfl).1

/-- What no service raised reaches the caller as it is, and a service's fault without a text makes
two different messages. -/
theorem fails_apart_teapot :
    (((Query.prompt "hi").run (refusing (.plain .state "teapot")) {}).result =
        .error (.plain .state "teapot") ∧
      ¬ (Query.prompt "hi").FailsAlike (refusing (.plain .state "teapot")) {}) ∧
    (((Query.prompt "hi").run (refusing (.service .general "")) {}).result =
        .error (.failure (.generation "" "local-model")) ∧
      ¬ (Query.prompt "hi").FailsAlike (refusing (.service .general "")) {}) := by
  refine ⟨⟨rfl, ?_⟩, rfl, ?_⟩
  · rintro ⟨f, hfault, -⟩
    cases hfault
  · rintro ⟨f, hfault, -, out, hout, hpayloads⟩
    cases hfault
    cases hout
    revert hpayloads
    decide

end Connection

end Dialogue
