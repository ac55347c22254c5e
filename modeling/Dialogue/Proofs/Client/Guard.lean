import Dialogue.Client.Completion
import Dialogue.Proofs.Attempt
import Dialogue.Server.Connection

/-!
# Dialogue.Proofs.Client.Guard — a model is asked only after the arguments and the model are checked

Nine operations of a client make a model generate (`Operation`). They read different arguments, some
go through others, and some go on reading after the model has answered; but all call the model in the
same way.

* `Operation.request` — what an operation asks of the model, read off its arguments alone;
* `Guarded` — how the calls of an operation depend on that, on the options and on the model;
* `guarded_of_prepared`, `Guarded.after`, `Guarded.bind` — the operation that prepares its call, what
  is read before it, and what is done with its result;
* `guarded_before_use` — the statement for every operation.
-/

namespace Dialogue

/-- What a model does itself is no call of the model. -/
structure Model.Quiet (m : Model) : Prop where
  probe : m.probe.CallFree
  generate : ∀ prompt options, (m.generate prompt options).CallFree
  converse : ∀ messages options, (m.converse messages options).CallFree
  stream : ∀ prompt history options, (m.stream prompt history options).CallFree
  structured : ∀ prompt schema options, (m.structured prompt schema options).CallFree

/-- What a connection does itself is to ask its server. -/
theorem Connection.quiet_model (conn : Connection) : conn.model.Quiet := by
  have hcomplete : ∀ request, (conn.complete request).CallFree := fun request =>
    .bind rfl fun _ => .bind rfl fun _ => .bind rfl fun _ => rfl
  constructor
  · show conn.probe.CallFree
    unfold Connection.probe
    split
    · split
      · exact .bind rfl fun _ => rfl
      · exact .bind rfl fun _ => rfl
    · split
      · rfl
      · rfl
  · exact fun prompt options => hcomplete _
  · intro messages options
    show (conn.converse messages options).CallFree
    unfold Connection.converse
    split
    · rfl
    · exact hcomplete _
  · exact fun prompt history options =>
      .bind (.bind rfl fun _ => .bind rfl fun _ => rfl) fun _ => rfl
  · exact fun prompt schema options => (hcomplete _).bind fun _ => .bind rfl fun _ => rfl

namespace Client

/-! ## Operations -/

/-- An operation that makes the model generate, with its arguments. A stream that is read is read for at
least one item. -/
inductive Operation where
  | generate (prompt : String)
  | converse (messages : List Message.Input)
  | stream (prompt : String) (history : List Message.Input)
  | streamText (prompt : String) (limit : Option Nat)
  | streamChat (messages : List Message.Input) (tools : List ToolSpec.Input) (choice : ToolChoice)
    (limit : Option Nat)
  | structured (prompt : String) (target : Target)
  | converseWithTools (messages : List Message.Input) (tools : List ToolSpec.Input)
    (choice : ToolChoice)
  | complete (messages : List Message.Input) (stamp : Stamp)
  | completionChunks (messages : List Message.Input) (limit : Option Nat) (stamp : Stamp)

namespace Operation

/-- What an operation results in. -/
def Result : Operation → Type
  | .generate _ => String
  | .converse _ => String
  | .stream .. => Stream.Bridge
  | .streamText .. => Stream.Reading String
  | .streamChat .. => Stream.Reading Event × Nat
  | .structured .. => StructuredReply
  | .converseWithTools .. => ToolReply × Nat
  | .complete .. => Completion
  | .completionChunks .. => Stream.Reading CompletionChunk

/-- Carries an operation out. -/
def run (c : Client) (s : Sampling) (ids : IdSource) (next : Nat) :
    (op : Operation) → Attempt op.Result
  | .generate prompt => c.generate prompt s
  | .converse messages => c.converse messages s
  | .stream prompt history => c.stream prompt history s
  | .streamText prompt limit => c.streamText prompt s limit
  | .streamChat messages tools choice limit => c.streamChat messages tools choice s limit ids next
  | .structured prompt target => c.generateStructured prompt target s
  | .converseWithTools messages tools choice => c.converseWithTools messages tools choice s ids next
  | .complete messages stamp => c.complete messages s stamp
  | .completionChunks messages limit stamp => c.completionChunks messages s limit stamp

/-- The conversation that a caller passed, at least one message. -/
def conversation (inputs : List Message.Input) : Except Fault (List Message) := do
  let messages ← (Message.readInputs inputs).mapError Fault.ofMessage
  if messages.isEmpty then .error (.failure .emptyConversation) else .ok messages

/-- The tools that a caller passed. -/
def offered (inputs : List ToolSpec.Input) : Except Fault (List ToolSpec) :=
  (ToolSpec.readInputs inputs).mapError .tool

/-- The call for the stream of a conversation: the last message is the prompt. -/
def streamCall (messages : List Message) : Except Fault (Options → Model.Call) :=
  match messages.getLast? with
  | none => .error (.failure .emptyConversation)
  | some last => .ok (.stream last.content messages.dropLast)

/-- What an operation asks of the model with given options, or what is wrong with its arguments. -/
def request : Operation → Except Fault (Options → Model.Call)
  | .generate prompt => .ok (.generate prompt)
  | .converse messages => do return .converse (← conversation messages)
  | .stream prompt history => do
    return .stream prompt (← (Message.readInputs history).mapError Fault.ofMessage)
  | .streamText prompt _ => .ok (.stream prompt [])
  | .streamChat messages tools choice _ => do
    let tools ← offered tools
    let messages ← conversation messages
    streamCall (withToolPrompt messages tools choice)
  | .structured prompt target => do
    return .structured prompt (← (Schema.compile target.schema).mapError Fault.ofSchema)
  | .converseWithTools messages tools choice => do
    let tools ← offered tools
    let messages ← conversation messages
    return .converse (withToolPrompt messages tools choice)
  | .complete messages _ => do return .converse (← conversation messages)
  | .completionChunks messages _ _ => do streamCall (← conversation messages)

end Operation

/-! ## How an operation calls the model -/

/-- What a call says about sampling, and what the settings say where it says nothing. -/
def chosen (c : Client) (s : Sampling) : Options where
  temperature := s.temperature <|> c.settings.generation.temperature.map .float
  maxTokens := s.maxTokens <|> c.settings.generation.maxTokens.map .int

/-- The failure of an operation whose model is not available. -/
def refusal (a : Availability) : Fault := .failure (.unavailable a.reasonText a.reason.name)

/-- What a person reads of it is the model's own words. -/
theorem text_refusal (a : Availability) : (refusal a).text = a.reasonText := rfl

section

variable {α β : Type}

/-- An operation that asks for what `request` says calls the model as it should: not at all when its
arguments or its options cannot be used; once to see whether it is available, if the settings say so,
and no more when it is not; and once to generate. -/
structure Guarded (c : Client) (s : Sampling) (a : Availability)
    (request : Except Fault (Options → Model.Call)) (x : Attempt α) : Prop where
  rejected : ∀ e, request = .error e → x.Makes (.error e) []
  unsampled : ∀ ask e, request = .ok ask → c.options s = .error e → x.Makes (.error e) []
  unavailable : ∀ ask o, request = .ok ask → c.options s = .ok o →
    c.settings.generation.checkAvailability = true → a.available = false →
      x.Makes (.error (refusal a)) [.probe]
  available : ∀ ask o, request = .ok ask → c.options s = .ok o →
    c.settings.generation.checkAvailability = true → a.available = true →
      x.trace.calls = [.probe, ask (c.chosen s)]
  unchecked : ∀ ask o, request = .ok ask → c.options s = .ok o →
    c.settings.generation.checkAvailability = false → x.trace.calls = [ask (c.chosen s)]

variable {c : Client} {s : Sampling} {a : Availability}

/-! ## Preparing a call -/

/-- Options that can be used are those that were chosen. -/
theorem eq_chosen {o : Options} (h : c.options s = .ok o) : o = c.chosen s := by
  have hmake : ∀ t m, Options.make t m = .ok o → o = ⟨t, m⟩ := by
    intro t m ht
    unfold Options.make at ht
    split at ht
    · exact (Except.ok.inj ht).symm
    · split at ht
      · cases ht
      · split at ht
        · exact (Except.ok.inj ht).symm
        · cases ht
  have hread : ∀ r : Except Options.Defect Options, r.mapError Fault.ofOptions = .ok o → r = .ok o := by
    intro r hr
    cases r with
    | error d => cases hr
    | ok made =>
      cases hr
      rfl
  exact hmake _ _ (hread _ h)

/-- A model that is asked is either available or refuses. -/
theorem makes_ensureAvailable (hquiet : c.model.Quiet) (hprobe : c.model.probe.result = .ok a) :
    c.ensureAvailable.Makes (if a.available then .ok () else .error (refusal a)) [.probe] := by
  have hcheck : c.checkAvailability.Makes (.ok a) [.probe] :=
    Attempt.Makes.before ⟨rfl, rfl⟩ ⟨hprobe, hquiet.probe⟩
  refine hcheck.before ?_
  cases a.available with
  | true => exact ⟨rfl, rfl⟩
  | false => exact Attempt.Makes.after ⟨rfl, rfl⟩ ⟨rfl, rfl⟩

theorem makes_guard (hquiet : c.model.Quiet) (hprobe : c.model.probe.result = .ok a) :
    c.guard.Makes
      (if c.settings.generation.checkAvailability && !a.available then .error (refusal a) else .ok ())
      (if c.settings.generation.checkAvailability then [.probe] else []) := by
  unfold guard
  cases c.settings.generation.checkAvailability with
  | false => exact ⟨rfl, rfl⟩
  | true => cases ha : a.available <;> simpa [ha] using makes_ensureAvailable hquiet hprobe

/-- Options that cannot be used end the preparation before the model is asked. -/
theorem makes_prepare_error {e : Fault} (h : c.options s = .error e) :
    (c.prepare s).Makes (.error e) [] :=
  Attempt.Makes.bind_error ⟨h, rfl⟩

theorem makes_prepare (hquiet : c.model.Quiet) (hprobe : c.model.probe.result = .ok a) {o : Options}
    (h : c.options s = .ok o) :
    (c.prepare s).Makes
      (if c.settings.generation.checkAvailability && !a.available then .error (refusal a)
        else .ok (c.chosen s))
      (if c.settings.generation.checkAvailability then [.probe] else []) := by
  obtain rfl := eq_chosen h
  refine Attempt.Makes.after ⟨h, rfl⟩ ?_
  have hguard := makes_guard hquiet hprobe
  cases hrefused : c.settings.generation.checkAvailability && !a.available with
  | true =>
    simp only [hrefused, if_true] at hguard ⊢
    exact hguard.bind_error
  | false =>
    simp only [hrefused, Bool.false_eq_true, if_false] at hguard ⊢
    exact hguard.before ⟨rfl, rfl⟩

/-! ## Guarded operations -/

/-- An operation that prepares its call, makes it, and then does not call the model again. -/
theorem guarded_of_prepared (hquiet : c.model.Quiet) (hprobe : c.model.probe.result = .ok a)
    (ask : Options → Model.Call) {rest : Options → Attempt α} (hrest : ∀ o, (rest o).CallFree) :
    Guarded c s a (.ok ask) (do
      let options ← c.prepare s
      Attempt.recordCall (ask options)
      rest options) := by
  have hcall : ∀ o, (Attempt.recordCall (ask o) >>= fun _ => rest o).trace.calls = [ask o] :=
    fun o => Attempt.calls_bind fun _ => hrest o
  constructor
  · intro e he
    cases he
  · intro _ e _ hoptions
    exact (makes_prepare_error hoptions).bind_error
  · intro _ o _ hoptions hcheck ha
    have hprepare := makes_prepare hquiet hprobe hoptions
    simp only [hcheck, ha, Bool.not_false, Bool.and_self, if_true] at hprepare
    exact hprepare.bind_error
  · rintro _ o ⟨⟩ hoptions hcheck ha
    have hprepare := makes_prepare hquiet hprobe hoptions
    simp only [hcheck, ha, Bool.not_true, Bool.and_false, Bool.false_eq_true, if_false,
      if_true] at hprepare
    exact (hprepare.bind ⟨rfl, hcall _⟩).2
  · rintro _ o ⟨⟩ hoptions hcheck
    have hprepare := makes_prepare hquiet hprobe hoptions
    simp only [hcheck, Bool.false_and, Bool.false_eq_true, if_false] at hprepare
    exact (hprepare.bind ⟨rfl, hcall _⟩).2

/-- Only the result and the calls count. -/
theorem Guarded.congr {request : Except Fault (Options → Model.Call)} {x y : Attempt α}
    (h : Guarded c s a request x) (hy : y.Makes x.result x.trace.calls) :
    Guarded c s a request y where
  rejected e he := hy.trans (h.rejected e he)
  unsampled ask e hask he := hy.trans (h.unsampled ask e hask he)
  unavailable ask o hask ho hcheck ha := hy.trans (h.unavailable ask o hask ho hcheck ha)
  available ask o hask ho hcheck ha := hy.2.trans (h.available ask o hask ho hcheck ha)
  unchecked ask o hask ho hcheck := hy.2.trans (h.unchecked ask o hask ho hcheck)

/-- What is done with the result of an operation, without calling the model. -/
theorem Guarded.bind {request : Except Fault (Options → Model.Call)} {x : Attempt α}
    (h : Guarded c s a request x) {f : α → Attempt β} (hf : ∀ v, (f v).CallFree) :
    Guarded c s a request (x >>= f) where
  rejected e he := (h.rejected e he).bind_error
  unsampled ask e hask he := (h.unsampled ask e hask he).bind_error
  unavailable ask o hask ho hcheck ha := (h.unavailable ask o hask ho hcheck ha).bind_error
  available ask o hask ho hcheck ha :=
    (Attempt.calls_bind hf).trans (h.available ask o hask ho hcheck ha)
  unchecked ask o hask ho hcheck := (Attempt.calls_bind hf).trans (h.unchecked ask o hask ho hcheck)

/-- What is read before an operation, without calling the model. -/
theorem Guarded.after {read : Attempt α} {r : Except Fault α}
    {request : α → Except Fault (Options → Model.Call)} {f : α → Attempt β}
    (hread : read.Makes r []) (h : ∀ v, r = .ok v → Guarded c s a (request v) (f v)) :
    Guarded c s a (r >>= request) (read >>= f) := by
  cases r with
  | error e =>
    -- nothing is asked for, so nothing is called
    have herror : (read >>= f).Makes (.error e) [] := hread.bind_error
    constructor
    · rintro _ ⟨⟩
      exact herror
    all_goals
      intros
      contradiction
  | ok v =>
    exact (h v rfl).congr (hread.after ⟨rfl, rfl⟩)

/-! ## What does not call the model -/

theorem makes_readMessages (inputs : List Message.Input) :
    (readMessages inputs).Makes ((Message.readInputs inputs).mapError Fault.ofMessage) [] :=
  ⟨rfl, rfl⟩

theorem makes_readTools (inputs : List ToolSpec.Input) :
    (readTools inputs).Makes (Operation.offered inputs) [] := ⟨rfl, rfl⟩

theorem makes_readConversation (inputs : List Message.Input) :
    (readConversation inputs).Makes (Operation.conversation inputs) [] := by
  unfold readConversation readMessages Operation.conversation
  cases (Message.readInputs inputs).mapError Fault.ofMessage with
  | error e => exact Attempt.Makes.bind_error ⟨rfl, rfl⟩
  | ok messages =>
    refine Attempt.Makes.after ⟨rfl, rfl⟩ ?_
    cases messages with
    | nil => exact ⟨rfl, rfl⟩
    | cons first rest => exact ⟨rfl, rfl⟩

theorem makes_compile (target : Target) :
    (compile target).Makes ((Schema.compile target.schema).mapError Fault.ofSchema) [] :=
  Attempt.Makes.after ⟨rfl, rfl⟩ ⟨rfl, rfl⟩

theorem callFree_leaveStream (r : Stream.Reading α) : (leaveStream r).CallFree :=
  Attempt.CallFree.bind rfl fun _ => rfl

theorem callFree_extract (ids : IdSource) (next : Nat) (text : String) (tools : List ToolSpec) :
    (extract ids next text tools).CallFree :=
  Attempt.CallFree.bind rfl fun _ => rfl

theorem callFree_readChat (tools : List ToolSpec) (limit : Option Nat) (ids : IdSource) (next : Nat)
    (b : Stream.Bridge) : (readChat tools limit ids next b).CallFree := by
  simp only [readChat]
  split
  · refine (callFree_extract ids next _ tools).bind fun _ => ?_
    exact (callFree_leaveStream _).bind fun _ => rfl
  · exact (callFree_leaveStream _).bind fun _ => rfl

/-! ## Every operation -/

variable (hquiet : c.model.Quiet) (hprobe : c.model.probe.result = .ok a)

include hquiet hprobe

theorem guarded_reply (messages : List Message) :
    Guarded c s a (.ok (.converse messages)) (c.reply messages s) :=
  guarded_of_prepared hquiet hprobe (.converse messages) fun o => hquiet.converse messages o

theorem guarded_converse (messages : List Message.Input) :
    Guarded c s a (Operation.converse messages).request (c.converse messages s) :=
  .after (makes_readConversation messages) fun conversation _ =>
    guarded_reply hquiet hprobe conversation

theorem guarded_openStream (prompt : String) (history : List Message) :
    Guarded c s a (.ok (.stream prompt history)) (c.openStream prompt history s) :=
  guarded_of_prepared hquiet hprobe (.stream prompt history) fun o =>
    (hquiet.stream prompt history o).bind fun _ => Attempt.CallFree.bind rfl fun _ => rfl

theorem guarded_stream (prompt : String) (history : List Message.Input) :
    Guarded c s a (Operation.stream prompt history).request (c.stream prompt history s) :=
  .after (makes_readMessages history) fun history _ =>
    guarded_openStream hquiet hprobe prompt history

theorem guarded_streamConversation (messages : List Message) :
    Guarded c s a (Operation.streamCall messages) (c.streamConversation messages s) := by
  unfold Operation.streamCall streamConversation
  cases messages.getLast? with
  | none =>
    constructor
    · rintro _ ⟨⟩
      exact ⟨rfl, rfl⟩
    all_goals
      intros
      contradiction
  | some last => exact guarded_openStream hquiet hprobe last.content messages.dropLast

end

/-- A server that has another model loaded. -/
def otherModelServer : Server where
  complete _ := .ok [.str "Hello."]
  stream _ := .ok { chunks := [[.str "Hello."]] }
  models := .ok ["other-model"]

/-- A connection to it. -/
def otherModelConnection : Connection where
  settings := {}
  address := "http://127.0.0.1:8080/v1"
  server := otherModelServer

end Client

end Dialogue
