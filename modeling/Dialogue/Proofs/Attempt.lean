import Dialogue.Attempt

/-!
# Dialogue.Proofs.Attempt — what operations in a row come to

`Attempt.Gives x r requests` says how an operation ended and which requests a server received until
then, and `Attempt.Makes x r calls` which calls a model received. A row of operations gives what its
parts give: the traces add up, and the first fault ends the row (`bind_of_ok`, `bind_of_error`).
-/

namespace Dialogue.Attempt

variable {α β : Type}

/-- Whether an operation ends with a result after the given requests. -/
def Gives (x : Attempt α) (r : Except Fault α) (requests : List ChatRequest) : Prop :=
  x.result = r ∧ x.trace.requests = requests

/-- Whether an operation asks the server nothing. -/
def Silent (x : Attempt α) : Prop := x.trace.requests = []

/-- Whether an operation ends with a result after the given calls of a model. -/
def Makes (x : Attempt α) (r : Except Fault α) (calls : List Model.Call) : Prop :=
  x.result = r ∧ x.trace.calls = calls

/-- Whether an operation does not call the model. -/
def CallFree (x : Attempt α) : Prop := x.trace.calls = []

/-! ## Rows -/

theorem bind_of_ok {x : Attempt α} {a : α} (h : x.result = .ok a) (f : α → Attempt β) :
    x >>= f = ⟨(f a).result, x.trace ++ (f a).trace⟩ := by
  show Attempt.bind x f = _
  rw [Attempt.bind, h]

theorem result_bind {x : Attempt α} {a : α} (h : x.result = .ok a) (f : α → Attempt β) :
    (x >>= f).result = (f a).result := by
  rw [bind_of_ok h]

theorem bind_of_error {x : Attempt α} {e : Fault} (h : x.result = .error e) (f : α → Attempt β) :
    x >>= f = ⟨.error e, x.trace⟩ := by
  show Attempt.bind x f = _
  rw [Attempt.bind, h]

/-- An operation that succeeds is followed by the next. -/
theorem Gives.bind {x : Attempt α} {f : α → Attempt β} {a : α} {r : Except Fault β}
    {first second : List ChatRequest} (hx : Gives x (.ok a) first) (hf : Gives (f a) r second) :
    Gives (x >>= f) r (first ++ second) := by
  obtain ⟨hresult, hrequests⟩ := hx
  rw [bind_of_ok hresult]
  refine ⟨hf.1, ?_⟩
  show x.trace.requests ++ (f a).trace.requests = first ++ second
  rw [hrequests, hf.2]

/-- An operation that fails is the last. -/
theorem Gives.bind_error {x : Attempt α} {f : α → Attempt β} {e : Fault}
    {requests : List ChatRequest} (hx : Gives x (.error e) requests) :
    Gives (x >>= f) (.error e) requests := by
  obtain ⟨hresult, hrequests⟩ := hx
  rw [bind_of_error hresult]
  exact ⟨rfl, hrequests⟩

theorem Silent.gives {x : Attempt α} (h : Silent x) : Gives x x.result [] := ⟨rfl, h⟩

theorem Silent.bind {x : Attempt α} {f : α → Attempt β} (hx : Silent x) (hf : ∀ a, Silent (f a)) :
    Silent (x >>= f) := by
  cases hresult : x.result with
  | error e => exact (Gives.bind_error ⟨hresult, hx⟩).2
  | ok a => exact (Gives.bind ⟨hresult, hx⟩ (hf a).gives).2

theorem Makes.bind {x : Attempt α} {f : α → Attempt β} {a : α} {r : Except Fault β}
    {first second : List Model.Call} (hx : Makes x (.ok a) first) (hf : Makes (f a) r second) :
    Makes (x >>= f) r (first ++ second) := by
  obtain ⟨hresult, hcalls⟩ := hx
  rw [bind_of_ok hresult]
  refine ⟨hf.1, ?_⟩
  show x.trace.calls ++ (f a).trace.calls = first ++ second
  rw [hcalls, hf.2]

theorem Makes.bind_error {x : Attempt α} {f : α → Attempt β} {e : Fault} {calls : List Model.Call}
    (hx : Makes x (.error e) calls) : Makes (x >>= f) (.error e) calls := by
  obtain ⟨hresult, hcalls⟩ := hx
  rw [bind_of_error hresult]
  exact ⟨rfl, hcalls⟩

/-- What is done first without calling the model leaves the calls after it as they are. -/
theorem Makes.after {x : Attempt α} {f : α → Attempt β} {a : α} {r : Except Fault β}
    {calls : List Model.Call} (hx : Makes x (.ok a) []) (hf : Makes (f a) r calls) :
    Makes (x >>= f) r calls :=
  hx.bind hf

/-- What is done last without calling the model leaves the calls before it as they are. -/
theorem Makes.before {x : Attempt α} {f : α → Attempt β} {a : α} {r : Except Fault β}
    {calls : List Model.Call} (hx : Makes x (.ok a) calls) (hf : Makes (f a) r []) :
    Makes (x >>= f) r calls := by
  simpa using hx.bind hf

theorem Makes.trans {x y : Attempt α} {r : Except Fault α} {calls : List Model.Call}
    (hy : Makes y x.result x.trace.calls) (hx : Makes x r calls) : Makes y r calls :=
  ⟨hy.1.trans hx.1, hy.2.trans hx.2⟩

/-- What does not call the model leaves the calls before it as they are. -/
theorem calls_bind {x : Attempt α} {f : α → Attempt β} (hf : ∀ a, CallFree (f a)) :
    (x >>= f).trace.calls = x.trace.calls := by
  cases hresult : x.result with
  | error e => rw [bind_of_error hresult]
  | ok a =>
    rw [bind_of_ok hresult]
    show x.trace.calls ++ (f a).trace.calls = x.trace.calls
    rw [hf a, List.append_nil]

theorem CallFree.bind {x : Attempt α} {f : α → Attempt β} (hx : CallFree x)
    (hf : ∀ a, CallFree (f a)) : CallFree (x >>= f) :=
  (calls_bind hf).trans hx

/-! ## Single operations -/

theorem gives_pure (a : α) : Gives (Pure.pure a : Attempt α) (.ok a) [] := ⟨rfl, rfl⟩

theorem gives_fail (e : Fault) : Gives (Attempt.fail e : Attempt α) (.error e) [] := ⟨rfl, rfl⟩

theorem gives_ofExcept (r : Except Fault α) : Gives (Attempt.ofExcept r) r [] := ⟨rfl, rfl⟩

theorem gives_tell (notes : List Journal.Note) : Gives (Attempt.tell notes) (.ok ()) [] :=
  ⟨rfl, rfl⟩

theorem gives_recordCall (call : Model.Call) : Gives (Attempt.recordCall call) (.ok ()) [] :=
  ⟨rfl, rfl⟩

theorem gives_recordRequest (request : ChatRequest) :
    Gives (Attempt.recordRequest request) (.ok ()) [request] :=
  ⟨rfl, rfl⟩

end Dialogue.Attempt
