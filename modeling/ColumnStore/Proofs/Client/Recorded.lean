import ColumnStore.Proofs.Client.Run
import ColumnStore.Proofs.Memory.Call

/-!
# Backends that keep records

A recorded backend answers as the backend itself does and keeps a record of every call with its
outcome. What a client action does to a backend, whatever the backend is, can be told from the
records: `Client.Makes` says that an action makes exactly the given calls, however they end.
-/

set_option autoImplicit false

namespace ColumnStore

/-- The outcome with its result in another form. -/
def Outcome.map {α β : Type} (form : α → β) : Outcome α → Outcome β
  | .returned result => .returned (form result)
  | .failed error => .failed error
  | .crashed => .crashed

theorem Outcome.map_id {α : Type} (outcome : Outcome α) : outcome.map id = outcome := by
  cases outcome <;> rfl

/-- A call of a backend and how it ended. -/
structure CallRecord where
  call : Call
  outcome : Outcome Returned

/-- The state of a backend, and the calls that it has answered, oldest first. -/
structure Recorded (σ : Type) where
  records : List CallRecord
  inner : σ

/-- Answers a call and keeps a record of it. -/
def Recorded.keep {σ α : Type} (call : Call) (form : α → Returned) (answer : σ → Reply σ α)
    (state : Recorded σ) : Reply (Recorded σ) α :=
  let reply := answer state.inner
  ⟨reply.outcome, ⟨state.records ++ [⟨call, reply.outcome.map form⟩], reply.state⟩, reply.events⟩

/-- A backend that keeps records. -/
def Backend.recorded {σ : Type} (backend : Backend σ) : Backend (Recorded σ) where
  name := backend.name
  construct method arguments :=
    Recorded.keep (.construct method arguments) (fun handle ↦ .object (some handle))
      (backend.construct method arguments)
  callStatic method arguments :=
    Recorded.keep (.onClass method arguments) id (backend.callStatic method arguments)
  call handle method arguments :=
    Recorded.keep (.onObject handle method arguments) id (backend.call handle method arguments)
  release handle := Recorded.keep (.release handle) (fun _ ↦ .nothing) (backend.release handle)
  liveObjects state := backend.liveObjects state.inner
  shutdown := Recorded.keep .shutdown (fun _ ↦ .nothing) backend.shutdown

namespace Recorded

variable {σ : Type} {backend : Backend σ}

/-- The state of a recorded backend once it has answered a call. -/
def answer (backend : Backend σ) (state : Recorded σ) : Call → Recorded σ
  | .construct method arguments => (backend.recorded.construct method arguments state).state
  | .onClass method arguments => (backend.recorded.callStatic method arguments state).state
  | .onObject handle method arguments => (backend.recorded.call handle method arguments state).state
  | .release handle => (backend.recorded.release handle state).state
  | .shutdown => (backend.recorded.shutdown state).state

/-- The state of a recorded backend once it has answered several calls. -/
def answerAll (backend : Backend σ) (state : Recorded σ) (calls : List Call) : Recorded σ :=
  calls.foldl (answer backend) state

/-- Every call leaves a record behind the others. -/
theorem records_answer (backend : Backend σ) (state : Recorded σ) (call : Call) :
    ∃ outcome, (state.answer backend call).records = state.records ++ [⟨call, outcome⟩] := by
  cases call <;> exact ⟨_, rfl⟩

theorem records_answerAll (backend : Backend σ) (state : Recorded σ) (calls : List Call) :
    ∃ fresh, (state.answerAll backend calls).records = state.records ++ fresh ∧
      fresh.map CallRecord.call = calls := by
  induction calls generalizing state with
  | nil => exact ⟨[], (List.append_nil _).symm, rfl⟩
  | cons call calls ih =>
    obtain ⟨outcome, hfirst⟩ := records_answer backend state call
    obtain ⟨fresh, hrest, hcalls⟩ := ih (state.answer backend call)
    refine ⟨⟨call, outcome⟩ :: fresh, ?_, ?_⟩
    · show ((state.answer backend call).answerAll backend calls).records = _
      rw [hrest, hfirst, List.append_assoc]
      rfl
    · rw [List.map_cons, hcalls]

/-- The records of the calls that were answered since an earlier state. -/
def since (before after : Recorded σ) : List CallRecord :=
  after.records.drop before.records.length

theorem since_self (state : Recorded σ) : state.since state = [] :=
  List.drop_length

theorem map_call_since_answerAll (backend : Backend σ) (state : Recorded σ) (calls : List Call) :
    (state.since (state.answerAll backend calls)).map CallRecord.call = calls := by
  obtain ⟨fresh, hrecords, hcalls⟩ := records_answerAll backend state calls
  rw [since, hrecords, List.drop_left, hcalls]

/-- A call on an object leaves a record of how it ended. -/
theorem records_answer_onObject (backend : Backend σ) (state : Recorded σ) (handle : Handle)
    (method : Method) (arguments : List Argument) :
    (state.answer backend (.onObject handle method arguments)).records = state.records ++
      [⟨.onObject handle method arguments,
        (backend.call handle method arguments state.inner).outcome⟩] := by
  rw [← Outcome.map_id (backend.call handle method arguments state.inner).outcome]
  rfl

end Recorded

namespace Client

variable {σ α β : Type} {backend : Backend σ}

/-- Started anywhere, the action makes exactly these calls, however it ends. -/
def Makes (backend : Backend σ) (action : Client (Recorded σ) α) (calls : List Call) : Prop :=
  ∀ state, Ends backend.recorded action state fun _ after ↦ after = state.answerAll backend calls

theorem makes_pure (a : α) : Makes backend (pure a) [] :=
  fun _ ↦ ends_pure rfl

theorem makes_refuse (error : Error) : Makes backend (refuse error : Client (Recorded σ) α) [] :=
  fun _ ↦ ends_refuse rfl

theorem makes_expect (activity : String) (purpose : Purpose) (taken : Except CallError α) :
    Makes backend (expect activity purpose taken) [] := by
  cases taken with
  | ok a => exact makes_pure a
  | error error => exact makes_refuse _

theorem makes_call (handle : Handle) (operation : Operation) (arguments : List Argument) :
    Makes backend (call handle operation arguments)
      [.onObject handle operation.method arguments] :=
  fun _ ↦ (runs_call rfl rfl).mono fun _ _ h ↦ h.2

/-- Looking at the end of an action makes no further calls. -/
theorem Makes.bind {action : Client (Recorded σ) α} {next : α → Client (Recorded σ) β}
    {calls : List Call} (h : Makes backend action calls) (hnext : ∀ a, Makes backend (next a) []) :
    Makes backend (action >>= next) calls := by
  intro state
  refine Ends.bind (h state) ?_ ?_
  · rintro a after rfl
    exact hnext a _
  · rintro failure after rfl
    rfl

theorem makes_discard (handle : Handle) :
    Makes backend (discard handle) [.release handle] :=
  fun state ↦ (ends_discard handle state).mono fun _ _ h ↦ h.2

theorem Makes.map {action : Client (Recorded σ) α} {calls : List Call} (f : α → β)
    (h : Makes backend action calls) : Makes backend (f <$> action) calls := by
  rw [map_eq_pure_bind]
  exact h.bind fun a ↦ makes_pure (f a)

theorem Makes.attempt {action : Client (Recorded σ) α} {calls : List Call}
    (h : Makes backend action calls) : Makes backend (attempt action) calls := by
  intro state
  refine Ends.tryCatch (h.map Except.ok state) (fun _ _ hended ↦ hended) ?_
  rintro (error | _) after rfl
  · exact ends_pure rfl
  · exact ends_throw rfl

/-- Started anywhere, the action makes these calls or only the first ones of them, but not none if
there are any. -/
def MakesPart (backend : Backend σ) (action : Client (Recorded σ) α) (calls : List Call) : Prop :=
  ∀ state, Ends backend.recorded action state fun _ after ↦
    ∃ made, made <+: calls ∧ (calls ≠ [] → made ≠ []) ∧ after = state.answerAll backend made

theorem Makes.part {action : Client (Recorded σ) α} {calls : List Call}
    (h : Makes backend action calls) : MakesPart backend action calls :=
  fun state ↦ (h state).mono fun _ _ hafter ↦ ⟨calls, List.prefix_refl _, id, hafter⟩

theorem MakesPart.bind {action : Client (Recorded σ) α} {next : α → Client (Recorded σ) β}
    {calls : List Call} (h : MakesPart backend action calls)
    (hnext : ∀ a, Makes backend (next a) []) : MakesPart backend (action >>= next) calls := by
  intro state
  refine Ends.bind (h state) ?_ ?_
  · rintro a after ⟨made, hbegins, hsome, rfl⟩
    exact (hnext a _).mono fun _ _ hafter ↦ ⟨made, hbegins, hsome, hafter⟩
  · rintro failure after hafter
    exact hafter

end Client

end ColumnStore
