import ColumnStore.Event
import ColumnStore.Managed.Argument
import ColumnStore.Managed.Operation
import ColumnStore.Managed.Returned

/-!
# Backends

A `Backend` answers managed calls. Every call takes the state of the backend and gives a `Reply`:
how the call ended, the new state, and what was reported on the way. A call that ends in `crashed`
broke off in the middle of its work and has no answer.
-/

set_option autoImplicit false

namespace ColumnStore

/-- How a call ended. -/
inductive Outcome (α : Type) where
  | returned (result : α)
  | failed (error : CallError)
  | crashed
  deriving DecidableEq

/-- The end of a call, the state after it and what was reported. -/
structure Reply (σ α : Type) where
  outcome : Outcome α
  state : σ
  events : List Event

namespace Reply

variable {σ α : Type}

/-- A call that returned. -/
def returned (state : σ) (result : α) : Reply σ α := ⟨.returned result, state, []⟩

/-- A call that failed. -/
def failed (state : σ) (error : CallError) : Reply σ α := ⟨.failed error, state, []⟩

/-- The reply of a call that only looks at the state. -/
def ofExcept (state : σ) : Except CallError α → Reply σ α
  | .ok result => returned state result
  | .error error => failed state error

/-- Puts an event in front of the others. -/
def reporting (event : Event) (reply : Reply σ α) : Reply σ α :=
  { reply with events := event :: reply.events }

/-- Goes on with the result. -/
def andThen {β : Type} (reply : Reply σ α) (next : α → Except CallError β) : Reply σ β :=
  match reply with
  | ⟨.returned result, state, events⟩ =>
    match next result with
    | .ok result => ⟨.returned result, state, events⟩
    | .error error => ⟨.failed error, state, events⟩
  | ⟨.failed error, state, events⟩ => ⟨.failed error, state, events⟩
  | ⟨.crashed, state, events⟩ => ⟨.crashed, state, events⟩

end Reply

/-- Something that answers managed calls; `σ` is the type of its states. -/
structure Backend (σ : Type) where
  /-- The name in reports. -/
  name : String
  /-- Makes an object and gives its handle. -/
  construct : Method → List Argument → σ → Reply σ Handle
  /-- Calls a method of a class. -/
  callStatic : Method → List Argument → σ → Reply σ Returned
  /-- Calls a method of an object. -/
  call : Handle → Method → List Argument → σ → Reply σ Returned
  /-- Gives up a handle. -/
  release : Handle → σ → Reply σ Unit
  /-- The count of handles in use. -/
  liveObjects : σ → Nat
  /-- Shuts the managed side down for good. -/
  shutdown : σ → Reply σ Unit

end ColumnStore
