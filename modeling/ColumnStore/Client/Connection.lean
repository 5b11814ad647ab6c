import ColumnStore.Client.Diagnosis
import ColumnStore.Managed.Backend

/-!
# Connections to a backend

A `Connection` is what a client works on: the state of a backend and the log. A `Client` action is
a computation on a connection that may end early with a `Failure`: with an error, or because a call
broke off. `Client.holding` gives up a handle at the end of an action, however it ends.
-/

set_option autoImplicit false

namespace ColumnStore

/-- Why an action ended early. -/
inductive Failure where
  | error (error : Error)
  | crash
  deriving DecidableEq, Repr

/-- The state of a backend and the log. -/
structure Connection (σ : Type) where
  state : σ
  log : Log

/-- An action of a client of a backend with states in `σ`. -/
abbrev Client (σ α : Type) := ReaderT (Backend σ) (ExceptT Failure (StateM (Connection σ))) α

namespace Client

variable {σ α : Type}

/-- Writes an event to the log. -/
def report (event : Event) : Client σ Unit :=
  modify fun connection ↦ { connection with log := connection.log.add event }

/-- Ends with an error. -/
def refuse (error : Error) : Client σ α :=
  throw (.error error)

/-- Makes a call and keeps its new state and its events. -/
def exchange (call : Backend σ → σ → Reply σ α) : Client σ (Except CallError α) :=
  fun backend ↦ ExceptT.mk fun connection ↦
    match connection with
    | ⟨state, log⟩ =>
      match call backend state with
      | ⟨outcome, state, events⟩ =>
        let connection : Connection σ := ⟨state, log.addAll events⟩
        match outcome with
        | .returned result => (.ok (.ok result), connection)
        | .failed error => (.ok (.error error), connection)
        | .crashed => (.error .crash, connection)

/-- Calls a method of a class. -/
def callStatic (operation : Operation) (arguments : List Argument) :
    Client σ (Except CallError Returned) :=
  exchange fun backend ↦ backend.callStatic operation.method arguments

/-- Calls a method of an object. -/
def call (handle : Handle) (operation : Operation) (arguments : List Argument) :
    Client σ (Except CallError Returned) :=
  exchange fun backend ↦ backend.call handle operation.method arguments

/-- Makes an object. -/
def construct (operation : Operation) (arguments : List Argument) :
    Client σ (Except CallError Handle) :=
  exchange fun backend ↦ backend.construct operation.method arguments

/-- Gives up a handle. -/
def release (handle : Handle) : Client σ (Except CallError Unit) :=
  exchange fun backend ↦ backend.release handle

/-- The result of a call, or the error that its failure means. -/
def expect (operation : String) (purpose : Purpose) (result : Except CallError α) : Client σ α :=
  match result with
  | .ok result => pure result
  | .error error => refuse (.ofCall operation purpose error)

/-- Gives up a handle that is not needed any more. A failure is only reported. -/
def discard (handle : Handle) : Client σ Unit := do
  match ← release handle with
  | .ok _ => pure ()
  | .error error =>
    report ⟨.debug, "release failed", [("obj", toString handle), ("error", error.message)]⟩

/-- Runs an action, and `cleanup` if it ends early. -/
def cleaning (cleanup : Client σ Unit) (action : Client σ α) : Client σ α :=
  tryCatch action fun failure ↦ do
    cleanup
    throw failure

/-- Runs an action and gives up a handle afterwards, however the action ends. -/
def holding (handle : Handle) (action : Client σ α) : Client σ α := do
  let result ← cleaning (discard handle) action
  discard handle
  pure result

/-- Gives up handles one after the other. -/
def discardAll (handles : List Handle) : Client σ Unit :=
  handles.forM discard

/-- Runs an action and gives up handles afterwards, however the action ends. -/
def holdingAll (handles : List Handle) (action : Client σ α) : Client σ α := do
  let result ← cleaning (discardAll handles) action
  discardAll handles
  pure result

/-- Runs an action and tells an error it ends with. -/
def attempt (action : Client σ α) : Client σ (Except Error α) :=
  tryCatch (Except.ok <$> action) fun
    | .error error => pure (.error error)
    | .crash => throw .crash

/-- Runs an action and tells how it ended. -/
def settle (action : Client σ α) : Client σ (Except Failure α) :=
  tryCatch (Except.ok <$> action) fun failure ↦ pure (.error failure)

/-- Calls a step of a builder, which returns the builder. Another object that it may return is
given up at once. -/
def chain (handle : Handle) (operation : Operation) (arguments : List Argument) :
    Client σ (Except CallError Unit) := do
  match (← call handle operation arguments).bind (Returned.toObject operation.method) with
  | .error error => pure (.error error)
  | .ok returned => if returned = handle then pure (.ok ()) else release returned

/-- The count of handles in use. -/
def liveObjects : Client σ Nat := do
  let backend ← read
  pure (backend.liveObjects (← get).state)

/-- Shuts the managed side down. Handles still in use are reported. -/
def shutdown : Client σ Unit := do
  let backend ← read
  let live ← liveObjects
  if 0 < live then
    report ⟨.warning, "objects still pinned at shutdown", [("live", toString live)]⟩
  match ← exchange Backend.shutdown with
  | .ok _ => report ⟨.info, "runtime shut down", [("backend", backend.name)]⟩
  | .error error => refuse (.bridge error.message)

/-- Shuts the managed side down at the end of a connection, where an error is only reported. -/
def hangUp : Client σ Unit :=
  tryCatch shutdown fun
    | .error error =>
      report ⟨.warning, "runtime shutdown on drop failed", [("error", error.message)]⟩
    | .crash => throw .crash

/-- Runs an action on a connection. -/
def run (action : Client σ α) (backend : Backend σ) (connection : Connection σ) :
    Except Failure α × Connection σ :=
  (ReaderT.run action backend).run connection

end Client

namespace Connection

/-- A connection to a backend that has just started and reported `events`. -/
def start {σ : Type} (backend : Backend σ) (state : σ) (threshold : Level) (events : List Event) :
    Connection σ :=
  ⟨state, (Log.empty threshold).addAll
    (events ++ [⟨.info, "runtime ready", [("backend", backend.name)]⟩])⟩

/-- Takes out the events so far. -/
def takeEvents {σ : Type} (connection : Connection σ) : List Event × Connection σ :=
  (connection.log.events, { connection with log := .empty connection.log.threshold })

end Connection

end ColumnStore
