import ColumnStore.Console.Command

/-!
# Consoles

A `Console` is a workbench with a connection to an in-process backend behind planned faults.
`Console.perform` performs a command and says what came of it. `Console.finish` gives up all objects
and ends the connection.
-/

set_option autoImplicit false

namespace ColumnStore

/-- A workbench with a connection. -/
structure Console where
  connection : Connection (Faulty Memory)
  bench : Workbench

/-- What came of a command, and what the connection is like after it. -/
structure Report (α : Type) where
  result : Except Mishap α
  /-- The count of handles in use. -/
  live : Nat
  /-- The count of calls that reached the backend. -/
  totalCalls : Nat
  /-- What was reported meanwhile. -/
  events : List Event

namespace Console

/-- The backend of a console. -/
def backend : Backend (Faulty Memory) := Memory.backend.withFaults

/-- The store of a console. -/
def store (console : Console) : Store := console.connection.state.inner.store

/-- A console over a store, and what its connection reported at the start. -/
def start (store : Store) (faults : List Fault) (threshold : Level) : List Event × Console :=
  let connection : Connection (Faulty Memory) :=
    .start backend ⟨faults, .start store⟩ threshold [Memory.started]
  let (events, connection) := connection.takeEvents
  (events, ⟨connection, .empty⟩)

/-- Runs an action on the connection. -/
def run {α : Type} (action : Client (Faulty Memory) α) (console : Console) :
    Except Failure α × Console :=
  let (result, connection) := action.run backend console.connection
  (result, { console with connection := connection })

/-- Says how something ended, with the events since the last time. -/
def report {α : Type} (result : Except Mishap α) (live : Nat) (console : Console) :
    Report α × Console :=
  let (events, connection) := console.connection.takeEvents
  (⟨result, live, console.store.totalCalls, events⟩, { console with connection := connection })

/-- The count of handles in use. -/
def live (console : Console) : Nat :=
  backend.liveObjects console.connection.state

/-- Performs a command. -/
def perform (command : Command) (console : Console) : Report Answer × Console :=
  let (result, console) := console.run (command.task console.bench)
  match result with
  | .ok (result, bench) =>
    let console := { console with bench := bench }
    console.report result console.live
  | .error failure => console.report (.error (.failure failure)) console.live

/-- Performs commands one after the other. -/
def performAll (commands : List Command) (console : Console) : List (Report Answer) × Console :=
  let (reports, console) := commands.foldl
    (fun (reports, console) command ↦
      let (report, console) := perform command console
      (report :: reports, console)) ([], console)
  (reports.reverse, console)

/-- How a connection ends: it is shut down, or just hung up. -/
inductive Ending where
  | shutdown
  | hangUp
  deriving DecidableEq, Repr

/-- Gives up all objects and ends the connection. The count of handles is the one before the end. -/
def finish (ending : Ending) (console : Console) : Report Unit × Console :=
  let (_, console) := console.run console.bench.clear
  let live := console.live
  let action : Client (Faulty Memory) Unit :=
    match ending with
    | .shutdown => Client.shutdown
    | .hangUp => Client.hangUp
  let (result, console) := console.run action
  report (result.mapError Mishap.failure) live { console with bench := .empty }

/-- Looks into the store. -/
def inspect (command : StoreCommand) (console : Console) : StoreAnswer × Console :=
  let memory := console.connection.state.inner
  let (answer, store) := command.run memory.store
  (answer,
    { console with
      connection :=
        { console.connection with
          state :=
            { console.connection.state with inner := { memory with store := store } } } })

end Console

end ColumnStore
