import ColumnStore.Client.Reader
import ColumnStore.Tool.Error

/-!
# Scenarios

A `Scenario` works on a connection and writes a report. What it needs of its surroundings is a
clock and something to write to, in any monad `m`: the real world in the tool, and a `Sheet` with
or without a limited length where a scenario is only tried out. Whatever a scenario holds is given
up when it ends, also if it ends early.
-/

set_option autoImplicit false

namespace ColumnStore

/-- What a scenario needs of its surroundings. -/
structure Surroundings (m : Type → Type) where
  /-- A clock, in nanoseconds. -/
  now : m Nat
  /-- Writes a text. If that fails, the result is the reason. -/
  write : String → m (Option String)

/-- Why a scenario ended early. -/
inductive Stop where
  | error (error : ToolError)
  | crash
  deriving DecidableEq, Repr

/-- Work on a connection with a report. -/
abbrev Scenario (m : Type → Type) (σ α : Type) :=
  ReaderT (Backend σ × Surroundings m) (ExceptT Stop (StateT (Connection σ) m)) α

/-- Why a scenario ended early if one of its client actions did. -/
def Failure.toStop : Failure → Stop
  | .error cause => .error (.library cause)
  | .crash => .crash

namespace Scenario

variable {m : Type → Type} [Monad m] {σ α β : Type}

/-- Ends with an error. -/
def refuse (error : ToolError) : Scenario m σ α :=
  throw (.error error)

/-- Runs an action of a client. -/
def act (action : Client σ α) : Scenario m σ α := fun env ↦
  ExceptT.mk fun connection ↦
    match action.run env.1 connection with
    | (.ok result, connection) => pure (.ok result, connection)
    | (.error failure, connection) => pure (.error failure.toStop, connection)

/-- The nanoseconds on the clock. -/
def now : Scenario m σ Nat := fun env ↦
  ExceptT.mk fun connection ↦ do
    let time ← env.2.now
    pure (.ok time, connection)

/-- Writes a text. -/
def write (text : String) : Scenario m σ Unit := fun env ↦
  ExceptT.mk fun connection ↦ do
    match ← env.2.write text with
    | none => pure (.ok (), connection)
    | some reason => pure (.error (.error (.output reason)), connection)

/-- Writes a line. -/
def line (text : String) : Scenario m σ Unit :=
  write (text ++ "\n")

/-- Runs an action, and `cleanup` if it ends early. -/
def cleaning (cleanup : Client σ Unit) (action : Scenario m σ α) : Scenario m σ α :=
  tryCatch action fun stop ↦ do
    act cleanup
    throw stop

/-- Runs an action, and `cleanup` afterwards, however the action ends. -/
def afterwards (cleanup : Client σ Unit) (action : Scenario m σ α) : Scenario m σ α := do
  let result ← cleaning cleanup action
  act cleanup
  pure result

/-- Reads from a reader and closes it, and goes on before the reader is given up. -/
def reading (reader : Reader) (body : Scenario m σ α) (next : α → Scenario m σ β) :
    Scenario m σ β := do
  let (result, reader) ← cleaning reader.drop do
    let result ← body
    pure (result, ← act reader.close)
  afterwards reader.drop (next result)

/-- A reader over a path with options. -/
def openReader (path : String) (options : Options) : Client σ Reader := do
  let builder ← ReaderBuilder.forPath path none
  let builder ← builder.options options
  builder.build

end Scenario

/-- A sheet that is written on, with room for some more bytes if its length is limited. -/
structure Sheet where
  text : String
  room : Option Nat

namespace Sheet

/-- An empty sheet. -/
def blank (room : Option Nat) : Sheet := ⟨"", room⟩

/-- What is written when the sheet is full. -/
def fullReason : String := "disk full"

/-- As many characters as have room. A character that has room for some of its bytes leaves a
replacement character. -/
def fitting (room : Nat) : List Char → List Char
  | [] => []
  | c :: rest =>
    if c.utf8Size ≤ room then c :: fitting (room - c.utf8Size) rest
    else if room = 0 then [] else ['\ufffd']

/-- Writes a text; if it is too long, as much of it as there is room for. -/
def write (text : String) (sheet : Sheet) : Option String × Sheet :=
  match sheet.room with
  | none => (none, ⟨sheet.text ++ text, none⟩)
  | some room =>
    if text.utf8ByteSize ≤ room then
      (none, ⟨sheet.text ++ text, some (room - text.utf8ByteSize)⟩)
    else (some fullReason, ⟨sheet.text ++ String.ofList (fitting room text.toList), some 0⟩)

/-- Surroundings in which a sheet is written on and no time passes. -/
def surroundings : Surroundings (StateM Sheet) :=
  ⟨pure 0, fun text ↦ modifyGet (write text)⟩

end Sheet

/-- Tries a scenario out on a sheet. -/
def Scenario.tryOut {σ α : Type} (scenario : Scenario (StateM Sheet) σ α) (backend : Backend σ)
    (connection : Connection σ) (room : Option Nat) : Except Stop α × Connection σ × String :=
  let ((result, connection), sheet) :=
    ((scenario.run (backend, Sheet.surroundings)).run connection).run (.blank room)
  (result, connection, sheet.text)

end ColumnStore
