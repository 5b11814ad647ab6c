import ColumnStore.Memory.Backend
import ColumnStore.Scenario.Benchmark
import ColumnStore.Scenario.Import
import ColumnStore.Tool.Help

/-!
# Running the tool

`Tool.run` carries out a command line: it puts the session together, opens the backend with the
demo tables in it, plays the scenarios of the command and shuts the backend down. A `RunEnd` is what
the caller learns of that, as an exit code and lines for the error output.
-/

set_option autoImplicit false

namespace ColumnStore

/-- What the tool needs of its surroundings. -/
structure World (m : Type → Type) where
  surroundings : Surroundings m
  /-- The bytes of a file, or the reason why there are none. -/
  readFile : String → m (Except String (List UInt8))
  /-- The variables of the environment. -/
  environment : Options

/-- How a run of the tool ends. -/
inductive RunEnd where
  | success
  /-- The command line was not carried out. -/
  | refused (refusal : Refusal)
  | stopped (stop : Stop)
  deriving DecidableEq, Repr

namespace RunEnd

/-- The exit code of the tool. -/
def exitCode : RunEnd → Nat
  | success => 0
  | refused (.help _ _) => 0
  | refused .usage => 2
  | stopped (.error _) => 1
  | stopped .crash => 101

/-- The lines that tell the user about an error. -/
def errorLines : RunEnd → List String
  | stopped (.error error) =>
    ("Error: " ++ error.message) :: error.suggestions.map fun hint ↦ "  hint: " ++ hint
  | _ => []

end RunEnd

namespace Tool

variable {m : Type → Type} [Monad m] {σ α : Type}

/-- The session that a command line asks for, if its backend is available. -/
def openSession (world : World m) (invocation : Invocation) : m (Except ToolError Session) := do
  let session ←
    match invocation.session with
    | some path => do pure (Session.load path (← world.readFile path))
    | none => pure (.ok (.ofEnvironment world.environment))
  pure do
    let overrides : Overrides :=
      { backend := invocation.backend
        classPath := invocation.classPath
        verbose := invocation.verbose && invocation.backend == some .machine
        options := invocation.options }
    match (← session).override overrides with
    | (session, none) => do
      session.available
      pure session
    | (_, some error) => .error (.library error)

/-- The file that a command reads. -/
def inputOf (world : World m) : ToolCommand → m InputFile
  | .importCsv input _ _ => do pure ⟨input, ← world.readFile input⟩
  | _ => pure ⟨"", .ok []⟩

/-- Plays the scenarios of a command. -/
def play (options : Options) (input : InputFile) : ToolCommand → Scenario m σ Unit
  | .readAll path => discard (Scenario.readAll path options)
  | .readColumns path table columns =>
    discard (Scenario.readColumns path table columns options)
  | .readRemote path access secret endpoint =>
    discard (Scenario.readRemote path access secret endpoint options)
  | .benchRows path every => discard (Scenario.benchRows path every options)
  | .benchBatches path size every => discard (Scenario.benchBatches path size every options)
  | .importCsv _ path schema => discard (Scenario.importCsv input path schema options)
  | .showSchema path => discard (Scenario.showSchema path)
  | .handleMissing => discard Scenario.handleMissing
  | .demo => do
    discard Scenario.handleMissing
    discard (Scenario.readAll Demo.smallPath options)
    discard (Scenario.readColumns Demo.smallPath "test" [] options)
    discard (Scenario.showSchema Demo.smallPath)
    let stretch := Invocation.defaultStretch
    discard (Scenario.benchRows Demo.largePath stretch options)
    discard (Scenario.benchBatches Demo.largePath stretch stretch options)

/-- Plays the scenarios of a command and shuts the backend down. If a scenario ends early, the
connection is just hung up. -/
def carryOut (options : Options) (input : InputFile) (command : ToolCommand) :
    Scenario m σ Unit := do
  Scenario.cleaning Client.hangUp (play options input command)
  Scenario.act Client.shutdown
  Scenario.line "\nfinish destroy runtime"

/-- Opens the in-process backend with the demo tables in it. -/
def openBackend (rows : Nat) (threshold : Level) : Connection Memory :=
  .start Memory.backend (.start (Demo.stock .empty rows)) threshold
    [⟨.info, "memory backend seeded", [("bench_rows", toString rows)]⟩, Memory.started]

/-- Carries out a command line. The result also holds what was reported. -/
def run (world : World m) (words : List String) : m (RunEnd × List Event) := do
  match Invocation.read words with
  | .error refusal => do
    match refusal with
    | .help command brief => discard (world.surroundings.write (Help.text command brief))
    | .usage => pure ()
    pure (.refused refusal, [])
  | .ok invocation =>
    match ← openSession world invocation with
    | .error error => pure (.stopped (.error error), [])
    | .ok session => do
      let input ← inputOf world invocation.command
      let threshold : Level := if invocation.verbose then .debug else .info
      let connection := openBackend invocation.demoRows threshold
      let scenario : Scenario m Memory Unit :=
        carryOut session.options input invocation.command
      let (result, connection) ←
        (scenario.run (Memory.backend, world.surroundings)).run connection
      let ending : RunEnd :=
        match result with
        | .ok _ => .success
        | .error stop => .stopped stop
      pure (ending, connection.log.events)

end Tool

end ColumnStore
