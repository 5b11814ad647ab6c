import ColumnStore.Tool.Run
import ColumnStore.Tool.Folder

/-!
# The command-line tool

Connects the tool with the real world: the clock, the files, the environment and the standard
streams.
-/

set_option autoImplicit false

open ColumnStore

/-- The reason why the system did not do something. -/
def reasonOf : IO.Error → String
  | .noFileOrDirectory _ _ _ => PathFault.missing.message
  | .inappropriateType _ _ _ => PathFault.isFolder.message
  | other => toString other

/-- The real world. -/
def realWorld (environment : Options) : World IO where
  surroundings := {
    now := IO.monoNanosNow
    write := fun text ↦ do
      try
        let output ← IO.getStdout
        output.putStr text
        pure none
      catch error => pure (some (reasonOf error)) }
  readFile path := do
    try
      let bytes ← IO.FS.readBinFile path
      pure (.ok bytes.toList)
    catch error => pure (.error (reasonOf error))
  environment := environment

/-- The variables that the tool looks at. -/
def knownVariables : List String :=
  ["CARBONR_CLASSPATH", "CARBONR_JVM_OPTS", "CARBONR_VERBOSE_JNI"]

/-- The word for a level in the error output. -/
def levelWord : Level → String
  | .debug => "DEBUG"
  | .info => "INFO"
  | .warning => "WARN"

/-- An event as a line of the error output. -/
def eventLine (event : Event) : String :=
  Text.joinWith " " ([levelWord event.level, event.message]
    ++ event.details.map fun detail ↦ detail.1 ++ "=" ++ detail.2)

/-- Runs the tool. -/
def main (words : List String) : IO UInt32 := do
  let environment ← knownVariables.filterMapM fun name ↦ do
    pure ((← IO.getEnv name).map fun value ↦ (name, value))
  let (ending, events) ← Tool.run (realWorld (.ofEntries environment)) words
  for event in events do
    IO.eprintln (eventLine event)
  match ending with
  | .refused .usage => IO.eprint (Help.text none true)
  | ending => ending.errorLines.forM fun line ↦ IO.eprintln line
  pure (UInt32.ofNat ending.exitCode)
