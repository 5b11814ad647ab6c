import ColumnStore.Binary.Fixed
import ColumnStore.Client.SchemaReader
import ColumnStore.Scenario.Basic
import ColumnStore.Scenario.Demo

/-!
# Scenarios that read

Tables are read to the end and every row is printed, a schema is listed, and a reader is built where
no table is.
-/

set_option autoImplicit false

namespace ColumnStore

namespace Scenario

variable {m : Type → Type} [Monad m] {σ : Type}

/-- The count of nanoseconds in a second. -/
def nanoseconds : Nat := 1000000000

/-- A time in nanoseconds, printed in seconds. -/
def seconds (time : Nat) : String :=
  ratioText 6 time nanoseconds

/-- Prints what is left of the rows, at most `limit` of them, and counts them. -/
def printFrom (reader : Reader) : Nat → Nat → Scenario m σ Nat
  | 0, count => pure count
  | limit + 1, count => do
    if ← act reader.hasNext then
      let row ← act reader.next
      afterwards row.drop do
        line ((← act row.accessor.printedRow) ++ "\t")
      printFrom reader limit (count + 1)
    else pure count

/-- Prints all rows and counts them. -/
def printRows (reader : Reader) : Scenario m σ Nat :=
  printFrom reader Reader.everyRow 0

/-- Prints all rows of a table. -/
def readAll (path : String) (options : Options) : Scenario m σ Nat := do
  line "\nRead data from local without projection:"
  let reader ← act (openReader path options)
  reading reader (printRows reader) pure

/-- Prints all rows of a table, with the columns that are asked for. No columns means those of the
demo tables. -/
def readColumns (path table : String) (columns : List String) (options : Options) :
    Scenario m σ Nat := do
  line "\nRead data from local:"
  let columns := if columns.isEmpty then Demo.schema.names else columns
  let reader ← act do
    let builder ← ReaderBuilder.forPath path (some table)
    let builder ← builder.projection columns
    let builder ← builder.options options
    builder.build
  reading reader (printRows reader) pure

/-- Prints all rows of a table in an object store. -/
def readRemote (path access secret endpoint : String) (options : Options) :
    Scenario m σ Nat := do
  line "\nRead data from S3:"
  let start ← now
  let reader ← act do
    let builder ← ReaderBuilder.forPath path (some "test")
    let builder ← builder.options options
    builder.buildRemote access secret endpoint
  let body : Scenario m σ Nat := do
    let built ← now
    line ("build time: " ++ seconds (built - start) ++ " s")
    printRows reader
  reading reader body fun count ↦ do
    let read ← now
    line ("read time: " ++ seconds (read - start) ++ " s")
    pure count

/-- Builds a reader where no table is and prints the error, which is the result. -/
def handleMissing : Scenario m σ (Option Error) := do
  line "\ntry catch exception and print:"
  let builder ← act (ReaderBuilder.forPath Demo.missingPath none)
  let handled ←
    match ← act (Client.attempt builder.build) with
    | .ok reader => do
      act (Client.report
        ⟨.warning, "expected build to fail", [("path", Demo.missingPath)]⟩)
      let reader ← cleaning reader.drop (act reader.close)
      act reader.drop
      pure none
    | .error error => do
      line error.message
      pure (some error)
  line "\nfinished handle exception"
  pure handled

/-- Lists numbered columns. -/
def listFields (number : Nat) : List Field → Scenario m σ Unit
  | [] => pure ()
  | field :: rest => do
    line (toString number ++ "\t" ++ field.name ++ "\t" ++ field.typeText)
    listFields (number + 1) rest

/-- Lists the columns of a table, and who wrote it. -/
def showSchema (path : String) : Scenario m σ Schema := do
  let schema ← act (SchemaReader.inDataFile path)
  listFields 0 schema.fields
  match ← act (Client.attempt (SchemaReader.versionDetails path)) with
  | .ok details => line details
  | .error error =>
    act (Client.report ⟨.warning, "no version details", [("error", error.message)]⟩)
  pure schema

end Scenario

end ColumnStore
