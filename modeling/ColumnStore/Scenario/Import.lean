import ColumnStore.Client.Writer
import ColumnStore.Scenario.Basic

/-!
# Importing a text file

A comma-separated file is written to a new table, and the table is read back and counted. Without a
schema every column is text and has the name that stands in the first record.
-/

set_option autoImplicit false

namespace ColumnStore

/-- A file that a program has opened: its name, and its bytes or the reason why there are none. -/
structure InputFile where
  name : String
  content : Except String (List UInt8)

namespace Scenario

variable {m : Type → Type} [Monad m] {σ α : Type}

/-- Goes on with what was read from a text file. -/
def ofCsv : Except Csv.Error α → Scenario m σ α
  | .ok result => pure result
  | .error error => refuse (.csv error)

/-- The table in a file. -/
def readCsv (input : InputFile) : Except Csv.Error CsvTable :=
  match input.content with
  | .ok bytes => CsvTable.read bytes
  | .error reason => .error (.unreadable reason)

/-- The schema of a table: the one that is given, or a text column for each name in the header. -/
def schemaFor (header : List String) : Option String → Except Error Schema
  | some text => Schema.read text
  | none => .ok ⟨header.map fun name ↦ .scalar name .string⟩

/-- A writer for the records of a file. -/
def openWriter (path : String) (schema : Schema) (options : Options) : Client σ Writer := do
  let builder ← WriterBuilder.create
  let builder ← builder.outputPath path
  let builder ← builder.schemaOf schema
  let builder ← builder.options options
  let builder ← builder.writtenBy "carbonr-cli"
  builder.build

/-- Writes records. If one of them cannot be read or written, the writer is given up. -/
def writeRecords (writer : Writer) :
    List (Except Csv.Error (List String)) → Scenario m σ Writer
  | [] => pure writer
  | record :: rest => do
    let writer ← cleaning writer.drop do
      let record ← ofCsv record
      act (writer.write record)
    writeRecords writer rest

/-- Counts what is left of the rows, at most `limit` of them. -/
def countFrom (reader : Reader) : Nat → Nat → Scenario m σ Nat
  | 0, count => pure count
  | limit + 1, count => do
    match ← act reader.step with
    | (none, _) => pure count
    | (some (.error error), _) => refuse (.library error)
    | (some (.ok row), _) => do
      act row.drop
      countFrom reader limit (count + 1)

/-- Writes the records of a file to a table and counts the rows of the table. -/
def importCsv (input : InputFile) (path : String) (schemaText : Option String)
    (options : Options) : Scenario m σ Nat := do
  let table ← ofCsv (readCsv input)
  let schema ←
    match schemaFor table.header schemaText with
    | .ok schema => pure schema
    | .error error => refuse (.library error)
  if schema.length ≠ table.header.length then
    refuse (.library (.schema ("schema has " ++ toString schema.length ++ " columns, "
      ++ input.name ++ " has " ++ toString table.header.length)))
  else
    let writer ← act (openWriter path schema options)
    let writer ← writeRecords writer table.records
    let writer ← cleaning writer.drop (act writer.close)
    afterwards writer.drop do
      let reader ← act (openReader path options)
      reading reader (countFrom reader Reader.everyRow 0) fun count ↦ do
        line ("wrote " ++ toString writer.written ++ " rows to " ++ path ++ ", read back "
          ++ toString count)
        pure count

end Scenario

end ColumnStore
