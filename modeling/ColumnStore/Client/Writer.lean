import ColumnStore.Client.Connection
import ColumnStore.Options
import ColumnStore.Schema.Text
import ColumnStore.Value.Cell

/-!
# Writers

A `WriterBuilder` settles what is written, a `Writer` takes the records. As with readers, every
step uses the builder up, and a close that fails leaves the writer open.
-/

set_option autoImplicit false

namespace ColumnStore

/-- Something that a writer is built with. -/
structure WriterBuilder where
  handle : Handle
  path : Option String
  schema : Option Schema
  /-- Has the name of the writing application been set? -/
  named : Bool
  deriving DecidableEq

/-- Something that records are written to. -/
structure Writer where
  handle : Handle
  path : String
  schema : Option Schema
  /-- How many records have been taken. -/
  written : Nat
  closed : Bool
  deriving DecidableEq

namespace WriterBuilder

variable {σ : Type}

/-- The name of the writing application if none is set. -/
def defaultName : String := "carbonr 0.1.0"

/-- Gives a builder up. -/
def drop (builder : WriterBuilder) : Client σ Unit :=
  Client.discard builder.handle

/-- Makes a builder. -/
def create : Client σ WriterBuilder := do
  let returned ← Client.callStatic .newWriterBuilder []
  let handle ← Client.expect "CarbonWriter.builder" .other
    (returned.bind (Returned.toObject Operation.newWriterBuilder.method))
  pure ⟨handle, none, none, false⟩

/-- Runs a step; the builder is given up if the step fails. -/
def step (builder : WriterBuilder) (action : Client σ Unit) : Client σ WriterBuilder := do
  Client.cleaning builder.drop action
  pure builder

/-- A step that calls a method of the builder. -/
def chain (builder : WriterBuilder) (name : String) (operation : Operation)
    (arguments : List Argument) : Client σ Unit := do
  Client.expect name .other (← Client.chain builder.handle operation arguments)

/-- Settles the folder that is written to. -/
def outputPath (builder : WriterBuilder) (path : String) : Client σ WriterBuilder := do
  let builder ← builder.step (builder.chain "outputPath" .setOutputPath [.text path])
  pure { builder with path := some path }

/-- Settles the schema of the records, given as a schema text. -/
def schemaText (builder : WriterBuilder) (text : String) : Client σ WriterBuilder :=
  match Schema.read text with
  | .error error => builder.step (Client.refuse error)
  | .ok schema => do
    let builder ← builder.step (builder.chain "withCsvInput" .setCsvSchema [.text text])
    pure { builder with schema := some schema }

/-- Settles the schema of the records. -/
def schemaOf (builder : WriterBuilder) (schema : Schema) : Client σ WriterBuilder :=
  if schema.isEmpty then builder.step (Client.refuse (.schema "writer schema has no fields"))
  else builder.schemaText schema.text

/-- Sets an option; the last value of a key counts. -/
def option (builder : WriterBuilder) (key value : String) : Client σ WriterBuilder :=
  builder.step (builder.chain ("withHadoopConf(" ++ key ++ ")") .setWriterOption
    [.text key, .text value])

/-- Sets options in their order. -/
def options (builder : WriterBuilder) (options : Options) : Client σ WriterBuilder :=
  options.entries.foldlM (fun builder entry ↦ builder.option entry.1 entry.2) builder

/-- Settles the name of the writing application. -/
def writtenBy (builder : WriterBuilder) (name : String) : Client σ WriterBuilder := do
  let builder ← builder.step (builder.chain "writtenBy" .setWrittenBy [.text name])
  pure { builder with named := true }

/-- Settles the columns that rows are sorted by. -/
def sortBy (builder : WriterBuilder) (columns : List String) : Client σ WriterBuilder :=
  builder.step (builder.chain "sortBy" .setSortColumns [.texts columns])

/-- Settles the size of a block, from 1 to 2048 megabytes. -/
def blockSize (builder : WriterBuilder) (size : Nat) : Client σ WriterBuilder :=
  builder.step <|
    if 1 ≤ size ∧ size ≤ 2048 then
      builder.chain "withBlockSize" .setBlockSize [.int (Int32.ofNat size)]
    else
      Client.refuse (.config ("block size must be 1..=2048 MB, got " ++ toString size))

/-- The greatest size of a blocklet, which is a signed number of 32 bits. -/
def greatestBlocklet : Nat := 2147483647

/-- Settles the size of a blocklet. -/
def blockletSize (builder : WriterBuilder) (size : Nat) : Client σ WriterBuilder :=
  builder.step <|
    if 0 < size ∧ size ≤ greatestBlocklet then
      builder.chain "withBlockletSize" .setBlockletSize [.int (Int32.ofNat size)]
    else
      Client.refuse (.config ("blocklet size must be positive, got " ++ toString size))

/-- Settles the number that marks the files. -/
def uniqueIdentifier (builder : WriterBuilder) (identifier : Int64) : Client σ WriterBuilder :=
  builder.step (builder.chain "uniqueIdentifier" .setUniqueIdentifier [.long identifier])

/-- Builds the writer, which uses the builder up. -/
def build (builder : WriterBuilder) : Client σ Writer := do
  let builder ← if builder.named then pure builder else builder.writtenBy defaultName
  let path := builder.path.getD ""
  Client.holding builder.handle do
    let returned ← Client.call builder.handle .buildWriter []
    let handle ← Client.expect "build" (.build path)
      (returned.bind (Returned.toObject Operation.buildWriter.method))
    Client.report ⟨.info, "writer built", [("path", path)]⟩
    pure ⟨handle, path, builder.schema, 0, false⟩

end WriterBuilder

namespace Writer

variable {σ : Type}

/-- Writes a record, one cell for each column. -/
def write (writer : Writer) (record : List String) : Client σ Writer :=
  if writer.closed then Client.refuse (.closed .writer)
  else do
    let returned ← Client.call writer.handle .writeRecord [.texts record]
    match returned.bind (Returned.toNothing Operation.writeRecord.method) with
    | .ok _ => pure { writer with written := writer.written + 1 }
    | .error error =>
      Client.refuse (.context ("record " ++ toString writer.written)
        (.ofCall "write" .other error))

/-- Writes the cells of a row of values. -/
def writeValues (writer : Writer) (values : Row) : Client σ Writer :=
  writer.write (Value.cells values)

/-- Closes the writer, which commits its records. -/
def close (writer : Writer) : Client σ Writer :=
  if writer.closed then pure writer
  else do
    let returned ← Client.call writer.handle .closeWriter []
    Client.expect "close" .other (returned.bind (Returned.toNothing Operation.closeWriter.method))
    Client.report ⟨.debug, "writer closed",
      [("path", writer.path), ("rows", toString writer.written)]⟩
    pure { writer with closed := true }

/-- Gives a writer up, after closing it if that has not been done. -/
def drop (writer : Writer) : Client σ Unit := do
  if !writer.closed then
    Client.report ⟨.warning, "writer dropped without close", [("path", writer.path)]⟩
    match ← Client.attempt writer.close with
    | .ok _ => pure ()
    | .error error =>
      Client.report ⟨.warning, "closing writer on drop failed", [("error", error.message)]⟩
  Client.discard writer.handle

end Writer

end ColumnStore
