import ColumnStore.Client.Configuration
import ColumnStore.Client.Row

/-!
# Readers

A `ReaderBuilder` settles what is read, a `Reader` hands out the rows. Every step of a builder uses
the builder up: it gives back a builder to go on with, and if it fails the builder is given up.
A reader is closed once; after that it refuses to read, and closing it again does nothing. A close
that fails leaves the reader open.
-/

set_option autoImplicit false

namespace ColumnStore

/-- Something that a reader is built with. -/
structure ReaderBuilder where
  handle : Handle
  path : String
  batch : Option Nat
  deriving DecidableEq

/-- Something that rows are read from. -/
structure Reader where
  handle : Handle
  path : String
  batch : Option Nat
  closed : Bool
  deriving DecidableEq

/-- The greatest count of rows that can be asked for at a time. -/
def greatestBatch : Nat := 2147483647

/-- The count of rows to be read at a time, which is at least one. -/
def readBatch (size : Nat) : Except Error Int32 :=
  if 0 < size ∧ size ≤ greatestBatch then .ok (Int32.ofNat size)
  else
    .error (.config ("batch size must be in 1..=" ++ toString greatestBatch ++ ", got "
      ++ toString size))

namespace ReaderBuilder

variable {σ : Type}

/-- Gives a builder up. -/
def drop (builder : ReaderBuilder) : Client σ Unit :=
  Client.discard builder.handle

/-- Makes a builder from the result of a call. -/
def create (path : String) (table : Option String)
    (call : Client σ (Except CallError Returned)) : Client σ ReaderBuilder := do
  let returned ← call
  let handle ← Client.expect ("CarbonReader.builder(" ++ path ++ ")") .other
    (returned.bind (Returned.toObject Operation.newReaderBuilder.method))
  Client.report ⟨.debug, "reader builder created",
    [("path", path), ("table", table.getD "_temp")]⟩
  pure ⟨handle, path, none⟩

/-- Makes a builder over a path, and over a named table if a name is given. -/
def forPath (path : String) : Option String → Client σ ReaderBuilder
  | some table =>
    create path (some table)
      (Client.callStatic .newNamedReaderBuilder [.text path, .text table])
  | none => create path none (Client.callStatic .newReaderBuilder [.text path])

/-- Runs a step; the builder is given up if the step fails. -/
def step (builder : ReaderBuilder) (action : Client σ Unit) : Client σ ReaderBuilder := do
  Client.cleaning builder.drop action
  pure builder

/-- A step that calls a method of the builder. -/
def chain (builder : ReaderBuilder) (name : String) (operation : Operation)
    (arguments : List Argument) : Client σ Unit := do
  Client.expect name .other (← Client.chain builder.handle operation arguments)

/-- Settles the columns, in their order. No columns means all of them, and nothing is called. -/
def projection (builder : ReaderBuilder) (columns : List String) : Client σ ReaderBuilder :=
  if columns.isEmpty then pure builder
  else builder.step (builder.chain "projection" .setProjection [.texts columns])

/-- Sets an option; the last value of a key counts. -/
def option (builder : ReaderBuilder) (key value : String) : Client σ ReaderBuilder :=
  builder.step (builder.chain ("withHadoopConf(" ++ key ++ ")") .setReaderOption
    [.text key, .text value])

/-- Sets options in their order. -/
def options (builder : ReaderBuilder) (options : Options) : Client σ ReaderBuilder :=
  options.entries.foldlM (fun builder entry ↦ builder.option entry.1 entry.2) builder

/-- Sets options given as `key=value` texts. -/
def optionPairs (builder : ReaderBuilder) (texts : List String) : Client σ ReaderBuilder :=
  match Options.ofPairs texts with
  | .ok options => builder.options options
  | .error error => builder.step (Client.refuse error)

/-- Sets every entry of a configuration as an option. -/
def configuration (builder : ReaderBuilder) (configuration : Configuration) :
    Client σ ReaderBuilder :=
  builder.step (builder.chain "withHadoopConf(Configuration)" .setReaderConfiguration
    [.object configuration.handle])

/-- Settles how many rows are fetched at a time. -/
def batchSize (builder : ReaderBuilder) (size : Nat) : Client σ ReaderBuilder := do
  let builder ← builder.step do
    match readBatch size with
    | .ok n => builder.chain "withBatch" .setBatch [.int n]
    | .error error => Client.refuse error
  pure { builder with batch := some size }

/-- Builds the reader, which uses the builder up. -/
def build (builder : ReaderBuilder) : Client σ Reader :=
  Client.holding builder.handle do
    let returned ← Client.call builder.handle .buildReader []
    let handle ← Client.expect "build" (.build builder.path)
      (returned.bind (Returned.toObject Operation.buildReader.method))
    Client.report ⟨.info, "reader built",
      [("path", builder.path), ("batch", Event.optional (builder.batch.map toString))]⟩
    pure ⟨handle, builder.path, builder.batch, false⟩

/-- Sets the options of an object store and builds the reader. -/
def buildRemote (builder : ReaderBuilder) (access secret endpoint : String) : Client σ Reader := do
  let builder ← builder.options (.objectStore access secret endpoint)
  builder.build

end ReaderBuilder

namespace Reader

variable {σ α : Type}

/-- Goes on if the reader is open. -/
def whileOpen (reader : Reader) (action : Client σ α) : Client σ α :=
  if reader.closed then Client.refuse (.closed .reader) else action

/-- Is another row left? -/
def hasNext (reader : Reader) : Client σ Bool :=
  reader.whileOpen do
    let returned ← Client.call reader.handle .hasNextRow []
    Client.expect "hasNext" .read (returned.bind (Returned.toBoolean Operation.hasNextRow.method))

/-- The next row. -/
def next (reader : Reader) : Client σ HeldRow :=
  reader.whileOpen do
    let returned ← Client.call reader.handle .readRow []
    let handle ← Client.expect "readNextCarbonRow" .read
      (returned.bind (Returned.toObject Operation.readRow.method))
    pure ⟨handle⟩

/-- The next rows, at most `size` of them. -/
def nextBatch (reader : Reader) (size : Nat) : Client σ (List HeldRow) :=
  reader.whileOpen do
    match readBatch size with
    | .error error => Client.refuse error
    | .ok n =>
      let returned ← Client.call reader.handle .readRows [.int n]
      let handles ← Client.expect "readNextBatchRow" .read
        (returned.bind (Returned.toObjects Operation.readRows.method))
      pure (handles.map HeldRow.mk)

/-- Closes the reader. -/
def close (reader : Reader) : Client σ Reader :=
  if reader.closed then pure reader
  else do
    let returned ← Client.call reader.handle .closeReader []
    Client.expect ("close(" ++ reader.path ++ ")") .other
      (returned.bind (Returned.toNothing Operation.closeReader.method))
    Client.report ⟨.info, "reader closed", [("path", reader.path)]⟩
    pure { reader with closed := true }

/-- Gives a reader up, after closing it if that has not been done. -/
def drop (reader : Reader) : Client σ Unit := do
  if !reader.closed then
    Client.report ⟨.warning, "reader dropped without close()", [("path", reader.path)]⟩
    match ← Client.attempt reader.close with
    | .ok _ => pure ()
    | .error error =>
      Client.report ⟨.warning, "implicit close failed", [("error", error.message)]⟩
  Client.discard reader.handle

/-- Asks for the next row to be iterated over. The flag says whether the iteration goes on. An
error of asking whether a row is left ends it, and so does a read that finds no row. -/
def step (reader : Reader) : Client σ (Option (Except Error HeldRow) × Bool) := do
  match ← Client.attempt reader.hasNext with
  | .error error => pure (some (.error error), false)
  | .ok false => pure (none, false)
  | .ok true =>
    match ← Client.attempt reader.next with
    | .ok row => pure (some (.ok row), true)
    | .error error =>
      if error.isEndOfData then pure (none, false) else pure (some (.error error), true)

/-- Uses what is left of the rows one by one, at most `limit` of them, and collects the results,
last one first. -/
def collect (reader : Reader) (use : Except Error HeldRow → Client σ α) :
    Nat → List α → Client σ (List α)
  | 0, results => pure results
  | limit + 1, results => do
    match ← reader.step with
    | (none, _) => pure results
    | (some item, goesOn) =>
      let result ← use item
      if goesOn then reader.collect use limit (result :: results) else pure (result :: results)

/-- A count of rows that no table reaches. -/
def everyRow : Nat := 4611686018427387904

/-- The results of using the rows one by one, at most `limit` of them. -/
def forRows (reader : Reader) (limit : Nat) (use : Except Error HeldRow → Client σ α) :
    Client σ (List α) := do
  let results ← reader.collect use limit []
  pure results.reverse

end Reader

end ColumnStore
