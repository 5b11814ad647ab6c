import ColumnStore.Client.SchemaReader
import ColumnStore.Console.Workbench
import ColumnStore.Managed.Fault
import ColumnStore.Memory.Backend

/-!
# Commands

A `Command` is one step of work with a table store, as data: it makes, uses, asks or gives up
objects of a workbench, or looks into the store. `Command.task` says what is done for it.
-/

set_option autoImplicit false

namespace ColumnStore

/-- The kinds of objects. -/
inductive ObjectKind where
  | readerBuilder
  | reader
  | row
  | accessor
  | writerBuilder
  | writer
  | configuration
  deriving DecidableEq, Repr

/-- A step of building a reader. -/
inductive ReaderStep where
  | projection (columns : List String)
  | option (key value : String)
  | options (options : Options)
  | optionPairs (texts : List String)
  | batchSize (size : Nat)

/-- A step of building a writer. -/
inductive WriterStep where
  | outputPath (path : String)
  | schemaText (text : String)
  | schema (schema : Schema)
  | option (key value : String)
  | options (options : Options)
  | writtenBy (name : String)
  | sortBy (columns : List String)
  | blockSize (size : Nat)
  | blockletSize (size : Nat)
  | uniqueIdentifier (identifier : Int64)

/-- Where a schema is read. -/
inductive SchemaSource where
  | indexFile
  | dataFile
  | schemaFile
  deriving DecidableEq, Repr

/-- One step of work. -/
inductive Command where
  | store (command : StoreCommand)
  | readerBuilder (name path : String) (table : Option String)
  | builderPath (name : String)
  | readerStep (name : String) (step : ReaderStep)
  | readerConfiguration (settings name : String)
  | buildReader (name : String)
  | buildRemoteReader (name access secret endpoint : String)
  | hasNext (name : String)
  | next (name row : String)
  /-- Fetches rows and keeps them under the name for rows, with a number behind it. -/
  | nextBatch (name : String) (size : Nat) (target : String)
  /-- Reads the values of what is left of the rows, at most as many as the limit says. -/
  | rows (name : String) (limit : Option Nat)
  | closeReader (name : String)
  | describeReader (name : String)
  | newAccessor (name : String)
  | accessor (name row : String)
  | bind (name row : String)
  | ask (name : String) (question : Question) (ordinal : Nat)
  | askAll (name : String) (questions : List Question) (ordinal : Nat)
  | writerBuilder (name : String)
  | writerStep (name : String) (step : WriterStep)
  | buildWriter (name : String)
  | write (name : String) (record : List String)
  | writeValues (name : String) (values : Row)
  | closeWriter (name : String)
  | describeWriter (name : String)
  | configuration (name : String)
  | configurationOf (name : String) (entries : Options)
  | setEntry (name key value : String)
  | getEntry (name key : String)
  | schema (source : SchemaSource) (location : Location)
  | versionDetails (location : Location)
  | drop (kind : ObjectKind) (name : String)

variable {σ : Type}

/-- Takes a step with a reader builder. -/
def ReaderStep.take (builder : ReaderBuilder) : ReaderStep → Client σ ReaderBuilder
  | .projection columns => builder.projection columns
  | .option key value => builder.option key value
  | .options entries => builder.options entries
  | .optionPairs texts => builder.optionPairs texts
  | .batchSize size => builder.batchSize size

/-- Takes a step with a writer builder. -/
def WriterStep.take (builder : WriterBuilder) : WriterStep → Client σ WriterBuilder
  | .outputPath path => builder.outputPath path
  | .schemaText text => builder.schemaText text
  | .schema fields => builder.schemaOf fields
  | .option key value => builder.option key value
  | .options entries => builder.options entries
  | .writtenBy name => builder.writtenBy name
  | .sortBy columns => builder.sortBy columns
  | .blockSize size => builder.blockSize size
  | .blockletSize size => builder.blockletSize size
  | .uniqueIdentifier identifier => builder.uniqueIdentifier identifier

/-- Reads the schema at a path. -/
def SchemaSource.read (path : String) : SchemaSource → Client σ Schema
  | .indexFile => SchemaReader.inIndexFile path
  | .dataFile => SchemaReader.inDataFile path
  | .schemaFile => SchemaReader.inSchemaFile path

/-- Gives up an object of a kind. -/
def ObjectKind.drop (name : String) : ObjectKind → Task σ
  | .readerBuilder => .drop .readerBuilders name
  | .reader => .drop .readers name
  | .row => .drop .rows name
  | .accessor => .drop .accessors name
  | .writerBuilder => .drop .writerBuilders name
  | .writer => .drop .writers name
  | .configuration => .drop .configurations name

/-- Keeps rows under a name with ascending numbers behind it. -/
def putRows (name : String) (number : Nat) (bench : Workbench) :
    List HeldRow → Client σ Workbench
  | [] => pure bench
  | row :: rest => do
    let bench ← Shelf.rows.put (name ++ toString number) row bench
    putRows name (number + 1) bench rest

/-- Fetches rows and keeps them. -/
def fetchRows (name : String) (size : Nat) (rows : String) : Task σ :=
  .onObject .readers name fun reader ↦
    .after (reader.nextBatch size) fun fetched bench ↦ do
      let bench ← putRows rows 0 bench fetched
      pure (.ok (.count fetched.length), bench)

/-- The values of a row that was read, which is given up afterwards. -/
def valuesOf : Except Error HeldRow → Client σ (Except Error Row)
  | .error error => pure (.error error)
  | .ok row => do
    let values ← Client.cleaning row.drop (Client.attempt row.accessor.values)
    row.drop
    pure values

/-- A task with the path of a location. -/
def atLocation (location : Location) (task : String → Task (Faulty Memory)) :
    Task (Faulty Memory) := fun bench ↦ do
  let connection ← get
  match connection.state.inner.store.locate location with
  | some path => task path bench
  | none => Task.lacking bench

/-- Does something with the store of a connection. -/
def StoreCommand.perform (command : StoreCommand) : Client (Faulty Memory) StoreAnswer :=
  modifyGet fun connection ↦
    let memory := connection.state.inner
    let (answer, store) := command.run memory.store
    (answer,
      { connection with
        state := { connection.state with inner := { memory with store := store } } })

/-- What is done for a command. -/
def Command.task : Command → Task (Faulty Memory)
  | .store command => .answering (Answer.store <$> command.perform)
  | .readerBuilder name path table => .make .readerBuilders name (ReaderBuilder.forPath path table)
  | .builderPath name =>
    .ask .readerBuilders name fun builder ↦ pure (.text (some builder.path))
  | .readerStep name step => .turn .readerBuilders .readerBuilders name fun builder ↦
    step.take builder
  | .readerConfiguration settings name =>
    .onObject .configurations settings fun settings ↦
      .turn .readerBuilders .readerBuilders name fun builder ↦ builder.configuration settings
  | .buildReader name => .turn .readerBuilders .readers name ReaderBuilder.build
  | .buildRemoteReader name access secret endpoint =>
    .turn .readerBuilders .readers name fun builder ↦ builder.buildRemote access secret endpoint
  | .hasNext name => .ask .readers name fun reader ↦ Answer.truth <$> reader.hasNext
  | .next name row => .onObject .readers name fun reader ↦ .make .rows row reader.next
  | .nextBatch name size target => fetchRows name size target
  | .rows name limit =>
    .ask .readers name fun reader ↦
      Answer.rows <$> reader.forRows (limit.getD Reader.everyRow) valuesOf
  | .closeReader name => .alter .readers name Reader.close
  | .describeReader name => .ask .readers name fun reader ↦ pure (.reader reader)
  | .newAccessor name => .make .accessors name (pure .unbound)
  | .accessor name row => .onObject .rows row fun row ↦ .make .accessors name (pure row.accessor)
  | .bind name row =>
    .onObject .rows row fun row ↦ .alter .accessors name fun _ ↦ pure row.accessor
  | .ask name question ordinal =>
    .ask .accessors name fun view ↦ Answer.row <$> question.ask view ordinal
  | .askAll name questions ordinal =>
    .ask .accessors name fun view ↦
      Answer.rowAnswers <$>
        questions.mapM fun question ↦ Client.attempt (question.ask view ordinal)
  | .writerBuilder name => .make .writerBuilders name WriterBuilder.create
  | .writerStep name step => .turn .writerBuilders .writerBuilders name fun builder ↦
    step.take builder
  | .buildWriter name => .turn .writerBuilders .writers name WriterBuilder.build
  | .write name record => .alter .writers name fun writer ↦ writer.write record
  | .writeValues name values => .alter .writers name fun writer ↦ writer.writeValues values
  | .closeWriter name => .alter .writers name Writer.close
  | .describeWriter name => .ask .writers name fun writer ↦ pure (.writer writer)
  | .configuration name => .make .configurations name Configuration.create
  | .configurationOf name entries =>
    .make .configurations name (Configuration.ofOptions entries)
  | .setEntry name key value =>
    .ask .configurations name fun settings ↦ (fun _ ↦ .nothing) <$> settings.set key value
  | .getEntry name key =>
    .ask .configurations name fun settings ↦ Answer.text <$> settings.get key
  | .schema source location =>
    atLocation location fun path ↦ .answering (Answer.schema <$> source.read path)
  | .versionDetails location =>
    atLocation location fun path ↦
      .answering ((fun details ↦ .text (some details)) <$> SchemaReader.versionDetails path)
  | .drop kind name => kind.drop name

end ColumnStore
