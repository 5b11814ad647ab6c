import ColumnStore.Memory.Exception
import ColumnStore.Memory.State

/-!
# Readers of the in-process backend

Building a reader takes a snapshot of the table: later commits do not reach it. Reading hands out
the rows of the snapshot in order, one by one or several at a time.
-/

set_option autoImplicit false

namespace ColumnStore

namespace Memory

/-- The table that a builder asks for when it is not told. -/
def defaultTable : String := "_temp"

/-- The beginnings of paths in object stores. -/
def remoteSchemes : List String := ["s3a://", "s3://", "obs://"]

/-- Does a path lead into an object store? -/
def isRemote (path : String) : Bool :=
  remoteSchemes.any fun scheme ↦ Text.beginsWith scheme path

/-- Do options hold an access key? -/
def holdsAccessKey (options : Options) : Bool :=
  options.entries.any fun entry ↦ Text.finishesWith "access.key" entry.1

/-- Makes a reader builder over a path. -/
def newReaderBuilder (arguments : List Argument) (memory : Memory) : Reply Memory Returned :=
  match Argument.textAt arguments 0 "builder" with
  | .error error => .failed memory error
  | .ok path => memory.returnNew (.readerBuilder ⟨path, defaultTable, none, .empty, none⟩)

/-- Makes a reader builder over a path and a table name. -/
def newNamedReaderBuilder (arguments : List Argument) (memory : Memory) :
    Reply Memory Returned :=
  match Argument.textAt arguments 0 "builder", Argument.textAt arguments 1 "builder" with
  | .error error, _ => .failed memory error
  | _, .error error => .failed memory error
  | .ok path, .ok table => memory.returnNew (.readerBuilder ⟨path, table, none, .empty, none⟩)

/-- Changes a reader builder and returns it. -/
def changeReader (handle : Handle) (method : String) (change : ReaderPlan → ReaderPlan)
    (memory : Memory) : Reply Memory Returned :=
  match memory.readerBuilder handle method with
  | .error error => .failed memory error
  | .ok plan =>
    .returned (memory.put handle (.readerBuilder (change plan))) (.object (some handle))

/-- Settles the columns that are read. -/
def setProjection (handle : Handle) (arguments : List Argument) (memory : Memory) :
    Reply Memory Returned :=
  match Argument.textsAt arguments 0 "projection" with
  | .error error => .failed memory error
  | .ok columns =>
    changeReader handle "projection" (fun plan ↦ { plan with columns := some columns }) memory

/-- Sets an option of a reader. -/
def setReaderOption (handle : Handle) (arguments : List Argument) (memory : Memory) :
    Reply Memory Returned :=
  match Argument.textAt arguments 0 "withHadoopConf",
    Argument.textAt arguments 1 "withHadoopConf" with
  | .error error, _ => .failed memory error
  | _, .error error => .failed memory error
  | .ok key, .ok value =>
    changeReader handle "withHadoopConf"
      (fun plan ↦ { plan with options := plan.options.set key value }) memory

/-- The entries of the configuration that an argument names. -/
def configurationArgument (arguments : List Argument) (memory : Memory) :
    Except CallError (Dictionary String) := do
  match ← memory.get (← Argument.objectAt arguments 0 "withHadoopConf") with
  | .configuration entries => .ok entries
  | other => .error (.classCast other.className "org.apache.hadoop.conf.Configuration")

/-- Sets every entry of a configuration as an option of a reader. -/
def setReaderConfiguration (handle : Handle) (arguments : List Argument) (memory : Memory) :
    Reply Memory Returned :=
  match configurationArgument arguments memory with
  | .error error => .failed memory error
  | .ok entries =>
    changeReader handle "withHadoopConf"
      (fun plan ↦ { plan with options := plan.options.setAll entries }) memory

/-- Settles how many rows are fetched at a time. -/
def setBatch (handle : Handle) (arguments : List Argument) (memory : Memory) :
    Reply Memory Returned :=
  match Argument.intAt arguments 0 "withBatch" with
  | .error error => .failed memory error
  | .ok size =>
    if size ≤ 0 then
      .failed memory (.illegalArgument
        ("batch size should be positive, got " ++ toString size.toInt))
    else changeReader handle "withBatch" (fun plan ↦ { plan with batch := some size }) memory

/-- The cells of a row at the given positions, if it has them all. -/
def project (positions : List Nat) (row : Row) : Option Row :=
  positions.mapM fun position ↦ row[position]?

/-- The positions of named columns. -/
def positionsOf (schema : Schema) (columns : List String) : List Nat :=
  columns.filterMap schema.indexOf?

/-- Keeps a reader over rows. -/
def openReader (plan : ReaderPlan) (schema : Schema) (rows : List Row) (memory : Memory) :
    Reply Memory Returned :=
  let event : Event :=
    ⟨.debug, "memory reader built",
      [("path", plan.path), ("table", plan.table), ("rows", toString rows.length),
        ("batch", Event.optional (plan.batch.map fun size ↦ toString size.toInt))]⟩
  (memory.returnNew (.reader ⟨schema, rows, false⟩)).reporting event

/-- Keeps a reader over the chosen columns of rows. A row without one of them breaks the call off.
-/
def openProjected (plan : ReaderPlan) (columns : List String) (schema : Schema) (rows : List Row)
    (memory : Memory) : Reply Memory Returned :=
  match schema.project columns with
  | .error (.schema reason) => .failed memory (.illegalArgument ("Projection " ++ reason))
  | .error error => .failed memory (.illegalArgument error.message)
  | .ok projected =>
    match rows.mapM (project (positionsOf schema columns)) with
    | none => ⟨.crashed, memory, []⟩
    | some rows => openReader plan projected rows memory

/-- Builds a reader. The options are handed to the storage layer first, whatever comes of it. -/
def buildReader (handle : Handle) (memory : Memory) : Reply Memory Returned :=
  match memory.readerBuilder handle "build" with
  | .error error => .failed memory error
  | .ok plan =>
    let memory := { memory with store := memory.store.receive plan.path plan.options.entries }
    if isRemote plan.path && !holdsAccessKey plan.options then
      .failed memory (.accessDenied
        (plan.path ++ ": no credentials, set fs.s3a.access.key and fs.s3a.secret.key"))
    else
      match memory.store.table? plan.path with
      | none => .failed memory (.fileNotFound (plan.path ++ " (no carbondata files found)"))
      | some (schema, rows) =>
        match plan.columns with
        | none => openReader plan schema rows memory
        | some columns => openProjected plan columns schema rows memory

/-- The reader of a handle, unless it is closed. -/
def openReaderOf (memory : Memory) (handle : Handle) (method : String) :
    Except CallError ReaderState := do
  let reader ← memory.reader handle method
  if reader.closed then .error (.illegalState "CarbonReader is closed") else .ok reader

/-- Tells whether a row is left. -/
def hasNextRow (handle : Handle) (memory : Memory) : Reply Memory Returned :=
  .ofExcept memory ((memory.openReaderOf handle "hasNext").map fun reader ↦
    .boolean !reader.remaining.isEmpty)

/-- Hands out the next row. -/
def readRow (handle : Handle) (memory : Memory) : Reply Memory Returned :=
  match memory.openReaderOf handle "readNextCarbonRow" with
  | .error error => .failed memory error
  | .ok reader =>
    match reader.remaining with
    | [] => .failed memory .noMoreRows
    | row :: rest =>
      (memory.put handle (.reader { reader with remaining := rest })).returnNew
        (.row ⟨reader.schema, row⟩)

/-- Hands out the next rows, as many as asked for and left. -/
def readRows (handle : Handle) (arguments : List Argument) (memory : Memory) :
    Reply Memory Returned :=
  match Argument.intAt arguments 0 "readNextBatchRow" with
  | .error error => .failed memory error
  | .ok size =>
    if size ≤ 0 then
      .failed memory (.illegalArgument
        ("batch size should be positive, got " ++ toString size.toInt))
    else
      match memory.openReaderOf handle "readNextBatchRow" with
      | .error error => .failed memory error
      | .ok reader =>
        if reader.remaining.isEmpty then .failed memory .noMoreRows
        else
          let count := size.toInt.toNat
          let rows := reader.remaining.take count
          (memory.put handle
              (.reader { reader with remaining := reader.remaining.drop count })).returnAll
            (rows.map fun row ↦ .row ⟨reader.schema, row⟩)

/-- Closes a reader, which loses the rows it has left. -/
def closeReader (handle : Handle) (memory : Memory) : Reply Memory Returned :=
  match memory.reader handle "close" with
  | .error error => .failed memory error
  | .ok reader =>
    .returned (memory.put handle (.reader { reader with remaining := [], closed := true })) .nothing

end Memory

end ColumnStore
