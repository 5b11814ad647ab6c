import ColumnStore.Memory.Exception
import ColumnStore.Memory.State
import ColumnStore.Schema.Text
import ColumnStore.Value.Order

/-!
# Writers of the in-process backend

A writer keeps the records it takes and commits them to its folder, sorted, when it is closed for
the first time. A writer without records commits nothing.
-/

set_option autoImplicit false

namespace ColumnStore

namespace Memory

/-- Makes a writer builder. -/
def newWriterBuilder (memory : Memory) : Reply Memory Returned :=
  memory.returnNew (.writerBuilder .empty)

/-- Changes a writer builder and returns it. -/
def changeWriter (handle : Handle) (method : String) (change : WriterPlan → WriterPlan)
    (memory : Memory) : Reply Memory Returned :=
  match memory.writerBuilder handle method with
  | .error error => .failed memory error
  | .ok plan =>
    .returned (memory.put handle (.writerBuilder (change plan))) (.object (some handle))

/-- Settles the folder that is written to. -/
def setOutputPath (handle : Handle) (arguments : List Argument) (memory : Memory) :
    Reply Memory Returned :=
  match Argument.textAt arguments 0 "outputPath" with
  | .error error => .failed memory error
  | .ok path => changeWriter handle "outputPath" (fun plan ↦ { plan with path := some path }) memory

/-- Settles the schema of the records. -/
def setCsvSchema (handle : Handle) (arguments : List Argument) (memory : Memory) :
    Reply Memory Returned :=
  match Argument.textAt arguments 0 "withCsvInput" with
  | .error error => .failed memory error
  | .ok text =>
    match Schema.read text with
    | .error error => .failed memory (.illegalArgument error.message)
    | .ok schema =>
      changeWriter handle "withCsvInput" (fun plan ↦ { plan with schema := some schema }) memory

/-- Sets an option of a writer. -/
def setWriterOption (handle : Handle) (arguments : List Argument) (memory : Memory) :
    Reply Memory Returned :=
  match Argument.textAt arguments 0 "withHadoopConf",
    Argument.textAt arguments 1 "withHadoopConf" with
  | .error error, _ => .failed memory error
  | _, .error error => .failed memory error
  | .ok key, .ok value =>
    changeWriter handle "withHadoopConf"
      (fun plan ↦ { plan with options := plan.options.set key value }) memory

/-- Settles the name of the application that writes. -/
def setWrittenBy (handle : Handle) (arguments : List Argument) (memory : Memory) :
    Reply Memory Returned :=
  match Argument.textAt arguments 0 "writtenBy" with
  | .error error => .failed memory error
  | .ok name =>
    changeWriter handle "writtenBy" (fun plan ↦ { plan with writtenBy := some name }) memory

/-- Settles the columns that rows are sorted by. -/
def setSortColumns (handle : Handle) (arguments : List Argument) (memory : Memory) :
    Reply Memory Returned :=
  match Argument.textsAt arguments 0 "sortBy" with
  | .error error => .failed memory error
  | .ok columns =>
    changeWriter handle "sortBy" (fun plan ↦ { plan with sortColumns := columns }) memory

/-- Settles the size of a block. -/
def setBlockSize (handle : Handle) (arguments : List Argument) (memory : Memory) :
    Reply Memory Returned :=
  match Argument.intAt arguments 0 "withBlockSize" with
  | .error error => .failed memory error
  | .ok size =>
    if size < 1 ∨ 2048 < size then
      .failed memory (.illegalArgument "Block size should be between 1 MB to 2048 MB")
    else
      changeWriter handle "withBlockSize" (fun plan ↦ { plan with blockSize := some size }) memory

/-- Settles the size of a blocklet. -/
def setBlockletSize (handle : Handle) (arguments : List Argument) (memory : Memory) :
    Reply Memory Returned :=
  match Argument.intAt arguments 0 "withBlockletSize" with
  | .error error => .failed memory error
  | .ok size =>
    if size ≤ 0 then
      .failed memory (.illegalArgument "blocklet size should be greater than zero")
    else
      changeWriter handle "withBlockletSize" (fun plan ↦ { plan with blockletSize := some size })
        memory

/-- Settles the number that marks the files. -/
def setUniqueIdentifier (handle : Handle) (arguments : List Argument) (memory : Memory) :
    Reply Memory Returned :=
  match Argument.longAt arguments 0 "uniqueIdentifier" with
  | .error error => .failed memory error
  | .ok identifier =>
    changeWriter handle "uniqueIdentifier"
      (fun plan ↦ { plan with uniqueIdentifier := some identifier }) memory

/-- The position of a sort column. -/
def sortPosition (schema : Schema) (column : String) : Except CallError Nat :=
  match schema.indexOf? column with
  | some position => .ok position
  | none =>
    .error (.illegalArgument
      ("column: " ++ column ++ " specified in sort columns does not exist"))

/-- The writer that a plan describes, if everything it needs is settled. -/
def planned (plan : WriterPlan) : Except CallError WriterState :=
  match plan.path with
  | none => .error (.illegalArgument "output path should not be null")
  | some path =>
    match plan.schema with
    | none => .error (.illegalArgument "schema should be set, call withCsvInput first")
    | some schema =>
      match plan.writtenBy.filter fun name ↦ !Text.isAllBlank name with
      | none => .error (.illegalArgument "Writer done by must be set, call writtenBy first")
      | some writtenBy =>
        (plan.sortColumns.mapM (sortPosition schema)).map fun positions ↦
          ⟨path, schema, [], writtenBy, positions, false⟩

/-- The report of a new writer. -/
def writerBuilt (plan : WriterPlan) (writer : WriterState) : Event :=
  let size (n : Option Int32) : String := Event.optional (n.map fun n ↦ toString n.toInt)
  ⟨.debug, "memory writer built",
    [("path", writer.path), ("columns", toString writer.schema.length),
      ("block_size_mb", size plan.blockSize), ("blocklet_size_mb", size plan.blockletSize),
      ("unique_id", Event.optional (plan.uniqueIdentifier.map fun n ↦ toString n.toInt))]⟩

/-- Builds a writer, whose options are handed to the storage layer. -/
def buildWriter (handle : Handle) (memory : Memory) : Reply Memory Returned :=
  match memory.writerBuilder handle "build" with
  | .error error => .failed memory error
  | .ok plan =>
    match planned plan with
    | .error error => .failed memory error
    | .ok writer =>
      let memory := { memory with store := memory.store.receive writer.path plan.options.entries }
      (memory.returnNew (.writer writer)).reporting (writerBuilt plan writer)

/-- Reads one cell of a record as a value of its column. -/
def readCell (cell : String) (field : Field) : Except CallError Value :=
  match Value.read cell field.type field.element with
  | .ok value => .ok value
  | .error error =>
    let reason := "column " ++ field.name ++ ": " ++ error.message
    .error (if field.type.isNumeric then .numberFormat reason else .illegalArgument reason)

/-- Reads a record as a row of a schema. -/
def readRecord (schema : Schema) (record : List String) : Except CallError Row :=
  if record.length ≠ schema.length then
    .error (.illegalArgument
      ("record has " ++ toString record.length ++ " fields, schema has "
        ++ toString schema.length))
  else (record.zip schema.fields).mapM fun entry ↦ readCell entry.1 entry.2

/-- Takes a record. -/
def writeRecord (handle : Handle) (arguments : List Argument) (memory : Memory) :
    Reply Memory Returned :=
  match Argument.textsAt arguments 0 "write" with
  | .error error => .failed memory error
  | .ok record =>
    match memory.writer handle "write" with
    | .error error => .failed memory error
    | .ok writer =>
      if writer.closed then .failed memory (.illegalState "CarbonWriter is closed")
      else
        match readRecord writer.schema record with
        | .error error => .failed memory error
        | .ok row =>
          .returned
            (memory.put handle (.writer { writer with newestFirst := row :: writer.newestFirst }))
            .nothing

/-- The rows that a writer commits, in their order. -/
def WriterState.committed (writer : WriterState) : List Row :=
  let rows := writer.newestFirst.reverse
  if writer.sortPositions.isEmpty then rows else Row.sortRows writer.sortPositions rows

/-- Closes a writer, which commits its records if it has any. -/
def closeWriter (handle : Handle) (memory : Memory) : Reply Memory Returned :=
  match memory.writer handle "close" with
  | .error error => .failed memory error
  | .ok writer =>
    if writer.closed then .returned memory .nothing
    else
      let memory := memory.put handle (.writer { writer with newestFirst := [], closed := true })
      if writer.newestFirst.isEmpty then .returned memory .nothing
      else
        let rows := WriterState.committed writer
        let event : Event :=
          ⟨.debug, "memory writer committed",
            [("file", memory.store.nextDataPath writer.path), ("rows", toString rows.length)]⟩
        let store := memory.store.commit writer.path writer.schema rows writer.writtenBy
        (Reply.returned { memory with store := store } .nothing).reporting event

end Memory

end ColumnStore
