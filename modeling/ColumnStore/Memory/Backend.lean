import ColumnStore.Memory.Describing
import ColumnStore.Memory.Reading
import ColumnStore.Memory.Rows
import ColumnStore.Memory.Writing

/-!
# The in-process backend

`Memory.perform` answers an operation of the managed library, and `Memory.invoke` a call of any
method: a method is answered if the library has it and it is invoked in its own way, and then the
call is counted, whatever comes of it. After the shutdown nothing is answered any more.
-/

set_option autoImplicit false

namespace ColumnStore

namespace Memory

/-- Answers an operation on the object `handle`, which operations on a class do not look at. -/
def perform (operation : Operation) (handle : Handle) (arguments : List Argument)
    (memory : Memory) : Reply Memory Returned :=
  match operation with
  | .newNamedReaderBuilder => newNamedReaderBuilder arguments memory
  | .newReaderBuilder => newReaderBuilder arguments memory
  | .setProjection => setProjection handle arguments memory
  | .setReaderOption => setReaderOption handle arguments memory
  | .setReaderConfiguration => setReaderConfiguration handle arguments memory
  | .setBatch => setBatch handle arguments memory
  | .buildReader => buildReader handle memory
  | .hasNextRow => hasNextRow handle memory
  | .readRow => readRow handle memory
  | .readRows => readRows handle arguments memory
  | .closeReader => closeReader handle memory
  | .rowLength => .ofExcept memory (rowLength handle memory)
  | .columnTypeName => .ofExcept memory (columnTypeName handle arguments memory)
  | .elementTypeName => .ofExcept memory (elementTypeName handle arguments memory)
  | .getShort =>
    .ofExcept memory (getWith "getShort" "java.lang.Short" takeShort handle arguments memory)
  | .getInt =>
    .ofExcept memory (getWith "getInt" "java.lang.Integer" takeInt handle arguments memory)
  | .getLong =>
    .ofExcept memory (getWith "getLong" "java.lang.Long" takeLong handle arguments memory)
  | .getDouble =>
    .ofExcept memory (getWith "getDouble" "java.lang.Double" takeDouble handle arguments memory)
  | .getFloat =>
    .ofExcept memory (getWith "getFloat" "java.lang.Float" takeFloat handle arguments memory)
  | .getBoolean =>
    .ofExcept memory (getWith "getBoolean" "java.lang.Boolean" takeBoolean handle arguments memory)
  | .getString | .getVarchar =>
    .ofExcept memory (getWith "getString" "java.lang.String" takeText handle arguments memory)
  | .getDecimal =>
    .ofExcept memory
      (getWith "getDecimal" "java.math.BigDecimal" takeDecimal handle arguments memory)
  | .getArray =>
    .ofExcept memory (getWith "getArray" "[Ljava.lang.Object;" takeArray handle arguments memory)
  | .newWriterBuilder => newWriterBuilder memory
  | .setOutputPath => setOutputPath handle arguments memory
  | .setCsvSchema => setCsvSchema handle arguments memory
  | .setWriterOption => setWriterOption handle arguments memory
  | .setWrittenBy => setWrittenBy handle arguments memory
  | .setSortColumns => setSortColumns handle arguments memory
  | .setBlockSize => setBlockSize handle arguments memory
  | .setBlockletSize => setBlockletSize handle arguments memory
  | .setUniqueIdentifier => setUniqueIdentifier handle arguments memory
  | .buildWriter => buildWriter handle memory
  | .writeRecord => writeRecord handle arguments memory
  | .closeWriter => closeWriter handle memory
  | .schemaOfIndexFile => schemaOf indexFile "readSchemaInIndexFile" arguments memory
  | .schemaOfDataFile => schemaOf dataFile "readSchemaInDataFile" arguments memory
  | .schemaOfSchemaFile => schemaOf schemaFile "readSchemaInSchemaFile" arguments memory
  | .versionDetails => .ofExcept memory (versionDetails arguments memory)
  | .schemaFields => schemaFields handle memory
  | .fieldName => .ofExcept memory (fieldName handle memory)
  | .fieldType => fieldType handle memory
  | .typeName => .ofExcept memory (typeName handle memory)
  | .elementType => elementType handle memory
  | .newConfiguration => newConfiguration memory
  | .setEntry => setEntry handle arguments memory
  | .getEntry => .ofExcept memory (getEntry handle arguments memory)

/-- Answers a call of a method, invoked in the given way. -/
def invoke (kind : MethodKind) (target : Option Handle) (method : Method)
    (arguments : List Argument) (memory : Memory) : Reply Memory Returned :=
  if memory.isShutDown then .failed memory .shutDown
  else if method.kind ≠ kind then
    .failed memory (.badArguments method.name
      (method.kind.name ++ " method invoked as " ++ kind.name))
  else
    match Operation.ofMethod? method with
    | none => .failed memory method.missing
    | some operation =>
      let memory := { memory with store := memory.store.countCall method }
      let event : Event :=
        ⟨.debug, "memory call",
          [("class", method.className), ("method", method.name),
            ("target", Event.optional (target.map fun handle ↦ toString handle))]⟩
      (memory.perform operation (target.getD 0) arguments).reporting event

/-- Gives up an object. -/
def release (handle : Handle) (memory : Memory) : Reply Memory Unit :=
  if memory.isShutDown then .failed memory .shutDown
  else if (memory.object? handle).isSome then .returned (memory.vacate handle) ()
  else .failed memory (.invalidHandle handle)

/-- Gives up all objects and stops answering. -/
def shutdown (memory : Memory) : Reply Memory Unit :=
  if memory.isShutDown then .failed memory .shutDown
  else
    let event : Event :=
      ⟨.info, "memory runtime shut down", [("leaked", toString memory.liveObjects)]⟩
    (Reply.returned
      { memory with slots := memory.slots.map fun _ ↦ none, isShutDown := true } ()).reporting event

/-- The report of a new backend. -/
def started : Event := ⟨.info, "memory runtime started", []⟩

/-- The in-process backend. -/
def backend : Backend Memory where
  name := "memory"
  construct method arguments memory :=
    (memory.invoke .constructor none method arguments).andThen (Returned.toObject method)
  callStatic method arguments memory := memory.invoke .onClass none method arguments
  call handle method arguments memory := memory.invoke .onObject (some handle) method arguments
  release := release
  liveObjects := liveObjects
  shutdown := shutdown

end Memory

end ColumnStore
