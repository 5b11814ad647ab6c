import ColumnStore.Memory.Exception
import ColumnStore.Memory.State

/-!
# Schemas and configurations of the in-process backend

Schemas are found through the files of a table and are handed out as objects: a schema, its
columns, their types. Configurations are objects that hold entries in key order.
-/

set_option autoImplicit false

namespace ColumnStore

namespace Memory

/-- The index file of a path. -/
def indexFile (memory : Memory) (path : String) : Except CallError StoredFile :=
  if !Text.finishesWith ".carbonindex" path then
    .error (.illegalArgument (path ++ " is not a carbonindex file"))
  else
    match memory.store.file? path with
    | some file => .ok file
    | none => .error (.fileNotFound path)

/-- The data file of a path; a folder stands for its first data file. -/
def dataFile (memory : Memory) (path : String) : Except CallError StoredFile :=
  let found := if Text.finishesWith ".carbondata" path then memory.store.file? path
    else memory.store.firstDataFile? path
  match found with
  | some file => .ok file
  | none => .error (.fileNotFound (path ++ " (no carbondata file)"))

/-- What the path of a schema file adds to its folder. -/
def schemaFileTail : String := "/Metadata/schema"

/-- The first data file of the folder of a schema file. -/
def schemaFile (memory : Memory) (path : String) : Except CallError StoredFile :=
  let folder := String.ofList (path.toList.take (path.length - schemaFileTail.length))
  if !Text.finishesWith schemaFileTail path then .error (.fileNotFound path)
  else
    match memory.store.firstDataFile? folder with
    | some file => .ok file
    | none => .error (.fileNotFound path)

/-- Keeps the schema of a file found through a path. -/
def schemaOf (find : Memory → String → Except CallError StoredFile) (method : String)
    (arguments : List Argument) (memory : Memory) : Reply Memory Returned :=
  match Argument.textAt arguments 0 method with
  | .error error => .failed memory error
  | .ok path =>
    match find memory path with
    | .error error => .failed memory error
    | .ok file => memory.returnNew (.schema file.schema)

/-- The writer and the version recorded in a data file. -/
def versionDetails (arguments : List Argument) (memory : Memory) : Except CallError Returned := do
  let file ← memory.dataFile (← Argument.textAt arguments 0 "getVersionDetails")
  .ok (.text (some (file.writtenBy ++ " in version: " ++ file.version)))

/-- Keeps the columns of a schema. -/
def schemaFields (handle : Handle) (memory : Memory) : Reply Memory Returned :=
  match memory.schema handle "getFields" with
  | .error error => .failed memory error
  | .ok schema => memory.returnAll (schema.fields.map .field)

/-- The name of a column. -/
def fieldName (handle : Handle) (memory : Memory) : Except CallError Returned :=
  (memory.field handle "getFieldName").map fun field ↦ .text (some field.name)

/-- Keeps the type of a column. -/
def fieldType (handle : Handle) (memory : Memory) : Reply Memory Returned :=
  match memory.field handle "getDataType" with
  | .error error => .failed memory error
  | .ok field => memory.returnNew (.type field.type field.element)

/-- The name of a type. -/
def typeName (handle : Handle) (memory : Memory) : Except CallError Returned :=
  (memory.type handle "getName").map fun type ↦ .text (some type.1.name)

/-- Keeps the type of the items of an array type. -/
def elementType (handle : Handle) (memory : Memory) : Reply Memory Returned :=
  match memory.type handle "getElementType" with
  | .error error => .failed memory error
  | .ok (type, element) =>
    if type = .array then memory.returnNew (.type (element.getD .string) none)
    else .failed memory (.classCast type.name "ArrayType")

/-- Makes a configuration without entries. -/
def newConfiguration (memory : Memory) : Reply Memory Returned :=
  memory.returnNew (.configuration [])

/-- Sets an entry of a configuration. -/
def setEntry (handle : Handle) (arguments : List Argument) (memory : Memory) :
    Reply Memory Returned :=
  match Argument.textAt arguments 0 "set", Argument.textAt arguments 1 "set" with
  | .error error, _ => .failed memory error
  | _, .error error => .failed memory error
  | .ok key, .ok value =>
    match memory.configuration handle "set" with
    | .error error => .failed memory error
    | .ok entries =>
      .returned (memory.put handle (.configuration (entries.insert key value))) .nothing

/-- The value of an entry of a configuration. -/
def getEntry (handle : Handle) (arguments : List Argument) (memory : Memory) :
    Except CallError Returned := do
  let key ← Argument.textAt arguments 0 "get"
  let entries ← memory.configuration handle "get"
  .ok (.text (Dictionary.get? key entries))

end Memory

end ColumnStore
