import ColumnStore.Client.Connection
import ColumnStore.Schema.Basic

/-!
# Reading schemas

A schema is read column by column from the object that the managed side finds through a file. All
objects that this takes are given up again, also if it fails in the middle.
-/

set_option autoImplicit false

namespace ColumnStore

namespace SchemaReader

variable {σ : Type}

/-- Asks an object for a text, which must not be null. -/
def text (handle : Handle) (operation : Operation) : Client σ String := do
  let name := operation.method.name
  let returned ← Client.call handle operation []
  match ← Client.expect name .other (returned.bind (Returned.toText operation.method)) with
  | some content => pure content
  | none => Client.refuse (.schema (name ++ " returned null"))

/-- Asks an object for another object. -/
def object (handle : Handle) (operation : Operation) : Client σ Handle := do
  let returned ← Client.call handle operation []
  Client.expect operation.method.name .other (returned.bind (Returned.toObject operation.method))

/-- Asks a type for its name and reads it. -/
def typeOf (handle : Handle) : Client σ DataType := do
  match DataType.read (← text handle .typeName) with
  | .ok type => pure type
  | .error error => Client.refuse error

/-- Reads a column. -/
def field (handle : Handle) : Client σ Field := do
  let name ← text handle .fieldName
  let type ← object handle .fieldType
  Client.holding type do
    let columnType ← typeOf type
    if columnType ≠ .array then pure (.scalar name columnType)
    else
      let element ← object type .elementType
      Client.holding element do
        pure (.array name (← typeOf element))

/-- Reads the columns of the schema that an operation finds through a path. -/
def read (operation : Operation) (path : String) : Client σ Schema := do
  let activity := operation.method.name ++ "(" ++ path ++ ")"
  let returned ← Client.callStatic operation [.text path]
  let handle ← Client.expect activity .other
    (returned.bind (Returned.toObject operation.method))
  Client.holding handle do
    let returned ← Client.call handle .schemaFields []
    let handles ← Client.expect activity .other
      (returned.bind (Returned.toObjects Operation.schemaFields.method))
    Client.holdingAll handles do
      match ← Client.attempt (handles.mapM field) with
      | .error error => Client.refuse (.context activity error)
      | .ok fields =>
        Client.report ⟨.debug, "schema read",
          [("path", path), ("columns", toString fields.length)]⟩
        pure ⟨fields⟩

/-- The schema in an index file. -/
def inIndexFile (path : String) : Client σ Schema := read .schemaOfIndexFile path

/-- The schema in a data file, or in the first data file of a folder. -/
def inDataFile (path : String) : Client σ Schema := read .schemaOfDataFile path

/-- The schema in the schema file of a folder. -/
def inSchemaFile (path : String) : Client σ Schema := read .schemaOfSchemaFile path

/-- The writer and the version recorded in a data file. -/
def versionDetails (path : String) : Client σ String := do
  let operation := Operation.versionDetails
  let returned ← Client.callStatic operation [.text path]
  let details ← Client.expect (operation.method.name ++ "(" ++ path ++ ")") .other
    (returned.bind (Returned.toText operation.method))
  match details with
  | some text => pure text
  | none => Client.refuse (.schema ("no version details in '" ++ path ++ "'"))

end SchemaReader

end ColumnStore
