import ColumnStore.Options
import ColumnStore.Schema.Basic
import ColumnStore.Value.Basic

/-!
# Managed objects

The objects that the in-process backend keeps behind handles.
-/

set_option autoImplicit false

namespace ColumnStore

/-- What a reader will be built from. -/
structure ReaderPlan where
  path : String
  table : String
  columns : Option (List String)
  options : Options
  batch : Option Int32

/-- A reader: the rows it has not handed out yet, in order. -/
structure ReaderState where
  schema : Schema
  remaining : List Row
  closed : Bool

/-- A row that was handed out. -/
structure RowState where
  schema : Schema
  values : Row

/-- What a writer will be built from. -/
structure WriterPlan where
  path : Option String
  schema : Option Schema
  options : Options
  writtenBy : Option String
  sortColumns : List String
  blockSize : Option Int32
  blockletSize : Option Int32
  uniqueIdentifier : Option Int64

/-- A plan in which nothing is settled. -/
def WriterPlan.empty : WriterPlan := ⟨none, none, .empty, none, [], none, none, none⟩

/-- A writer: the records it has taken since it was built, newest first. -/
structure WriterState where
  path : String
  schema : Schema
  newestFirst : List Row
  writtenBy : String
  sortPositions : List Nat
  closed : Bool

/-- A managed object. -/
inductive ManagedObject where
  | readerBuilder (plan : ReaderPlan)
  | reader (state : ReaderState)
  | row (state : RowState)
  | writerBuilder (plan : WriterPlan)
  | writer (state : WriterState)
  | schema (schema : Schema)
  | field (field : Field)
  /-- A type, with the type of the items if it is an array type. -/
  | type (type : DataType) (element : Option DataType)
  | configuration (entries : Dictionary String)

/-- The managed name of the class of an object. -/
def ManagedObject.className : ManagedObject → String
  | readerBuilder _ => "CarbonReaderBuilder"
  | reader _ => "CarbonReader"
  | row _ => "Row"
  | writerBuilder _ => "CarbonWriterBuilder"
  | writer _ => "CarbonWriter"
  | schema _ => "Schema"
  | field _ => "Field"
  | type _ _ => "DataType"
  | configuration _ => "Configuration"

end ColumnStore
