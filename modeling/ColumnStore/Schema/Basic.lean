import ColumnStore.DataType
import ColumnStore.Text.Cut

/-!
# Schemas

A `Schema` is the row of columns of a table, each with a name and a type; the type of an array
column comes with the type of its items. Columns are found by name without regard to the case of
ASCII letters, and `Schema.project` picks columns by name, in the order asked for and as often as
asked for.
-/

set_option autoImplicit false

namespace ColumnStore

/-- A column: its name, its type and, for arrays, the type of the items. -/
structure Field where
  name : String
  type : DataType
  element : Option DataType
  deriving DecidableEq, Repr

/-- The columns of a table, in order. -/
structure Schema where
  fields : List Field
  deriving DecidableEq, Repr

namespace Field

/-- A column that holds no arrays. -/
def scalar (name : String) (type : DataType) : Field := ⟨name, type, none⟩

/-- A column of arrays. -/
def array (name : String) (element : DataType) : Field := ⟨name, .array, some element⟩

/-- The spelling of the column's type in a schema text. -/
def typeText (field : Field) : String :=
  match field.type, field.element with
  | .array, some element => "array<" ++ element.schemaName ++ ">"
  | type, _ => type.schemaName

/-- The column as the managed side describes it: arrays without a type of items hold text, and
other columns have no type of items. -/
def normal (field : Field) : Field :=
  match field.type with
  | .array => { field with element := some (field.element.getD .string) }
  | _ => { field with element := none }

/-- An array column has a type of items, which is not array, and no other column has one. -/
def IsWellFormed (field : Field) : Prop :=
  match field.type with
  | .array => ∃ element, field.element = some element ∧ element ≠ .array
  | _ => field.element = none

end Field

namespace Schema

/-- The count of columns. -/
def length (schema : Schema) : Nat := schema.fields.length

/-- Does the schema have no columns? -/
def isEmpty (schema : Schema) : Bool := schema.fields.isEmpty

/-- The column names, in order. -/
def names (schema : Schema) : List String := schema.fields.map Field.name

/-- The column at a position. -/
def field? (schema : Schema) (position : Nat) : Option Field := schema.fields[position]?

/-- The position of the first column with a name. -/
def indexOf? (schema : Schema) (name : String) : Option Nat :=
  schema.fields.findIdx? fun field ↦ Text.sameIgnoringCase field.name name

/-- The column with a name. -/
def find (schema : Schema) (name : String) : Except Error Field :=
  match schema.fields.find? fun field ↦ Text.sameIgnoringCase field.name name with
  | some field => .ok field
  | none => .error (.schema ("column: " ++ name ++ " does not exist"))

/-- The named columns, in the order of the names. -/
def project (schema : Schema) (columns : List String) : Except Error Schema :=
  (columns.mapM schema.find).map Schema.mk

/-- The schema as the managed side describes it. -/
def normal (schema : Schema) : Schema := ⟨schema.fields.map Field.normal⟩

/-- The first name that an earlier column has already. -/
def duplicate? (schema : Schema) : Option String :=
  (schema.fields.zipIdx.find? fun entry ↦ schema.indexOf? entry.1.name != some entry.2).map
    fun entry ↦ entry.1.name

/-- There is a column, no two columns share a name, and every column is well formed. -/
def IsWellFormed (schema : Schema) : Prop :=
  schema.fields ≠ [] ∧
    schema.fields.Pairwise (fun first second ↦ ¬ Text.sameIgnoringCase first.name second.name) ∧
      ∀ field ∈ schema.fields, field.IsWellFormed

end Schema

end ColumnStore
