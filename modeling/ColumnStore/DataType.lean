import ColumnStore.Error
import ColumnStore.Text.Blank

/-!
# Column types

The twelve logical types of a column, with their names on the managed side and their spelling in a
schema text. `DataType.read` accepts both, in any case and with blanks around, and a few other
spellings.
-/

set_option autoImplicit false

namespace ColumnStore

/-- The logical type of a column. -/
inductive DataType where
  | int
  | date
  | long
  | timestamp
  | string
  | double
  | short
  | boolean
  | varchar
  | decimal
  | float
  | array
  deriving DecidableEq, Repr

namespace DataType

/-- Every type, in the order in which they are listed to users. -/
def all : List DataType :=
  [int, date, long, timestamp, string, double, short, boolean, varchar, decimal, float, array]

/-- The name on the managed side. -/
def name : DataType → String
  | int => "INT"
  | date => "DATE"
  | long => "LONG"
  | timestamp => "TIMESTAMP"
  | string => "STRING"
  | double => "DOUBLE"
  | short => "SHORT"
  | boolean => "BOOLEAN"
  | varchar => "VARCHAR"
  | decimal => "DECIMAL"
  | float => "FLOAT"
  | array => "ARRAY"

/-- The spelling inside a schema text. -/
def schemaName : DataType → String
  | int => "int"
  | date => "date"
  | long => "long"
  | timestamp => "timestamp"
  | string => "string"
  | double => "double"
  | short => "short"
  | boolean => "boolean"
  | varchar => "varchar"
  | decimal => "decimal"
  | float => "float"
  | array => "array"

/-- Types whose values travel as text. -/
def isTextual : DataType → Bool
  | string | varchar | decimal => true
  | _ => false

/-- Types whose cells hold a number that may be malformed. -/
def isNumeric : DataType → Bool
  | short | int | long | float | double | decimal => true
  | _ => false

/-- The type with a given lower-case spelling. -/
def ofSpelling? : String → Option DataType
  | "int" | "integer" => some int
  | "date" => some date
  | "long" | "bigint" => some long
  | "timestamp" => some timestamp
  | "string" => some string
  | "double" => some double
  | "short" | "smallint" => some short
  | "boolean" | "bool" => some boolean
  | "varchar" => some varchar
  | "decimal" => some decimal
  | "float" => some float
  | "array" => some array
  | _ => none

/-- Reads a type name. -/
def read (text : String) : Except Error DataType :=
  let spelling := Text.lowerAscii (Text.trim text)
  match ofSpelling? spelling with
  | some type => .ok type
  | none => .error (.schema ("unknown data type '" ++ spelling ++ "'"))

/-- The type with a given managed name, spelled exactly. -/
def ofName? (text : String) : Option DataType :=
  all.find? fun type ↦ type.name == text

theorem mem_all (type : DataType) : type ∈ all := by cases type <;> decide

theorem ofSpelling?_schemaName (type : DataType) : ofSpelling? type.schemaName = some type := by
  cases type <;> rfl

end DataType

end ColumnStore
