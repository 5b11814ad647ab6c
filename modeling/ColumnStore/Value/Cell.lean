import ColumnStore.Binary.Fixed
import ColumnStore.Binary.Literal
import ColumnStore.Binary.Shortest
import ColumnStore.Calendar.Timestamp
import ColumnStore.Text.Cut
import ColumnStore.Value.Basic

/-!
# Cells

A cell is the text of one value inside a record. `Value.read` reads a cell as a value of a column
type and `Value.cell` writes one; `Value.printed` is the form shown to people, in which numbers
have six decimals and the items of an array stand behind tabs.

The null marker is null in every column, and so is a blank cell unless the column holds text or
arrays. Cells of other types are read without the blanks around them, text and the items of an
array as they stand.
-/

set_option autoImplicit false

namespace ColumnStore

namespace Value

/-- What separates the items of an array inside one cell. -/
def arrayDelimiter : Char := '\x01'

/-- The cell of a null value. -/
def nullMarker : String := "\\N"

/-- Decimal literals: one optional sign, then digits with an optional point and more digits, at
least one digit in all. -/
def isDecimalLiteral (cs : List Char) : Bool :=
  let (_, digits) := Text.takeSign cs
  match Text.cutFirst '.' digits with
  | some (whole, fraction) =>
    !(whole.isEmpty && fraction.isEmpty) && whole.all Char.isDigit && fraction.all Char.isDigit
  | none => Text.isDigits digits

/-- Reads trimmed text as a scalar of the given type, if it is one. -/
def readScalar? (type : DataType) (raw : String) (cs : List Char) : Option Value :=
  match type with
  | .short => (Text.readWord 16 cs).map fun n ↦ short (Int16.ofInt n)
  | .int => (Text.readWord 32 cs).map fun n ↦ int (Int32.ofInt n)
  | .long => (Text.readWord 64 cs).map fun n ↦ long (Int64.ofInt n)
  | .float => (Binary.read .single cs).map float
  | .double => (Binary.read .double cs).map double
  | .boolean =>
    let word := String.ofList (cs.map Char.toLower)
    if word = "true" then some (boolean true)
    else if word = "false" then some (boolean false)
    else none
  | .string => some (string raw)
  | .varchar => some (varchar raw)
  | .decimal => if isDecimalLiteral cs then some (decimal (String.ofList cs)) else none
  | .date => ((Text.readWord 32 cs).or (Date.read cs)).map fun n ↦ date (Int32.ofInt n)
  | .timestamp =>
    ((Text.readWord 64 cs).or (Timestamp.read cs)).map fun n ↦ timestamp (Int64.ofInt n)
  | .array => none

/-- The error for a cell that is no value of its column's type. -/
def cellError (raw : String) (type : DataType) : Error :=
  .schema ("cannot parse '" ++ raw ++ "' as " ++ type.name)

/-- Is a blank cell of this type null? -/
def blankIsNull : DataType → Bool
  | .string | .varchar | .array => false
  | _ => true

/-- Reads the cell of a column that holds no arrays. -/
def readSimple (raw : String) (type : DataType) : Except Error Value :=
  let cs := Text.trimChars raw.toList
  if raw = nullMarker then .ok null
  else if cs.isEmpty && blankIsNull type then .ok null
  else
    match readScalar? type raw cs with
    | some value => .ok value
    | none => .error (cellError raw type)

/-- Reads a cell of the given type; `element` is the type of an array's items and stands for text
when it is absent. -/
def read (raw : String) (type : DataType) (element : Option DataType) : Except Error Value :=
  if type ≠ .array then readSimple raw type
  else if raw = nullMarker then .ok null
  else if element = some .array then .error (.schema "nested arrays are not supported")
  else if raw.isEmpty then .ok (array [])
  else do
    let items ← (Text.splitAll arrayDelimiter raw).mapM fun item ↦
      readSimple item (element.getD .string)
    .ok (array items)

mutual

/-- The cell of a value. -/
def cell : Value → String
  | null => nullMarker
  | short n => toString n.toInt
  | int n => toString n.toInt
  | long n => toString n.toInt
  | float x => x.text .plain
  | double x => x.text .plain
  | boolean b => if b then "true" else "false"
  | string text => text
  | varchar text => text
  | decimal text => text
  | date day => toString day.toInt
  | timestamp millisecond => toString millisecond.toInt
  | array items => Text.joinWith (String.singleton arrayDelimiter) (cells items)

/-- The cells of a row of values. -/
def cells : List Value → List String
  | [] => []
  | value :: rest => cell value :: cells rest

end

mutual

/-- The printed form of a value. -/
def printed : Value → String
  | null => "null"
  | short n => toString n.toInt
  | int n => toString n.toInt
  | long n => toString n.toInt
  | float x => x.fixedText 6
  | double x => x.fixedText 6
  | boolean b => if b then "true" else "false"
  | string text => text
  | varchar text => text
  | decimal text => text
  | date day => toString day.toInt
  | timestamp millisecond => toString millisecond.toInt
  | array items => Text.joinWith "\t" (printedAll items)

/-- The printed forms of a row of values. -/
def printedAll : List Value → List String
  | [] => []
  | value :: rest => printed value :: printedAll rest

end

theorem cells_eq_map (row : Row) : cells row = row.map cell := by
  induction row with
  | nil => rfl
  | cons value rest ih => simp [cells, ih]

theorem printedAll_eq_map (row : Row) : printedAll row = row.map printed := by
  induction row with
  | nil => rfl
  | cons value rest ih => simp [printedAll, ih]

end Value

end ColumnStore
