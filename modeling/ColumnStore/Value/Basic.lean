import ColumnStore.Binary.Basic
import ColumnStore.DataType

/-!
# Cell values

A `Value` is what one cell of a table holds. Decimals are kept as the text they were written in;
dates are day numbers and timestamps are milliseconds. `Value.dataType?` gives the logical type of
a value, and `Value.equal` is the equality that the program itself uses: two numbers that are not a
number differ, and the two zeros agree.
-/

set_option autoImplicit false

namespace ColumnStore

/-- The contents of one cell. -/
inductive Value where
  | null
  | short (n : Int16)
  | int (n : Int32)
  | long (n : Int64)
  | float (x : Binary32)
  | double (x : Binary64)
  | boolean (b : Bool)
  | string (text : String)
  | varchar (text : String)
  | decimal (text : String)
  | date (day : Int32)
  | timestamp (millisecond : Int64)
  | array (items : List Value)
  deriving Inhabited

/-- One row of a table. -/
abbrev Row := List Value

namespace Value

/-- The logical type of a value; null has none. -/
def dataType? : Value → Option DataType
  | null => none
  | short _ => some .short
  | int _ => some .int
  | long _ => some .long
  | float _ => some .float
  | double _ => some .double
  | boolean _ => some .boolean
  | string _ => some .string
  | varchar _ => some .varchar
  | decimal _ => some .decimal
  | date _ => some .date
  | timestamp _ => some .timestamp
  | array _ => some .array

/-- Is the cell empty? -/
def isNull : Value → Bool
  | null => true
  | _ => false

mutual

/-- Equality of values, with numbers compared as numbers. -/
def equal : Value → Value → Bool
  | null, null => true
  | short m, short n => m == n
  | int m, int n => m == n
  | long m, long n => m == n
  | float x, float y => x.equal y
  | double x, double y => x.equal y
  | boolean b, boolean c => b == c
  | string s, string t => s == t
  | varchar s, varchar t => s == t
  | decimal s, decimal t => s == t
  | date m, date n => m == n
  | timestamp m, timestamp n => m == n
  | array xs, array ys => allEqual xs ys
  | _, _ => false

/-- Equality item by item. -/
def allEqual : List Value → List Value → Bool
  | [], [] => true
  | x :: xs, y :: ys => equal x y && allEqual xs ys
  | _, _ => false

end

end Value

end ColumnStore
