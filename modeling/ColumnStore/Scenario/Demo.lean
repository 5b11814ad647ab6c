import ColumnStore.Binary.Rounding
import ColumnStore.Memory.Store

/-!
# The demo tables

A backend for demonstrations starts with three tables of one schema, which has a column of every
type. Row `i` is made from the number `i` alone.
-/

set_option autoImplicit false

namespace ColumnStore

namespace Demo

/-- The folder of the small table. -/
def smallPath : String := "resources/carbondata"

/-- The folder of the large table. -/
def largePath : String := "resources/carbon-data-big"

/-- The folder of the table in an object store. -/
def remotePath : String := "s3a://sdk/WriterOutput/carbondata"

/-- A folder that never holds a table. -/
def missingPath : String := "./carbondata"

/-- The count of rows in the small tables. -/
def smallRows : Nat := 10

/-- The columns of the demo tables. -/
def schema : Schema :=
  ⟨[.scalar "stringField" .string, .scalar "shortField" .short, .scalar "intField" .int,
    .scalar "longField" .long, .scalar "doubleField" .double, .scalar "boolField" .boolean,
    .scalar "dateField" .date, .scalar "timeField" .timestamp, .scalar "decimalField" .decimal,
    .scalar "varcharField" .varchar, .array "arrayField" .string, .scalar "floatField" .float]⟩

/-- Row `i` of a demo table. -/
def row (i : Nat) : Row :=
  [.string ("robot" ++ toString i),
    .short (Int16.ofNat (i % 32768)),
    .int (Int32.ofNat i),
    .long (Int64.ofNat (1000 * i)),
    .double (.ofRatio .double false i 2),
    .boolean (i % 2 == 0),
    .date (Int32.ofNat (17957 + i % 365)),
    .timestamp (Int64.ofNat (1551536523000 + 1000 * i)),
    .decimal (toString (12 + i) ++ "." ++ Text.decimalDigits 2 (i % 100)),
    .varchar ("varchar" ++ toString i),
    .array [.string "Hello", .string "World", .string ("From" ++ toString i)],
    .float (.ofRatio .single false i 2)]

/-- The first rows of a demo table. -/
def rows (count : Nat) : List Row :=
  (List.range count).map row

/-- Adds the demo tables to a store; the large one has `count` rows. -/
def stock (store : Store) (count : Nat) : Store :=
  let small := rows smallRows
  let store := store.seed smallPath schema small
  let store := store.seed largePath schema (rows count)
  store.seed remotePath schema small

end Demo

end ColumnStore
