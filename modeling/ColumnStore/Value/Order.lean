import ColumnStore.Text.Order
import ColumnStore.Value.Cell

/-!
# The order of values

Rows are sorted by some of their columns, each column in the order `Value.compare`: null first,
then numbers by size, texts by code point, `false` before `true`, and arrays by their cells.
Decimals are compared as double-precision numbers. `sortRows` inserts one row after the other and
leaves equal rows in the order in which they came.
-/

set_option autoImplicit false

namespace ColumnStore

namespace Value

/-- The order of two decimals: that of the numbers nearest to them. -/
def compareDecimals (first second : String) : Ordering :=
  match Binary.read .double first.toList, Binary.read .double second.toList with
  | some x, some y => (x.compare? y).getD .eq
  | _, _ => Text.compareTexts first second

/-- The order of two values of one column. -/
def compare : Value → Value → Ordering
  | null, null => .eq
  | null, _ => .lt
  | _, null => .gt
  | short m, short n => Ord.compare m.toInt n.toInt
  | int m, int n => Ord.compare m.toInt n.toInt
  | date m, date n => Ord.compare m.toInt n.toInt
  | long m, long n => Ord.compare m.toInt n.toInt
  | timestamp m, timestamp n => Ord.compare m.toInt n.toInt
  | float x, float y => (x.compare? y).getD .eq
  | double x, double y => (x.compare? y).getD .eq
  | boolean b, boolean c => Ord.compare b c
  | decimal s, decimal t => compareDecimals s t
  | x, y => Text.compareTexts x.cell y.cell

end Value

namespace Row

/-- The cell at a position; there is none behind the end, and null stands for it. -/
def valueAt (row : Row) (position : Nat) : Value :=
  row.getD position .null

/-- The order of two rows by the given positions, the first difference deciding. -/
def compareAt (positions : List Nat) (first second : Row) : Ordering :=
  match positions with
  | [] => .eq
  | position :: rest =>
    match Value.compare (Row.valueAt first position) (Row.valueAt second position) with
    | .eq => compareAt rest first second
    | order => order

/-- Puts a row into rows that are sorted in descending order, before the first one that it does not
come before. -/
def insertDescending (positions : List Nat) (row : Row) : List Row → List Row
  | [] => [row]
  | top :: rest =>
    if compareAt positions row top = .lt then top :: insertDescending positions row rest
    else row :: top :: rest

/-- The rows in ascending order of the given positions; equal rows keep their order. -/
def sortRows (positions : List Nat) (rows : List Row) : List Row :=
  (rows.foldl (fun sorted row ↦ insertDescending positions row sorted) []).reverse

theorem insertDescending_perm (positions : List Nat) (row : Row) (rows : List Row) :
    (insertDescending positions row rows).Perm (row :: rows) := by
  induction rows with
  | nil => exact .refl _
  | cons top rest ih =>
    simp only [insertDescending]
    split
    · exact (ih.cons top).trans (.swap row top rest)
    · exact .refl _

end Row

end ColumnStore
