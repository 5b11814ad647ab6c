import ColumnStore.Client.Row

/-!
# Questions to a row

A `Question` is what can be asked about a row through an accessor, as data.
-/

set_option autoImplicit false

namespace ColumnStore

/-- Something that an accessor can be asked for. -/
inductive Question where
  | length
  | typeName
  | type
  | elementTypeName
  | elementType
  | short
  | int
  | long
  | double
  | float
  | boolean
  | string
  | decimal
  | varchar
  | array
  | value
  | printed
  | printedRow
  | values
  deriving DecidableEq, Repr

/-- What an accessor answers. -/
inductive RowAnswer where
  | number (n : Int)
  | long (n : Int64)
  | double (x : Binary64)
  | float (x : Binary32)
  | truth (b : Bool)
  | type (type : DataType)
  | text (text : Option String)
  | texts (items : List (Option String))
  | value (value : Value)
  | row (row : Row)

/-- Asks a question about a field; questions about the row do not look at the ordinal. -/
def Question.ask {σ : Type} (accessor : Accessor) (ordinal : Nat) : Question → Client σ RowAnswer
  | .length => (fun n ↦ .number n) <$> accessor.length
  | .typeName => (fun name ↦ .text (some name)) <$> accessor.typeName ordinal
  | .type => RowAnswer.type <$> accessor.type ordinal
  | .elementTypeName => (fun name ↦ .text (some name)) <$> accessor.elementTypeName ordinal
  | .elementType => RowAnswer.type <$> accessor.elementType ordinal
  | .short => (fun n ↦ .number n.toInt) <$> accessor.short ordinal
  | .int => (fun n ↦ .number n.toInt) <$> accessor.int ordinal
  | .long => RowAnswer.long <$> accessor.long ordinal
  | .double => RowAnswer.double <$> accessor.double ordinal
  | .float => RowAnswer.float <$> accessor.float ordinal
  | .boolean => RowAnswer.truth <$> accessor.boolean ordinal
  | .string => RowAnswer.text <$> accessor.string ordinal
  | .decimal => RowAnswer.text <$> accessor.decimal ordinal
  | .varchar => RowAnswer.text <$> accessor.varchar ordinal
  | .array => RowAnswer.texts <$> accessor.array ordinal
  | .value => RowAnswer.value <$> accessor.value ordinal
  | .printed => (fun text ↦ .text (some text)) <$> accessor.printed ordinal
  | .printedRow => (fun text ↦ .text (some text)) <$> accessor.printedRow
  | .values => RowAnswer.row <$> accessor.values

end ColumnStore
