import ColumnStore.Client.Connection
import ColumnStore.Value.Cell

/-!
# Rows and accessors

A `HeldRow` owns a managed row. An `Accessor` looks at the row it is bound to, which it does not
own: once the row has been given up, everything it is asked for fails. `Accessor.value` gets a field
by the getter that fits its column's type and takes a null for what it is.
-/

set_option autoImplicit false

namespace ColumnStore

/-- A managed row that is held. -/
structure HeldRow where
  handle : Handle
  deriving DecidableEq

/-- A view of a managed row. -/
structure Accessor where
  row : Option Handle
  deriving DecidableEq

/-- Gives a row up. -/
def HeldRow.drop {σ : Type} (row : HeldRow) : Client σ Unit :=
  Client.discard row.handle

/-- An accessor bound to a row. -/
def HeldRow.accessor (row : HeldRow) : Accessor := ⟨some row.handle⟩

namespace Accessor

variable {σ α : Type}

/-- An accessor that is bound to no row. -/
def unbound : Accessor := ⟨none⟩

/-- The greatest ordinal that a getter can be asked for. -/
def greatestOrdinal : Nat := 2147483647

/-- The managed row of an accessor. -/
def bound (accessor : Accessor) (operation : Operation) : Client σ Handle :=
  match accessor.row with
  | some handle => pure handle
  | none =>
    Client.refuse (.bridge (operation.method.name ++ ": no row bound, call set_row first"))

/-- Calls a getter of one field. -/
def callField (accessor : Accessor) (operation : Operation) (ordinal : Nat) :
    Client σ Returned := do
  let handle ← accessor.bound operation
  if greatestOrdinal < ordinal then
    Client.refuse (.index ordinal "ordinal does not fit a Java int")
  else
    let returned ← Client.call handle operation [.int (Int32.ofNat ordinal)]
    Client.expect (operation.method.name ++ "(" ++ toString ordinal ++ ")") (.field ordinal)
      returned

/-- Calls a getter of one field and takes out its result. -/
def getField (accessor : Accessor) (operation : Operation)
    (take : Method → Returned → Except CallError α) (ordinal : Nat) : Client σ α := do
  let returned ← accessor.callField operation ordinal
  Client.expect operation.method.name (.field ordinal) (take operation.method returned)

/-- The count of fields. -/
def length (accessor : Accessor) : Client σ Nat := do
  let operation := Operation.rowLength
  let handle ← accessor.bound operation
  let returned ← Client.expect operation.method.name .other (← Client.call handle operation [])
  let count ← Client.expect operation.method.name .other (returned.toInt operation.method)
  if count < 0 then
    Client.refuse (.managed operation.method.name "java.lang.IllegalStateException"
      ("negative row length " ++ toString count.toInt))
  else pure count.toInt.toNat

/-- The name of the type of a column. -/
def typeName (accessor : Accessor) (ordinal : Nat) : Client σ String := do
  match ← accessor.getField .columnTypeName Returned.toText ordinal with
  | some name => pure name
  | none =>
    Client.refuse (.managed
      (Operation.columnTypeName.method.name ++ "(" ++ toString ordinal ++ ")")
      Returned.nullPointer "no data type")

/-- Reads the name of a type. -/
def readType (name : String) : Client σ DataType :=
  match DataType.read name with
  | .ok type => pure type
  | .error error => Client.refuse error

/-- The type of a column. -/
def type (accessor : Accessor) (ordinal : Nat) : Client σ DataType := do
  readType (← accessor.typeName ordinal)

/-- The name of the type of the items of an array column. -/
def elementTypeName (accessor : Accessor) (ordinal : Nat) : Client σ String := do
  match ← accessor.getField .elementTypeName Returned.toText ordinal with
  | some name => pure name
  | none => Client.refuse (.typeMismatch ordinal "no element type")

/-- The type of the items of an array column. -/
def elementType (accessor : Accessor) (ordinal : Nat) : Client σ DataType := do
  readType (← accessor.elementTypeName ordinal)

/-- A field of 16 bits. -/
def short (accessor : Accessor) (ordinal : Nat) : Client σ Int16 :=
  accessor.getField .getShort Returned.toShort ordinal

/-- A field of 32 bits, or the day of a date. -/
def int (accessor : Accessor) (ordinal : Nat) : Client σ Int32 :=
  accessor.getField .getInt Returned.toInt ordinal

/-- A field of 64 bits, or the millisecond of a timestamp. -/
def long (accessor : Accessor) (ordinal : Nat) : Client σ Int64 :=
  accessor.getField .getLong Returned.toLong ordinal

/-- A double-precision field. -/
def double (accessor : Accessor) (ordinal : Nat) : Client σ Binary64 :=
  accessor.getField .getDouble Returned.toDouble ordinal

/-- A single-precision field. -/
def float (accessor : Accessor) (ordinal : Nat) : Client σ Binary32 :=
  accessor.getField .getFloat Returned.toFloat ordinal

/-- A truth value. -/
def boolean (accessor : Accessor) (ordinal : Nat) : Client σ Bool :=
  accessor.getField .getBoolean Returned.toBoolean ordinal

/-- A text, which may be null. -/
def string (accessor : Accessor) (ordinal : Nat) : Client σ (Option String) :=
  accessor.getField .getString Returned.toText ordinal

/-- A decimal, as its text. -/
def decimal (accessor : Accessor) (ordinal : Nat) : Client σ (Option String) :=
  accessor.getField .getDecimal Returned.toText ordinal

/-- A text of a varying length, which may be null. -/
def varchar (accessor : Accessor) (ordinal : Nat) : Client σ (Option String) :=
  accessor.getField .getVarchar Returned.toText ordinal

/-- The items of an array, as texts. -/
def array (accessor : Accessor) (ordinal : Nat) : Client σ (List (Option String)) :=
  accessor.getField .getArray Returned.toTexts ordinal

/-- Reads an item of an array. -/
def readItem (element : DataType) (ordinal : Nat) : Option String → Client σ Value
  | none => pure .null
  | some text =>
    match Value.read text element none with
    | .ok value => pure value
    | .error error => Client.refuse (.typeMismatch ordinal error.message)

/-- The value of a field of an array column. -/
def arrayValue (accessor : Accessor) (ordinal : Nat) : Client σ Value := do
  let element ← accessor.elementType ordinal
  let items ← accessor.array ordinal
  let values ← items.mapM (readItem element ordinal)
  pure (.array values)

/-- The value of a field of a column of the given type. -/
def valueOf (accessor : Accessor) (ordinal : Nat) : DataType → Client σ Value
  | .short => Value.short <$> accessor.short ordinal
  | .int => Value.int <$> accessor.int ordinal
  | .date => Value.date <$> accessor.int ordinal
  | .long => Value.long <$> accessor.long ordinal
  | .timestamp => Value.timestamp <$> accessor.long ordinal
  | .double => Value.double <$> accessor.double ordinal
  | .float => Value.float <$> accessor.float ordinal
  | .boolean => Value.boolean <$> accessor.boolean ordinal
  | .string => (fun text ↦ (text.map Value.string).getD .null) <$> accessor.string ordinal
  | .varchar => (fun text ↦ (text.map Value.varchar).getD .null) <$> accessor.varchar ordinal
  | .decimal => (fun text ↦ (text.map Value.decimal).getD .null) <$> accessor.decimal ordinal
  | .array => accessor.arrayValue ordinal

/-- The value of a field. A null that a getter stumbles over is the value null. -/
def value (accessor : Accessor) (ordinal : Nat) : Client σ Value := do
  let type ← accessor.type ordinal
  match ← Client.attempt (accessor.valueOf ordinal type) with
  | .ok value => pure value
  | .error error => if error.isNullPointer then pure .null else Client.refuse error

/-- The values of `count` fields from an ordinal on. -/
def valuesFrom (accessor : Accessor) (ordinal : Nat) : Nat → Client σ Row
  | 0 => pure []
  | count + 1 => do
    let value ← accessor.value ordinal
    let rest ← accessor.valuesFrom (ordinal + 1) count
    pure (value :: rest)

/-- The values of all fields. -/
def values (accessor : Accessor) : Client σ Row := do
  accessor.valuesFrom 0 (← accessor.length)

/-- The printed form of a field. -/
def printed (accessor : Accessor) (ordinal : Nat) : Client σ String :=
  Value.printed <$> accessor.value ordinal

/-- The printed forms of the first `count` fields, with tabs between. -/
def printedFirst (accessor : Accessor) (count : Nat) : Client σ String := do
  let values ← accessor.valuesFrom 0 count
  pure (Text.joinWith "\t" (values.map Value.printed))

/-- The printed forms of all fields, with tabs between. -/
def printedRow (accessor : Accessor) : Client σ String := do
  accessor.printedFirst (← accessor.length)

end Accessor

end ColumnStore
