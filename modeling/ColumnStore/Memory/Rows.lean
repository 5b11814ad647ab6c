import ColumnStore.Memory.Exception
import ColumnStore.Memory.State
import ColumnStore.Value.Cell

/-!
# Rows of the in-process backend

Typed getters read one field of a row. Each getter takes the values it can return, refuses null
unless it returns texts, and refuses every other value as an object of the wrong class.
-/

set_option autoImplicit false

namespace ColumnStore

namespace Memory

/-- The managed class of a value. -/
def valueClass : Value → String
  | .null => "null"
  | .short _ => "java.lang.Short"
  | .int _ | .date _ => "java.lang.Integer"
  | .long _ | .timestamp _ => "java.lang.Long"
  | .float _ => "java.lang.Float"
  | .double _ => "java.lang.Double"
  | .boolean _ => "java.lang.Boolean"
  | .string _ | .varchar _ => "java.lang.String"
  | .decimal _ => "java.math.BigDecimal"
  | .array _ => "[Ljava.lang.Object;"

/-- One field of a row: where it is, its column and its value. -/
structure FieldOfRow where
  position : Nat
  field : Field
  value : Value

/-- The field that the first argument names. -/
def fieldOfRow (memory : Memory) (handle : Handle) (arguments : List Argument) (method : String) :
    Except CallError FieldOfRow := do
  let ordinal ← Argument.intAt arguments 0 method
  let row ← memory.row handle method
  let position := ordinal.toInt.toNat
  match row.values[position]? with
  | some value =>
    if ordinal < 0 then .error (.indexOutOfBounds ordinal.toInt row.values.length)
    else .ok ⟨position, (row.schema.field? position).getD (.scalar "" .string), value⟩
  | none => .error (.indexOutOfBounds ordinal.toInt row.values.length)

/-- Reads a field with a getter that takes the values for which `take` is defined. -/
def getWith (method wantedClass : String) (take : Value → Option Returned) (handle : Handle)
    (arguments : List Argument) (memory : Memory) : Except CallError Returned := do
  let field ← memory.fieldOfRow handle arguments method
  match take field.value with
  | some returned => .ok returned
  | none =>
    if field.value.isNull then .error (.nullValue method field.position)
    else .error (.classCast (valueClass field.value) wantedClass)

/-- The values of `getShort`. -/
def takeShort : Value → Option Returned
  | .short n => some (.short n)
  | _ => none

/-- The values of `getInt`. -/
def takeInt : Value → Option Returned
  | .int n | .date n => some (.int n)
  | _ => none

/-- The values of `getLong`. -/
def takeLong : Value → Option Returned
  | .long n | .timestamp n => some (.long n)
  | _ => none

/-- The values of `getDouble`. -/
def takeDouble : Value → Option Returned
  | .double x => some (.double x)
  | _ => none

/-- The values of `getFloat`. -/
def takeFloat : Value → Option Returned
  | .float x => some (.float x)
  | _ => none

/-- The values of `getBoolean`. -/
def takeBoolean : Value → Option Returned
  | .boolean b => some (.boolean b)
  | _ => none

/-- The values of `getString` and `getVarchar`, null among them. -/
def takeText : Value → Option Returned
  | .string text | .varchar text => some (.text (some text))
  | .null => some (.text none)
  | _ => none

/-- The values of `getDecimal`. -/
def takeDecimal : Value → Option Returned
  | .decimal text => some (.text (some text))
  | _ => none

/-- An item of an array as a text; null stays null. -/
def itemText (item : Value) : Option String :=
  if item.isNull then none else some item.cell

/-- The values of `getArray`. -/
def takeArray : Value → Option Returned
  | .array items => some (.texts (items.map itemText))
  | _ => none

/-- The count of fields of a row. -/
def rowLength (handle : Handle) (memory : Memory) : Except CallError Returned :=
  (memory.row handle "getLength").map fun row ↦ .int (Int32.ofNat row.values.length)

/-- The name of the type of a field's column. -/
def columnTypeName (handle : Handle) (arguments : List Argument) (memory : Memory) :
    Except CallError Returned :=
  (memory.fieldOfRow handle arguments "getDataTypeName").map fun field ↦
    .text (some field.field.type.name)

/-- The name of the type of the items of a field's column. -/
def elementTypeName (handle : Handle) (arguments : List Argument) (memory : Memory) :
    Except CallError Returned := do
  let field ← memory.fieldOfRow handle arguments "getArrayElementTypeName"
  if field.field.type = .array then .ok (.text (some (field.field.element.getD .string).name))
  else .error .notAnArray

end Memory

end ColumnStore
