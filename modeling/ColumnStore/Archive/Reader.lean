import ColumnStore.Json.Reader
import ColumnStore.MachineSettings
import ColumnStore.Schema.Basic
import ColumnStore.Value.Basic

/-!
# Reading archived data

Values, schemas and settings are archived as JSON. A value and a type are tagged by the name of
their kind; a record is an object with its fields by name, or an array with its fields in order.
A reader looks only at what it needs: members of a record that are no field of it may be anything
that is written as JSON, and everything else must be sound. `limit` counts the arrays and objects
that may still be opened.
-/

set_option autoImplicit false

namespace ColumnStore

namespace Archive

/-- The content of a text. -/
def readText : Json → Option String
  | .text content => content
  | _ => none

/-- A truth value. -/
def readBoolean : Json → Option Bool
  | .boolean b => some b
  | _ => none

/-- A whole number that a signed word of `bits` bits can hold. -/
def readWord (bits : Nat) : Json → Option Int
  | .number numeral =>
    match numeral.value? with
    | some (.whole n) =>
      let limit : Int := Nat.pow 2 (bits - 1)
      if -limit ≤ n ∧ n < limit then some n else none
    | _ => none
  | _ => none

/-- A number of a floating-point format. -/
def readReal (format : Format) : Json → Option (Binary format)
  | .number numeral =>
    match numeral.value? with
    | some (.whole n) => some (.ofInt format n)
    | some (.real x) => some (x.convert format)
    | none => none
  | _ => none

/-- The items of an array, each read by `readItem`. -/
def readList {α : Type} (readItem : Json → Option α) : Json → Option (List α)
  | .array items => items.mapM readItem
  | _ => none

/-- An item that may be null. -/
def readOptional {α : Type} (readItem : Json → Option α) : Json → Option (Option α)
  | .null => some none
  | item => (readItem item).map some

/-- The item of a field; no field may be given twice. -/
def member? (name : String) (members : List (Option String × Json)) : Option (Option Json) :=
  match members.filter fun member ↦ member.1 == some name with
  | [] => some none
  | [member] => some (some member.2)
  | _ => none

/-- The items of a record's fields, each one present or absent. -/
def readRecord (limit : Nat) (names : List String) : Json → Option (List (Option Json))
  | .object members =>
    if 0 < limit ∧ members.all fun member ↦ member.1.isSome then
      names.mapM fun name ↦ member? name members
    else none
  | .array items =>
    if 0 < limit ∧ items.length ≤ names.length then
      some (items.map some ++ List.replicate (names.length - items.length) none)
    else none
  | _ => none

/-- A required item. -/
def required {α : Type} (readItem : Json → Option α) (item : Option Json) : Option α :=
  item.bind readItem

/-- An item that has a default. -/
def withDefault {α : Type} (default : α) (readItem : Json → Option α) : Option Json → Option α
  | none => some default
  | some item => readItem item

/-- A type, by its name. -/
def readType (limit : Nat) : Json → Option DataType
  | .text (some name) => DataType.ofName? name
  | .object [(some name, .null)] => if 0 < limit then DataType.ofName? name else none
  | _ => none

/-- A column. -/
def readField (limit : Nat) (json : Json) : Option Field :=
  match readRecord limit ["name", "data_type", "element_type"] json with
  | some [name, type, element] => do
    let name ← required readText name
    let type ← required (readType (limit - 1)) type
    let element ← withDefault none (readOptional (readType (limit - 1))) element
    some ⟨name, type, element⟩
  | _ => none

/-- A schema. -/
def readSchema (limit : Nat) (json : Json) : Option Schema :=
  match readRecord limit ["fields"] json with
  | some [fields] => do
    let fields ← required (readList (readField (limit - 2))) fields
    some ⟨fields⟩
  | _ => none

/-- A value other than null and other than an array, by the name of its kind. -/
def readScalar (kind : String) (item : Json) : Option Value :=
  match kind with
  | "Null" => if item matches .null then some .null else none
  | "Short" => (readWord 16 item).map fun n ↦ .short (Int16.ofInt n)
  | "Int" => (readWord 32 item).map fun n ↦ .int (Int32.ofInt n)
  | "Long" => (readWord 64 item).map fun n ↦ .long (Int64.ofInt n)
  | "Float" => (readReal .single item).map .float
  | "Double" => (readReal .double item).map .double
  | "Boolean" => (readBoolean item).map .boolean
  | "String" => (readText item).map .string
  | "Varchar" => (readText item).map .varchar
  | "Decimal" => (readText item).map .decimal
  | "Date" => (readWord 32 item).map fun n ↦ .date (Int32.ofInt n)
  | "Timestamp" => (readWord 64 item).map fun n ↦ .timestamp (Int64.ofInt n)
  | _ => none

/-- A value. -/
def readValue : Nat → Json → Option Value
  | limit + 2, .object [(some "Array", .array items)] =>
    (items.mapM (readValue limit)).map .array
  | _ + 1, .object [(some kind, item)] => readScalar kind item
  | _, .text (some kind) => if kind = "Null" then some .null else none
  | _, _ => none

/-- Settings of the virtual machine. -/
def readSettings (limit : Nat) (json : Json) : Option MachineSettings :=
  let names :=
    ["classpath", "verbose_jni", "disable_jit", "jvm_options", "ignore_unrecognized"]
  let default := MachineSettings.default
  match readRecord limit names json with
  | some [classPath, verbose, disableCompiler, extraOptions, ignoreUnrecognized] => do
    let classPath ← withDefault default.classPath (readList readText) classPath
    let verbose ← withDefault default.verbose readBoolean verbose
    let disableCompiler ← withDefault default.disableCompiler readBoolean disableCompiler
    let extraOptions ← withDefault default.extraOptions (readList readText) extraOptions
    let ignoreUnrecognized ← withDefault default.ignoreUnrecognized readBoolean ignoreUnrecognized
    some ⟨classPath, verbose, disableCompiler, extraOptions, ignoreUnrecognized⟩
  | _ => none

/-- An entry of options. -/
def readEntry (member : Option String × Json) : Option (String × String) :=
  match member with
  | (some key, .text (some value)) => some (key, value)
  | _ => none

/-- Options, in key order. -/
def readOptions : Json → Option Options
  | .object members => (members.mapM readEntry).map fun entries ↦ ⟨Dictionary.ofEntries entries⟩
  | _ => none

end Archive

end ColumnStore
