import ColumnStore.Archive.Reader
import ColumnStore.Binary.Shortest
import ColumnStore.Json.Writer

/-!
# Writing archived data

Archived data are compact JSON texts. Numbers have the fewest digits that read back, with an
exponent when they are very large or very small; what is not a finite number is written as null.
`Archive.normalize` reads an archived text of a given kind and writes it again.
-/

set_option autoImplicit false

namespace ColumnStore

namespace Archive

/-- Single-precision numbers are positional from `1e-6` up to thirteen digits. -/
def singleStyle : NumberStyle := ⟨some (-6, 13), ".0"⟩

/-- Double-precision numbers are positional from `1e-5` up to sixteen digits. -/
def doubleStyle : NumberStyle := ⟨some (-5, 16), ".0"⟩

/-- The text of a number. -/
def realText {format : Format} (style : NumberStyle) (x : Binary format) : String :=
  match x.decode with
  | .finite _ _ _ => x.text style
  | _ => "null"

mutual

/-- The text of a value. -/
def valueText : Value → String
  | .null => Json.quoted "Null"
  | .short n => Json.objectText [("Short", toString n.toInt)]
  | .int n => Json.objectText [("Int", toString n.toInt)]
  | .long n => Json.objectText [("Long", toString n.toInt)]
  | .float x => Json.objectText [("Float", realText singleStyle x)]
  | .double x => Json.objectText [("Double", realText doubleStyle x)]
  | .boolean b => Json.objectText [("Boolean", Json.booleanText b)]
  | .string text => Json.objectText [("String", Json.quoted text)]
  | .varchar text => Json.objectText [("Varchar", Json.quoted text)]
  | .decimal text => Json.objectText [("Decimal", Json.quoted text)]
  | .date day => Json.objectText [("Date", toString day.toInt)]
  | .timestamp millisecond => Json.objectText [("Timestamp", toString millisecond.toInt)]
  | .array items => Json.objectText [("Array", Json.arrayText (valueTexts items))]

/-- The texts of a row of values. -/
def valueTexts : List Value → List String
  | [] => []
  | value :: rest => valueText value :: valueTexts rest

end

/-- The text of a type. -/
def typeText (type : DataType) : String := Json.quoted type.name

/-- The text of a column, which names the type of items only if there is one. -/
def fieldText (field : Field) : String :=
  Json.objectText ([("name", Json.quoted field.name), ("data_type", typeText field.type)]
    ++ (field.element.map fun element ↦ ("element_type", typeText element)).toList)

/-- The text of a schema. -/
def schemaText (schema : Schema) : String :=
  Json.objectText [("fields", Json.arrayText (schema.fields.map fieldText))]

/-- The text of a list of texts. -/
def textsText (texts : List String) : String :=
  Json.arrayText (texts.map Json.quoted)

/-- The text of settings of the virtual machine. -/
def settingsText (settings : MachineSettings) : String :=
  Json.objectText
    [("classpath", textsText settings.classPath),
      ("verbose_jni", Json.booleanText settings.verbose),
      ("disable_jit", Json.booleanText settings.disableCompiler),
      ("jvm_options", textsText settings.extraOptions),
      ("ignore_unrecognized", Json.booleanText settings.ignoreUnrecognized)]

/-- The text of options, in key order. -/
def optionsText (options : Options) : String :=
  Json.objectText (options.sorted.entries.map fun entry ↦ (entry.1, Json.quoted entry.2))

/-- What can be archived. -/
inductive Kind where
  | value
  | schema
  | field
  | dataType
  | machineSettings
  | options
  deriving DecidableEq, Repr

/-- The text of what an archived text of the given kind holds. -/
def normalize (kind : Kind) (text : String) : Option String := do
  let json ← Json.read text
  let limit := Json.nestingLimit
  match kind with
  | .value => (readValue limit json).map valueText
  | .schema => (readSchema limit json).map schemaText
  | .field => (readField limit json).map fieldText
  | .dataType => (readType limit json).map typeText
  | .machineSettings => (readSettings limit json).map settingsText
  | .options => (readOptions json).map optionsText

end Archive

end ColumnStore
