import ColumnStore.Managed.Method

/-!
# The managed library

`Operation` lists what the managed library can do, and `Operation.method` gives the method behind
each one. Two operations never share a method, so `Operation.ofMethod?` finds an operation again
from its method.
-/

set_option autoImplicit false

namespace ColumnStore

/-- Something the managed library can do. -/
inductive Operation where
  | newNamedReaderBuilder
  | newReaderBuilder
  | setProjection
  | setReaderOption
  | setReaderConfiguration
  | setBatch
  | buildReader
  | hasNextRow
  | readRow
  | readRows
  | closeReader
  | rowLength
  | columnTypeName
  | elementTypeName
  | getShort
  | getInt
  | getLong
  | getDouble
  | getFloat
  | getBoolean
  | getString
  | getDecimal
  | getVarchar
  | getArray
  | newWriterBuilder
  | setOutputPath
  | setCsvSchema
  | setWriterOption
  | setWrittenBy
  | setSortColumns
  | setBlockSize
  | setBlockletSize
  | setUniqueIdentifier
  | buildWriter
  | writeRecord
  | closeWriter
  | schemaOfIndexFile
  | schemaOfDataFile
  | schemaOfSchemaFile
  | versionDetails
  | schemaFields
  | fieldName
  | fieldType
  | typeName
  | elementType
  | newConfiguration
  | setEntry
  | getEntry
  deriving DecidableEq, Repr

namespace Operation

/-- Every operation, readers first, then rows, writers, schemas and configurations. -/
def all : List Operation :=
  [newNamedReaderBuilder, newReaderBuilder, setProjection, setReaderOption,
    setReaderConfiguration, setBatch, buildReader, hasNextRow, readRow, readRows, closeReader,
    rowLength, columnTypeName, elementTypeName, getShort, getInt, getLong, getDouble, getFloat,
    getBoolean, getString, getDecimal, getVarchar, getArray, newWriterBuilder, setOutputPath,
    setCsvSchema, setWriterOption, setWrittenBy, setSortColumns, setBlockSize, setBlockletSize,
    setUniqueIdentifier, buildWriter, writeRecord, closeWriter, schemaOfIndexFile,
    schemaOfDataFile, schemaOfSchemaFile, versionDetails, schemaFields, fieldName, fieldType,
    typeName, elementType, newConfiguration, setEntry, getEntry]

/-- The package of the reading and writing classes. -/
def filePackage : String := "org/apache/carbondata/sdk/file/"

/-- The package of the classes that describe types. -/
def typePackage : String := "org/apache/carbondata/core/metadata/datatype/"

/-- The class of texts. -/
def textClass : String := "java/lang/String"

/-- The descriptor of a class inside a signature. -/
def descriptor (className : String) : String := "L" ++ className ++ ";"

/-- The signature of a method with the given parameters and result. -/
def signature (parameters : List String) (result : String) : String :=
  "(" ++ String.join parameters ++ ")" ++ result

/-- The descriptor of texts. -/
def textDescriptor : String := descriptor textClass

/-- The descriptor of objects of any class. -/
def objectDescriptor : String := descriptor "java/lang/Object"

/-- The class that reads rows. -/
def readerClass : String := filePackage ++ "CarbonReader"

/-- The class that prepares a reader. -/
def readerBuilderClass : String := filePackage ++ "CarbonReaderBuilder"

/-- The class that writes records. -/
def writerClass : String := filePackage ++ "CarbonWriter"

/-- The class that prepares a writer. -/
def writerBuilderClass : String := filePackage ++ "CarbonWriterBuilder"

/-- The class that reads schemas. -/
def schemaReaderClass : String := filePackage ++ "CarbonSchemaReader"

/-- The class of schemas. -/
def schemaClass : String := filePackage ++ "Schema"

/-- The class of columns. -/
def fieldClass : String := typePackage ++ "Field"

/-- The class of types. -/
def typeClass : String := typePackage ++ "DataType"

/-- The class of array types. -/
def arrayTypeClass : String := typePackage ++ "ArrayType"

/-- The class of rows. -/
def rowClass : String := "org/apache/carbondata/core/datastore/row/Row"

/-- The class of configurations. -/
def configurationClass : String := "org/apache/hadoop/conf/Configuration"

/-- A step of preparing a reader, which returns the builder. -/
def readerStep (name : String) (parameters : List String) : Method :=
  ⟨readerBuilderClass, name, signature parameters (descriptor readerBuilderClass), .object,
    .onObject⟩

/-- A step of preparing a writer, which returns the builder. -/
def writerStep (name : String) (parameters : List String) : Method :=
  ⟨writerBuilderClass, name, signature parameters (descriptor writerBuilderClass), .object,
    .onObject⟩

/-- A getter of one field of a row. -/
def getter (name result : String) (returns : ReturnKind) : Method :=
  ⟨rowClass, name, signature ["I"] result, returns, .onObject⟩

/-- A method that reads a schema from a file. -/
def schemaSource (name : String) : Method :=
  ⟨schemaReaderClass, name, signature [textDescriptor] (descriptor schemaClass), .object, .onClass⟩

/-- The method behind an operation. -/
def method : Operation → Method
  | newNamedReaderBuilder =>
    ⟨readerClass, "builder",
      signature [textDescriptor, textDescriptor] (descriptor readerBuilderClass), .object, .onClass⟩
  | newReaderBuilder =>
    ⟨readerClass, "builder", signature [textDescriptor] (descriptor readerBuilderClass), .object,
      .onClass⟩
  | setProjection => readerStep "projection" ["[" ++ textDescriptor]
  | setReaderOption => readerStep "withHadoopConf" [textDescriptor, textDescriptor]
  | setReaderConfiguration => readerStep "withHadoopConf" [descriptor configurationClass]
  | setBatch => readerStep "withBatch" ["I"]
  | buildReader =>
    ⟨readerBuilderClass, "build", signature [] (descriptor readerClass), .object, .onObject⟩
  | hasNextRow => ⟨readerClass, "hasNext", signature [] "Z", .boolean, .onObject⟩
  | readRow =>
    ⟨readerClass, "readNextCarbonRow", signature [] objectDescriptor, .object, .onObject⟩
  | readRows =>
    ⟨readerClass, "readNextBatchRow", signature ["I"] ("[" ++ objectDescriptor), .objects,
      .onObject⟩
  | closeReader => ⟨readerClass, "close", signature [] "V", .nothing, .onObject⟩
  | rowLength => ⟨rowClass, "getLength", signature [] "I", .int, .onObject⟩
  | columnTypeName => getter "getDataTypeName" textDescriptor .text
  | elementTypeName => getter "getArrayElementTypeName" textDescriptor .text
  | getShort => getter "getShort" "S" .short
  | getInt => getter "getInt" "I" .int
  | getLong => getter "getLong" "J" .long
  | getDouble => getter "getDouble" "D" .double
  | getFloat => getter "getFloat" "F" .float
  | getBoolean => getter "getBoolean" "Z" .boolean
  | getString => getter "getString" textDescriptor .text
  | getDecimal => getter "getDecimal" textDescriptor .text
  | getVarchar => getter "getVarchar" textDescriptor .text
  | getArray => getter "getArray" ("[" ++ objectDescriptor) .texts
  | newWriterBuilder =>
    ⟨writerClass, "builder", signature [] (descriptor writerBuilderClass), .object, .onClass⟩
  | setOutputPath => writerStep "outputPath" [textDescriptor]
  | setCsvSchema => writerStep "withCsvInput" [textDescriptor]
  | setWriterOption => writerStep "withHadoopConf" [textDescriptor, textDescriptor]
  | setWrittenBy => writerStep "writtenBy" [textDescriptor]
  | setSortColumns => writerStep "sortBy" ["[" ++ textDescriptor]
  | setBlockSize => writerStep "withBlockSize" ["I"]
  | setBlockletSize => writerStep "withBlockletSize" ["I"]
  | setUniqueIdentifier => writerStep "uniqueIdentifier" ["J"]
  | buildWriter =>
    ⟨writerBuilderClass, "build", signature [] (descriptor writerClass), .object, .onObject⟩
  | writeRecord => ⟨writerClass, "write", signature [objectDescriptor] "V", .nothing, .onObject⟩
  | closeWriter => ⟨writerClass, "close", signature [] "V", .nothing, .onObject⟩
  | schemaOfIndexFile => schemaSource "readSchemaInIndexFile"
  | schemaOfDataFile => schemaSource "readSchemaInDataFile"
  | schemaOfSchemaFile => schemaSource "readSchemaInSchemaFile"
  | versionDetails =>
    ⟨schemaReaderClass, "getVersionDetails", signature [textDescriptor] textDescriptor, .text,
      .onClass⟩
  | schemaFields =>
    ⟨schemaClass, "getFields", signature [] ("[" ++ descriptor fieldClass), .objects, .onObject⟩
  | fieldName => ⟨fieldClass, "getFieldName", signature [] textDescriptor, .text, .onObject⟩
  | fieldType =>
    ⟨fieldClass, "getDataType", signature [] (descriptor typeClass), .object, .onObject⟩
  | typeName => ⟨typeClass, "getName", signature [] textDescriptor, .text, .onObject⟩
  | elementType =>
    ⟨arrayTypeClass, "getElementType", signature [] (descriptor typeClass), .object, .onObject⟩
  | newConfiguration => ⟨configurationClass, "<init>", signature [] "V", .object, .constructor⟩
  | setEntry =>
    ⟨configurationClass, "set", signature [textDescriptor, textDescriptor] "V", .nothing, .onObject⟩
  | getEntry =>
    ⟨configurationClass, "get", signature [textDescriptor] textDescriptor, .text, .onObject⟩

/-- The operation with the given method. -/
def ofMethod? (wanted : Method) : Option Operation :=
  all.find? fun operation ↦ operation.method = wanted

theorem mem_all (operation : Operation) : operation ∈ all := by cases operation <;> decide

theorem method_of_ofMethod? {wanted : Method} {operation : Operation}
    (h : ofMethod? wanted = some operation) : operation.method = wanted := by
  simpa using List.find?_some h

end Operation

end ColumnStore
