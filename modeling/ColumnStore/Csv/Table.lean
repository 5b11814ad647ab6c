import ColumnStore.Text.Cut
import ColumnStore.Text.Utf8

/-!
# Comma-separated tables

A table in a text file has one record per line and commas between the fields of a record. A field
that begins with a quote ends at the next single quote and may hold commas, line ends and quotes,
each quote written twice. Empty lines are no records. The first record names the columns, and every
other record must have as many fields.
-/

set_option autoImplicit false

namespace ColumnStore

namespace Csv

/-- A place between records: how many records, lines and bytes lie in front of it, with lines
counted from one. -/
structure Position where
  record : Nat
  line : Nat
  byte : Nat
  deriving DecidableEq, Repr

/-- A record as bytes, and where the one before it ended. -/
structure RawRecord where
  start : Position
  fields : List (List UInt8)

/-- Why a table cannot be read. -/
inductive Error where
  /-- The file cannot be read. -/
  | unreadable (reason : String)
  /-- A record has another count of fields than the first one. -/
  | uneven (start : Position) (expected found : Nat)
  /-- A field is no text from some byte on. -/
  | encoding (start : Position) (field byte : Nat)
  deriving DecidableEq, Repr

/-- The error as one line of text. -/
def Error.message : Error → String
  | unreadable reason => reason
  | uneven start expected found =>
    "CSV error: record " ++ toString start.record ++ " (line: " ++ toString start.line
      ++ ", byte: " ++ toString start.byte ++ "): found record with " ++ toString found
      ++ " fields, but the previous record has " ++ toString expected ++ " fields"
  | encoding start field byte =>
    "CSV parse error: record " ++ toString start.record ++ " (line " ++ toString start.line
      ++ ", field: " ++ toString field ++ ", byte: " ++ toString start.byte
      ++ "): invalid utf-8: invalid UTF-8 in field " ++ toString field
      ++ " near byte index " ++ toString byte

/-- What the next byte belongs to. -/
inductive Place where
  /-- Nothing of a record has been read. -/
  | betweenRecords
  | fieldStart
  | inField
  | inQuotes
  /-- After a quote in a quoted field, which may be the first half of a doubled one. -/
  | afterQuote
  deriving DecidableEq, Repr

/-- How far a file has been read. -/
structure Progress where
  place : Place
  /-- Where the record before this one ended. -/
  start : Position
  line : Nat
  byte : Nat
  /-- The bytes of this field, last one first. -/
  field : List UInt8
  /-- The earlier fields of this record, last one first. -/
  fields : List (List UInt8)

namespace Progress

/-- Adds a byte to the field. -/
def push (progress : Progress) (byte : UInt8) (place : Place) : Progress :=
  { progress with place := place, field := byte :: progress.field }

/-- Ends the field; another one follows. -/
def endField (progress : Progress) : Progress :=
  { progress with
    place := .fieldStart
    field := []
    fields := progress.field.reverse :: progress.fields }

/-- The record that ends here. -/
def record (progress : Progress) : RawRecord :=
  ⟨progress.start, (progress.field.reverse :: progress.fields).reverse⟩

/-- Ends the record. -/
def endRecord (progress : Progress) : Progress :=
  ⟨.betweenRecords, ⟨progress.start.record + 1, progress.line, progress.byte⟩, progress.line,
    progress.byte, [], []⟩

/-- Counts a byte as read. -/
def count (progress : Progress) (byte : UInt8) : Progress :=
  { progress with
    line := if byte = 0x0A then progress.line + 1 else progress.line
    byte := progress.byte + 1 }

end Progress

/-- A line feed or a carriage return. Each of them ends a record. -/
def isLineEnd (byte : UInt8) : Bool := byte == 0x0A || byte == 0x0D

/-- Reads a byte that ends the field or is part of it. -/
def readPlain (progress : Progress) (byte : UInt8) : Progress × Option RawRecord :=
  if byte = 0x2C then (progress.endField, none)
  else if isLineEnd byte then (progress.endRecord, some progress.record)
  else (progress.push byte .inField, none)

/-- Reads a byte, which may end a record. -/
def readByte (progress : Progress) (byte : UInt8) : Progress × Option RawRecord :=
  let progress := progress.count byte
  match progress.place with
  | .betweenRecords =>
    if isLineEnd byte then (progress, none)
    else if byte = 0x22 then ({ progress with place := .inQuotes }, none)
    else readPlain progress byte
  | .fieldStart =>
    if byte = 0x22 then ({ progress with place := .inQuotes }, none)
    else readPlain progress byte
  | .inField => readPlain progress byte
  | .inQuotes =>
    if byte = 0x22 then ({ progress with place := .afterQuote }, none)
    else (progress.push byte .inQuotes, none)
  | .afterQuote =>
    if byte = 0x22 then (progress.push byte .inQuotes, none)
    else readPlain progress byte

/-- Reads all bytes and collects the records, last one first. The end of the file also ends a
record. -/
def readBytes (progress : Progress) (records : List RawRecord) : List UInt8 → List RawRecord
  | [] =>
    match progress.place with
    | .betweenRecords => records
    | _ => progress.record :: records
  | byte :: rest =>
    match readByte progress byte with
    | (progress, some record) => readBytes progress (record :: records) rest
    | (progress, none) => readBytes progress records rest

/-- The records of a file. A byte order mark in front is no part of the first one. -/
def rawRecords (bytes : List UInt8) : List RawRecord :=
  let start (byte : Nat) : Progress := ⟨.betweenRecords, ⟨0, 1, 0⟩, 1, byte, [], []⟩
  let records :=
    match bytes with
    | 0xEF :: 0xBB :: 0xBF :: rest => readBytes (start 3) [] rest
    | _ => readBytes (start 0) [] bytes
  records.reverse

/-- The fields of a record as texts. -/
def decodeFields (start : Position) (number : Nat) :
    List (List UInt8) → Except Error (List String)
  | [] => .ok []
  | field :: rest =>
    match Utf8.decode field with
    | .error byte => .error (.encoding start number byte)
    | .ok text => (decodeFields start (number + 1) rest).map fun texts ↦ text :: texts

/-- The texts of a record. -/
def RawRecord.texts (record : RawRecord) : Except Error (List String) :=
  decodeFields record.start 0 record.fields

/-- The texts of a record that has to have a given count of fields. -/
def RawRecord.textsOf (record : RawRecord) (expected : Nat) : Except Error (List String) :=
  if record.fields.length = expected then record.texts
  else .error (.uneven record.start expected record.fields.length)

end Csv

/-- A table read from a text file; a record may be unreadable. -/
structure CsvTable where
  header : List String
  records : List (Except Csv.Error (List String))

/-- The table in a file. A file without records is a table without columns. -/
def CsvTable.read (bytes : List UInt8) : Except Csv.Error CsvTable :=
  match Csv.rawRecords bytes with
  | [] => .ok ⟨[], []⟩
  | first :: rest => do
    let header ← first.texts
    .ok ⟨header, rest.map fun record ↦ record.textsOf header.length⟩

end ColumnStore
