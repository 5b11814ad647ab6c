import ColumnStore.Text.Cut

/-!
# Errors

Everything that can go wrong in the library, as causes. `Error.message` writes an error out,
`Error.suggestions` says what a user may try, and both look through the layers that
`Error.context` puts around a cause. Running out of rows is the one error that a reading loop
expects; `Error.isEndOfData` recognises it.
-/

set_option autoImplicit false

namespace ColumnStore

/-- What may be closed while someone still uses it. -/
inductive Closable where
  | reader
  | writer
  deriving DecidableEq, Repr

/-- The name of a closable thing in messages. -/
def Closable.name : Closable → String
  | .reader => "reader"
  | .writer => "writer"

/-- What went wrong. -/
inductive Error where
  /-- The managed side could not be started. -/
  | startup (reason : String)
  /-- A reader or writer builder over `path` could not be finished. -/
  | build (path reason : String)
  /-- A row was asked for and none is left. -/
  | exhausted
  /-- A row has no field with this ordinal. -/
  | index (ordinal : Nat) (reason : String)
  /-- A getter does not fit the column's type. -/
  | typeMismatch (ordinal : Nat) (reason : String)
  /-- A closed reader or writer was used. -/
  | closed (what : Closable)
  /-- A setting is not usable. -/
  | config (reason : String)
  /-- A schema, a type or a cell is not usable. -/
  | schema (reason : String)
  /-- Any other exception of the managed side. -/
  | managed (operation exception reason : String)
  /-- The call itself failed, outside of any managed code. -/
  | bridge (reason : String)
  /-- Another error, and what was being done. -/
  | context (activity : String) (source : Error)
  deriving DecidableEq, Repr

namespace Error

/-- The error as one line of text. -/
def message : Error → String
  | startup reason => "runtime startup failed: " ++ reason
  | build path reason => "build failed for '" ++ path ++ "': " ++ reason
  | exhausted => "no more rows to read"
  | index ordinal reason => "index error at ordinal " ++ toString ordinal ++ ": " ++ reason
  | typeMismatch ordinal reason =>
    "type mismatch at ordinal " ++ toString ordinal ++ ": " ++ reason
  | closed what => what.name ++ " is closed"
  | config reason => "invalid configuration: " ++ reason
  | schema reason => "schema error: " ++ reason
  | managed operation exception reason =>
    operation ++ " failed with " ++ exception ++ ": " ++ reason
  | bridge reason => "bridge error: " ++ reason
  | context activity source => activity ++ ": " ++ source.message

/-- The error below all layers of context. -/
def cause : Error → Error
  | context _ source => source.cause
  | error => error

/-- Does the error say that all rows have been read? -/
def isEndOfData : Error → Bool
  | exhausted => true
  | context _ source => source.isEndOfData
  | _ => false

/-- Advice on a failed build, chosen by what the reason mentions. -/
def buildAdvice (path reason : String) : List String :=
  if Text.contains "Access" reason || Text.contains "access.key" reason then
    ["Set fs.s3a.access.key, fs.s3a.secret.key and fs.s3a.endpoint",
      "Verify the credentials can read '" ++ path ++ "'"]
  else if Text.contains "column" reason || Text.contains "projection" reason then
    ["Check that the column name is spelled correctly",
      "Verify the column exists in the table schema"]
  else ["Verify that '" ++ path ++ "' exists and contains carbondata files"]

/-- Advice on a failed start. -/
def startupAdvice (reason : String) : List String :=
  "Check that the SDK jar is on the classpath (CARBONR_CLASSPATH)" ::
    if Text.contains "already" reason then
      ["Only one runtime may be started per process; reuse the existing handle"]
    else []

/-- What a user may try. -/
def suggestions : Error → List String
  | startup reason => startupAdvice reason
  | build path reason => buildAdvice path reason
  | index _ _ => ["Use getLength() to find the number of fields in the row"]
  | typeMismatch _ _ => ["Check getDataTypeName(ordinal) before calling a typed getter"]
  | closed _ => ["Build a new reader/writer; closed handles cannot be reused"]
  | context _ source => source.suggestions
  | _ => []

@[simp] theorem isEndOfData_context (activity : String) (source : Error) :
    (context activity source).isEndOfData = source.isEndOfData := rfl

theorem isEndOfData_iff_cause (error : Error) :
    error.isEndOfData = true ↔ error.cause = exhausted := by
  induction error with
  | context activity source ih => simpa [cause, isEndOfData] using ih
  | _ => simp [cause, isEndOfData]

end Error

end ColumnStore
