import ColumnStore.Csv.Table
import ColumnStore.Error

/-!
# Errors of the command-line tool

What can stop the tool: an error of the library, or one of its files, of its output or of the
choice of a backend.
-/

set_option autoImplicit false

namespace ColumnStore

/-- Why the tool stops. -/
inductive ToolError where
  /-- The session file cannot be read. -/
  | unreadable (path reason : String)
  /-- The session file holds something else than settings. -/
  | invalidSession (path : String)
  | csv (error : Csv.Error)
  /-- The output does not take what is written. -/
  | output (reason : String)
  /-- The tool has been built without this backend. -/
  | unavailable (backend : String)
  | library (error : Error)
  deriving DecidableEq, Repr

namespace ToolError

/-- The error as one line of text. -/
def message : ToolError → String
  | unreadable path reason => "cannot read session file '" ++ path ++ "': " ++ reason
  | invalidSession path => "invalid session file '" ++ path ++ "'"
  | csv error => "csv input: " ++ error.message
  | output reason => "cannot write output: " ++ reason
  | unavailable backend =>
    "backend '" ++ backend
      ++ "' is not available in this build (rebuild with --features " ++ backend ++ ")"
  | library error => error.message

/-- What a user may try. -/
def suggestions : ToolError → List String
  | unreadable _ _ => ["Check the --config path"]
  | invalidSession _ =>
    ["The session file has \x60backend_kind\x60, \x60runtime\x60 and \x60backend\x60 sections"]
  | csv _ => ["The first CSV line must be a header naming every column"]
  | output _ => []
  | unavailable _ => ["Use --backend memory"]
  | library error => error.suggestions

end ToolError

end ColumnStore
