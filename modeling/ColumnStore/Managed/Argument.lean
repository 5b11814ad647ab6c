import ColumnStore.Managed.CallError
import ColumnStore.Text.Shown

/-!
# Arguments of managed calls
-/

set_option autoImplicit false

namespace ColumnStore

/-- What is handed to a managed method. -/
inductive Argument where
  | text (content : String)
  | texts (items : List String)
  | int (n : Int32)
  | long (n : Int64)
  | boolean (b : Bool)
  | object (handle : Handle)
  deriving DecidableEq

namespace Argument

/-- The managed name of the kind of an argument. -/
def kindName : Argument → String
  | text _ => "String"
  | texts _ => "String[]"
  | int _ => "int"
  | long _ => "long"
  | boolean _ => "boolean"
  | object _ => "Object"

/-- An argument in a diagnostic. -/
def shown : Argument → String
  | text content => "Str(" ++ Text.shown content ++ ")"
  | texts items => "StrArray(" ++ Text.shownList items ++ ")"
  | int n => "Int(" ++ toString n.toInt ++ ")"
  | long n => "Long(" ++ toString n.toInt ++ ")"
  | boolean b => "Bool(" ++ (if b then "true" else "false") ++ ")"
  | object handle => "Object(ObjectRef(" ++ toString handle ++ "))"

/-- An argument that may be missing, in a diagnostic. -/
def shownOption : Option Argument → String
  | some argument => "Some(" ++ argument.shown ++ ")"
  | none => "None"

/-- The failure of finding something else than `expected` at a position. -/
def mismatch (position : Nat) (method expected : String) (found : Option Argument) : CallError :=
  .badArguments method
    ("argument " ++ toString position ++ " must be " ++ expected ++ ", got " ++ shownOption found)

/-- The text at a position. -/
def textAt (arguments : List Argument) (position : Nat) (method : String) :
    Except CallError String :=
  match arguments[position]? with
  | some (text content) => .ok content
  | found => .error (mismatch position method "String" found)

/-- The texts at a position. -/
def textsAt (arguments : List Argument) (position : Nat) (method : String) :
    Except CallError (List String) :=
  match arguments[position]? with
  | some (texts items) => .ok items
  | found => .error (mismatch position method "String[]" found)

/-- The number of 32 bits at a position. -/
def intAt (arguments : List Argument) (position : Nat) (method : String) : Except CallError Int32 :=
  match arguments[position]? with
  | some (int n) => .ok n
  | found => .error (mismatch position method "int" found)

/-- The number of 64 bits at a position. -/
def longAt (arguments : List Argument) (position : Nat) (method : String) :
    Except CallError Int64 :=
  match arguments[position]? with
  | some (long n) => .ok n
  | found => .error (mismatch position method "long" found)

/-- The handle at a position. -/
def objectAt (arguments : List Argument) (position : Nat) (method : String) :
    Except CallError Handle :=
  match arguments[position]? with
  | some (object handle) => .ok handle
  | found => .error (mismatch position method "an object" found)

end Argument

end ColumnStore
