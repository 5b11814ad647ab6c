import ColumnStore.Binary.Basic
import ColumnStore.Managed.CallError

/-!
# Results of managed calls

A call returns a value of one of eleven kinds, and a caller that expects a kind takes the value out
with the function for that kind. A null where an object is expected counts as an exception of the
managed side.
-/

set_option autoImplicit false

namespace ColumnStore

/-- What a managed method returned. -/
inductive Returned where
  | nothing
  | boolean (b : Bool)
  | short (n : Int16)
  | int (n : Int32)
  | long (n : Int64)
  | float (x : Binary32)
  | double (x : Binary64)
  | text (content : Option String)
  | object (handle : Option Handle)
  | objects (handles : List Handle)
  | texts (items : List (Option String))
  deriving DecidableEq

namespace Returned

/-- The managed name of the kind of a result. -/
def kindName : Returned → String
  | nothing => "void"
  | boolean _ => "boolean"
  | short _ => "short"
  | int _ => "int"
  | long _ => "long"
  | float _ => "float"
  | double _ => "double"
  | text _ => "String"
  | object _ => "Object"
  | objects _ => "Object[]"
  | texts _ => "String[]"

/-- The failure of getting this result where another kind is expected. -/
def unexpected (returned : Returned) (method : Method) (expected : String) : CallError :=
  .unexpectedReturn method.name expected returned.kindName

/-- The full name of the exception for a null. -/
def nullPointer : String := "java.lang.NullPointerException"

/-- Takes out nothing. -/
def toNothing (method : Method) : Returned → Except CallError Unit
  | nothing => .ok ()
  | other => .error (other.unexpected method "void")

/-- Takes out a truth value. -/
def toBoolean (method : Method) : Returned → Except CallError Bool
  | boolean b => .ok b
  | other => .error (other.unexpected method "boolean")

/-- Takes out a number of 16 bits. -/
def toShort (method : Method) : Returned → Except CallError Int16
  | short n => .ok n
  | other => .error (other.unexpected method "short")

/-- Takes out a number of 32 bits. -/
def toInt (method : Method) : Returned → Except CallError Int32
  | int n => .ok n
  | other => .error (other.unexpected method "int")

/-- Takes out a number of 64 bits. -/
def toLong (method : Method) : Returned → Except CallError Int64
  | long n => .ok n
  | other => .error (other.unexpected method "long")

/-- Takes out a single-precision number. -/
def toFloat (method : Method) : Returned → Except CallError Binary32
  | float x => .ok x
  | other => .error (other.unexpected method "float")

/-- Takes out a double-precision number. -/
def toDouble (method : Method) : Returned → Except CallError Binary64
  | double x => .ok x
  | other => .error (other.unexpected method "double")

/-- Takes out a text, which may be null. -/
def toText (method : Method) : Returned → Except CallError (Option String)
  | text content => .ok content
  | other => .error (other.unexpected method "String")

/-- Takes out an object, which must not be null. -/
def toObject (method : Method) : Returned → Except CallError Handle
  | object (some handle) => .ok handle
  | object none => .error (.exception nullPointer (method.name ++ " returned null"))
  | other => .error (other.unexpected method "Object")

/-- Takes out a row of objects. -/
def toObjects (method : Method) : Returned → Except CallError (List Handle)
  | objects handles => .ok handles
  | other => .error (other.unexpected method "Object[]")

/-- Takes out a row of texts. -/
def toTexts (method : Method) : Returned → Except CallError (List (Option String))
  | texts items => .ok items
  | other => .error (other.unexpected method "String[]")

end Returned

end ColumnStore
