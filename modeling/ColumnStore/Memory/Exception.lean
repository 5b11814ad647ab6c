import ColumnStore.Managed.CallError

/-!
# Exceptions of the in-process backend
-/

set_option autoImplicit false

namespace ColumnStore

namespace CallError

/-- An argument that a method does not accept. -/
def illegalArgument (reason : String) : CallError :=
  exception "java.lang.IllegalArgumentException" reason

/-- A method that the object's state does not allow. -/
def illegalState (reason : String) : CallError :=
  exception "java.lang.IllegalStateException" reason

/-- A path without the files that are needed. -/
def fileNotFound (reason : String) : CallError :=
  exception "java.io.FileNotFoundException" reason

/-- A remote path without credentials. -/
def accessDenied (reason : String) : CallError :=
  exception "java.nio.file.AccessDeniedException" reason

/-- The end of the rows. -/
def noMoreRows : CallError :=
  exception "java.util.NoSuchElementException" "no more rows"

/-- A position outside of a row. -/
def indexOutOfBounds (position : Int) (length : Nat) : CallError :=
  exception "java.lang.ArrayIndexOutOfBoundsException"
    ("Index " ++ toString position ++ " out of bounds for length " ++ toString length)

/-- An object of class `found` where one of class `wanted` is needed. -/
def classCast (found wanted : String) : CallError :=
  exception "java.lang.ClassCastException" (found ++ " cannot be cast to " ++ wanted)

/-- A null where a value is needed. -/
def nullValue (method : String) (position : Nat) : CallError :=
  exception "java.lang.NullPointerException"
    (method ++ "(" ++ toString position ++ ") on a null value")

/-- A text that is no number. -/
def numberFormat (reason : String) : CallError :=
  exception "java.lang.NumberFormatException" reason

/-- The type of the items of something that is no array. -/
def notAnArray : CallError :=
  exception "java.lang.RuntimeException" "Only support Array type."

end CallError

end ColumnStore
