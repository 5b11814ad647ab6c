import ColumnStore.Managed.Method
import ColumnStore.Text.Cut

/-!
# Failed calls

A `CallError` is the way in which a call to the managed side fails: with an exception, or before
any managed code runs.
-/

set_option autoImplicit false

namespace ColumnStore

/-- The number under which the managed side keeps an object for the native side. -/
abbrev Handle := Nat

/-- Why a managed call failed. -/
inductive CallError where
  /-- Managed code threw an exception. -/
  | exception (className reason : String)
  /-- No object has this handle. -/
  | invalidHandle (handle : Handle)
  /-- The managed library has no such method. -/
  | noSuchMethod (className name signature : String)
  /-- The arguments do not fit the method. -/
  | badArguments (method reason : String)
  /-- The method returned something of another kind. -/
  | unexpectedReturn (method expected got : String)
  /-- The managed side could not be started. -/
  | startup (reason : String)
  /-- The managed side has been shut down. -/
  | shutDown
  deriving DecidableEq, Repr

namespace CallError

/-- The failure as one line of text. -/
def message : CallError → String
  | exception className reason => className ++ ": " ++ reason
  | invalidHandle handle => "invalid object reference #" ++ toString handle
  | noSuchMethod className name signature =>
    "no such method " ++ className ++ "." ++ name ++ signature
  | badArguments method reason => "bad arguments for " ++ method ++ ": " ++ reason
  | unexpectedReturn method expected got =>
    method ++ " returned " ++ got ++ ", expected " ++ expected
  | startup reason => "runtime startup failed: " ++ reason
  | shutDown => "runtime is shut down"

/-- The full class name of the exception, if the failure is one. -/
def exceptionClass? : CallError → Option String
  | exception className _ => some className
  | _ => none

/-- The part of a class name behind its last dot, slash or dollar sign. -/
def simpleName (className : String) : String :=
  let isSeparator (c : Char) : Bool := c == '.' || c == '/' || c == '$'
  String.ofList (className.toList.reverse.takeWhile fun c ↦ !isSeparator c).reverse

/-- Is the failure an exception whose simple class name ends with `tail`? -/
def isException (tail : String) (error : CallError) : Bool :=
  match error.exceptionClass? with
  | some className => Text.finishesWith tail (simpleName className)
  | none => false

end CallError

/-- The failure of calling a method that the managed library does not have. -/
def Method.missing (method : Method) : CallError :=
  .noSuchMethod method.className method.name method.signature

end ColumnStore
