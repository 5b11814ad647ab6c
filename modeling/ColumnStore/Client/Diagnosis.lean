import ColumnStore.Error
import ColumnStore.Managed.CallError

/-!
# From failed calls to errors

A failed managed call becomes an `Error` by what the client was doing. Exceptions are recognised by
their simple class name; every failure that is no exception is an error of the bridge.
-/

set_option autoImplicit false

namespace ColumnStore

/-- What a managed call is made for. -/
inductive Purpose where
  /-- Finishing a reader or writer builder over a path. -/
  | build (path : String)
  /-- Reading rows, of which there may be no more. -/
  | read
  /-- Getting a field of a row. -/
  | field (ordinal : Nat)
  | other
  deriving DecidableEq, Repr

/-- The error that an exception means. -/
def Error.ofException (operation : String) (purpose : Purpose) (className reason : String) :
    Error :=
  let simple := CallError.simpleName className
  let managed := Error.managed operation className reason
  match purpose with
  | .build path => .build path (simple ++ ": " ++ reason)
  | .read => if simple = "NoSuchElementException" then .exhausted else managed
  | .field ordinal =>
    if Text.finishesWith "IndexOutOfBoundsException" simple then .index ordinal reason
    else if simple = "ClassCastException"
        || (simple = "RuntimeException" && Text.contains "Only support Array type" reason) then
      .typeMismatch ordinal reason
    else managed
  | .other => managed

/-- The error that a failed call means. -/
def Error.ofCall (operation : String) (purpose : Purpose) : CallError → Error
  | .exception className reason => .ofException operation purpose className reason
  | other => .bridge (operation ++ ": " ++ other.message)

/-- Does the error say that managed code met a null? -/
def Error.isNullPointer : Error → Bool
  | .managed _ exception _ => CallError.simpleName exception == "NullPointerException"
  | _ => false

end ColumnStore
