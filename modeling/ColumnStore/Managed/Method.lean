/-!
# Managed methods

A `Method` names one method of the managed side by its class, its name and its signature, and says
how it is invoked and what it returns.
-/

set_option autoImplicit false

namespace ColumnStore

/-- What a managed method returns. -/
inductive ReturnKind where
  | nothing
  | boolean
  | short
  | int
  | long
  | float
  | double
  /-- A text, copied at once. -/
  | text
  /-- An object, of which the caller gets a handle. -/
  | object
  /-- A row of objects, with a handle for each. -/
  | objects
  /-- A row of objects, each as its text. -/
  | texts
  deriving DecidableEq, Repr

/-- How a managed method is invoked. -/
inductive MethodKind where
  | onClass
  | onObject
  | constructor
  deriving DecidableEq, Repr

/-- The word for a way of invoking. -/
def MethodKind.name : MethodKind → String
  | .onClass => "Static"
  | .onObject => "Instance"
  | .constructor => "Constructor"

/-- A managed method. -/
structure Method where
  className : String
  name : String
  signature : String
  returns : ReturnKind
  kind : MethodKind
  deriving DecidableEq, Repr

end ColumnStore
