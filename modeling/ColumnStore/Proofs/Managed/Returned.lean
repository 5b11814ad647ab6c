import ColumnStore.Managed.Returned

/-!
# What methods return

A method says what it returns. `Returned.isOf` tells whether a result is of that kind, and
`Returned.refusal?` is the failure that a result of another kind means. `Returned.Takes` says that a
function takes out what methods of a kind return and refuses everything else.
-/

set_option autoImplicit false

namespace ColumnStore

/-- The managed name of a kind of result. -/
def ReturnKind.name : ReturnKind → String
  | .nothing => "void"
  | .boolean => "boolean"
  | .short => "short"
  | .int => "int"
  | .long => "long"
  | .float => "float"
  | .double => "double"
  | .text => "String"
  | .object => "Object"
  | .objects => "Object[]"
  | .texts => "String[]"

namespace Returned

variable {α : Type}

/-- Is this what methods of a kind return? A null is no object. -/
def isOf : ReturnKind → Returned → Bool
  | .nothing, nothing | .boolean, boolean _ | .short, short _ | .int, int _ | .long, long _
  | .float, float _ | .double, double _ | .text, text _ | .object, object (some _)
  | .objects, objects _ | .texts, texts _ => true
  | _, _ => false

/-- The failure that a result means if it is not what the method returns. -/
def refusal? (method : Method) (returned : Returned) : Option CallError :=
  if returned.isOf method.returns then none
  else
    match method.returns, returned with
    | .object, object none => some (.exception nullPointer (method.name ++ " returned null"))
    | kind, _ => some (returned.unexpected method kind.name)

/-- `take` takes out what methods of a kind return, and fails with their refusal otherwise. -/
def Takes (kind : ReturnKind) (take : Method → Returned → Except CallError α) : Prop :=
  ∀ method returned, method.returns = kind →
    match take method returned with
    | .ok _ => returned.isOf kind = true
    | .error error => returned.refusal? method = some error

theorem takes_toNothing : Takes .nothing toNothing := by
  rintro ⟨_, _, _, returns, _⟩ returned (rfl : returns = .nothing)
  cases returned <;> exact rfl

theorem takes_toBoolean : Takes .boolean toBoolean := by
  rintro ⟨_, _, _, returns, _⟩ returned (rfl : returns = .boolean)
  cases returned <;> exact rfl

theorem takes_toShort : Takes .short toShort := by
  rintro ⟨_, _, _, returns, _⟩ returned (rfl : returns = .short)
  cases returned <;> exact rfl

theorem takes_toInt : Takes .int toInt := by
  rintro ⟨_, _, _, returns, _⟩ returned (rfl : returns = .int)
  cases returned <;> exact rfl

theorem takes_toLong : Takes .long toLong := by
  rintro ⟨_, _, _, returns, _⟩ returned (rfl : returns = .long)
  cases returned <;> exact rfl

theorem takes_toFloat : Takes .float toFloat := by
  rintro ⟨_, _, _, returns, _⟩ returned (rfl : returns = .float)
  cases returned <;> exact rfl

theorem takes_toDouble : Takes .double toDouble := by
  rintro ⟨_, _, _, returns, _⟩ returned (rfl : returns = .double)
  cases returned <;> exact rfl

theorem takes_toText : Takes .text toText := by
  rintro ⟨_, _, _, returns, _⟩ returned (rfl : returns = .text)
  cases returned <;> exact rfl

theorem takes_toObject : Takes .object toObject := by
  rintro ⟨_, _, _, returns, _⟩ returned (rfl : returns = .object)
  cases returned with
  | object handle => cases handle <;> exact rfl
  | _ => exact rfl

theorem takes_toObjects : Takes .objects toObjects := by
  rintro ⟨_, _, _, returns, _⟩ returned (rfl : returns = .objects)
  cases returned <;> exact rfl

theorem takes_toTexts : Takes .texts toTexts := by
  rintro ⟨_, _, _, returns, _⟩ returned (rfl : returns = .texts)
  cases returned <;> exact rfl

/-- A truth value is only taken out of a truth value. -/
theorem eq_boolean_of_toBoolean {method : Method} {returned : Returned} {b : Bool}
    (h : returned.toBoolean method = .ok b) : returned = .boolean b := by
  cases returned <;> cases h
  rfl

/-- An object is only taken out of an object. -/
theorem eq_object_of_toObject {method : Method} {returned : Returned} {handle : Handle}
    (h : returned.toObject method = .ok handle) : returned = .object (some handle) := by
  cases returned with
  | object found => cases found <;> cases h; rfl
  | _ => cases h

/-- A refusal names the method and looks at nothing else of it. -/
theorem refusal?_congr {method other : Method} (hname : method.name = other.name)
    (hreturns : method.returns = other.returns) (returned : Returned) :
    returned.refusal? method = returned.refusal? other := by
  obtain ⟨_, name, _, returns, _⟩ := method
  obtain ⟨_, otherName, _, otherReturns, _⟩ := other
  obtain rfl : name = otherName := hname
  obtain rfl : returns = otherReturns := hreturns
  rfl

/-- The only refusal that is an exception is that of a null where an object is expected. -/
theorem refusal?_eq_exception {method : Method} {returned : Returned} {className reason : String}
    (h : returned.refusal? method = some (.exception className reason)) :
    method.returns = .object ∧ className = nullPointer := by
  unfold refusal? at h
  split at h
  · cases h
  · split at h
    · rename_i hobject _
      exact ⟨hobject, by simp_all⟩
    · simp [unexpected] at h

end Returned

end ColumnStore
