import ColumnStore.Managed.Backend
import ColumnStore.Memory.Object
import ColumnStore.Memory.Store

/-!
# The state of the in-process backend

Objects lie in slots, and the object with handle `n` lies in the `n`-th slot, counted from one. A
new object gets a new slot behind the others and a released slot stays vacant, so no handle is ever
given to a second object. Objects are reached through functions such as `Memory.reader`, which fail
in the way a call on a wrong target does.
-/

set_option autoImplicit false

namespace ColumnStore

/-- The state of the in-process backend. -/
structure Memory where
  store : Store
  /-- The objects by handle; a vacant slot belonged to a released object. -/
  slots : Array (Option ManagedObject)
  isShutDown : Bool

namespace Memory

/-- A backend over a store, without objects. -/
def start (store : Store) : Memory := ⟨store, #[], false⟩

/-- The object of a handle. -/
def object? (memory : Memory) (handle : Handle) : Option ManagedObject :=
  if handle = 0 then none else (memory.slots[handle - 1]?).join

/-- Gives the object of a handle in use a new state. -/
def put (memory : Memory) (handle : Handle) (object : ManagedObject) : Memory :=
  { memory with slots := memory.slots.setIfInBounds (handle - 1) (some object) }

/-- The handle that the next object gets. -/
def nextHandle (memory : Memory) : Handle := memory.slots.size + 1

/-- Keeps a new object, with the handle `nextHandle`. -/
def pin (memory : Memory) (object : ManagedObject) : Memory :=
  { memory with slots := memory.slots.push (some object) }

/-- Keeps new objects one after the other. -/
def pinAll (memory : Memory) (objects : List ManagedObject) : Memory :=
  objects.foldl pin memory

/-- Makes the slot of a handle vacant. -/
def vacate (memory : Memory) (handle : Handle) : Memory :=
  { memory with slots := memory.slots.setIfInBounds (handle - 1) none }

/-- The count of objects. -/
def liveObjects (memory : Memory) : Nat :=
  memory.slots.foldl (fun count slot ↦ if slot.isSome then count + 1 else count) 0

/-- The object of a handle, or the failure for a handle out of use. -/
def get (memory : Memory) (handle : Handle) : Except CallError ManagedObject :=
  match memory.object? handle with
  | some object => .ok object
  | none => .error (.invalidHandle handle)

/-- The failure of calling a method on an object of a class that does not have it. -/
def wrongTarget {α : Type} (method expected : String) (found : ManagedObject) :
    Except CallError α :=
  .error (.badArguments method ("target is a " ++ found.className ++ ", expected " ++ expected))

/-- The reader builder of a handle. -/
def readerBuilder (memory : Memory) (handle : Handle) (method : String) :
    Except CallError ReaderPlan := do
  match ← memory.get handle with
  | .readerBuilder plan => .ok plan
  | other => wrongTarget method "ReaderBuilder" other

/-- The reader of a handle. -/
def reader (memory : Memory) (handle : Handle) (method : String) :
    Except CallError ReaderState := do
  match ← memory.get handle with
  | .reader state => .ok state
  | other => wrongTarget method "Reader" other

/-- The row of a handle. -/
def row (memory : Memory) (handle : Handle) (method : String) : Except CallError RowState := do
  match ← memory.get handle with
  | .row state => .ok state
  | other => wrongTarget method "Row" other

/-- The writer builder of a handle. -/
def writerBuilder (memory : Memory) (handle : Handle) (method : String) :
    Except CallError WriterPlan := do
  match ← memory.get handle with
  | .writerBuilder plan => .ok plan
  | other => wrongTarget method "WriterBuilder" other

/-- The writer of a handle. -/
def writer (memory : Memory) (handle : Handle) (method : String) :
    Except CallError WriterState := do
  match ← memory.get handle with
  | .writer state => .ok state
  | other => wrongTarget method "Writer" other

/-- The schema of a handle. -/
def schema (memory : Memory) (handle : Handle) (method : String) : Except CallError Schema := do
  match ← memory.get handle with
  | .schema schema => .ok schema
  | other => wrongTarget method "Schema" other

/-- The column of a handle. -/
def field (memory : Memory) (handle : Handle) (method : String) : Except CallError Field := do
  match ← memory.get handle with
  | .field field => .ok field
  | other => wrongTarget method "Field" other

/-- The type of a handle. -/
def type (memory : Memory) (handle : Handle) (method : String) :
    Except CallError (DataType × Option DataType) := do
  match ← memory.get handle with
  | .type type element => .ok (type, element)
  | other => wrongTarget method "Type" other

/-- The configuration of a handle. -/
def configuration (memory : Memory) (handle : Handle) (method : String) :
    Except CallError (Dictionary String) := do
  match ← memory.get handle with
  | .configuration entries => .ok entries
  | other => wrongTarget method "Configuration" other

/-- Keeps a new object and returns it. -/
def returnNew (memory : Memory) (object : ManagedObject) : Reply Memory Returned :=
  let handle := memory.nextHandle
  .returned (memory.pin object) (.object (some handle))

/-- Keeps new objects and returns them. -/
def returnAll (memory : Memory) (objects : List ManagedObject) : Reply Memory Returned :=
  let handles := List.range' memory.nextHandle objects.length
  .returned (memory.pinAll objects) (.objects handles)

theorem object?_put_self {memory : Memory} {handle : Handle}
    (h : (memory.object? handle).isSome) (new : ManagedObject) :
    (memory.put handle new).object? handle = some new := by
  unfold object? at h
  split at h
  · simp at h
  · rename_i hne
    have hlt : handle - 1 < memory.slots.size := by
      by_cases hlt : handle - 1 < memory.slots.size
      · exact hlt
      · simp [Array.getElem?_eq_none (Nat.le_of_not_lt hlt)] at h
    simp [object?, put, hne, hlt]

theorem object?_pin_new (memory : Memory) (object : ManagedObject) :
    (memory.pin object).object? memory.nextHandle = some object := by
  simp [object?, pin, nextHandle]

end Memory

end ColumnStore
