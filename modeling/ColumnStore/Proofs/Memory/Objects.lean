import ColumnStore.Memory.Reading
import Mathlib.Logic.Basic
import Mathlib.Tactic.ByContra

/-!
# Objects and their handles

What `Memory.put`, `pin`, `pinAll` and `vacate` do to the object of a handle, and what a change of
the store does not do to it. A handle in use is above zero and below `Memory.nextHandle`, so a new
object never gets the handle of another one. A call finds its target exactly if the handle is that
of an object of the class it is called on.
-/

set_option autoImplicit false

namespace ColumnStore.Memory

variable {memory : Memory} {handle other : Nat}

@[simp] theorem object?_zero (memory : Memory) : memory.object? 0 = none := rfl

theorem ne_zero_of_object? {object : ManagedObject} (h : memory.object? handle = some object) :
    handle ≠ 0 := by
  rintro rfl
  simp at h

theorem lt_nextHandle_of_object? {object : ManagedObject}
    (h : memory.object? handle = some object) : handle < memory.nextHandle := by
  by_contra hge
  have hzero := ne_zero_of_object? h
  have hsize : memory.slots.size ≤ handle - 1 := by
    simp only [nextHandle] at hge
    omega
  simp [object?, hzero, Array.getElem?_eq_none hsize] at h

/-- Nothing lies behind a handle that has not been given yet. -/
theorem object?_of_nextHandle_le (h : memory.nextHandle ≤ handle) :
    memory.object? handle = none := by
  by_contra hsome
  obtain ⟨object, hobject⟩ := Option.ne_none_iff_exists'.mp hsome
  exact Nat.not_lt.mpr h (lt_nextHandle_of_object? hobject)

/-- The object of a handle lies in the slot before it. -/
theorem object?_of_ne_zero (h : handle ≠ 0) :
    memory.object? handle = (memory.slots[handle - 1]?).join := by
  simp [object?, h]

/-! ### Changing an object -/

theorem object?_put_of_ne (hzero : handle ≠ 0) (hne : other ≠ handle) (object : ManagedObject) :
    (memory.put handle object).object? other = memory.object? other := by
  by_cases hother : other = 0
  · subst hother
    rfl
  · have hslot : handle - 1 ≠ other - 1 := by omega
    simp [object?_of_ne_zero hother, put, hslot]

@[simp] theorem nextHandle_put (memory : Memory) (handle : Nat) (object : ManagedObject) :
    (memory.put handle object).nextHandle = memory.nextHandle := by
  simp [nextHandle, put]

@[simp] theorem isShutDown_put (memory : Memory) (handle : Nat) (object : ManagedObject) :
    (memory.put handle object).isShutDown = memory.isShutDown := rfl

@[simp] theorem store_put (memory : Memory) (handle : Nat) (object : ManagedObject) :
    (memory.put handle object).store = memory.store := rfl

/-- What lies at a handle after a change lay there before or is the object's new state. -/
theorem object?_put_or {object found : ManagedObject}
    (h : (memory.put handle object).object? other = some found) :
    memory.object? other = some found ∨ found = object := by
  have hother := ne_zero_of_object? h
  rw [object?_of_ne_zero hother] at h ⊢
  by_cases hslot : handle - 1 = other - 1
  · simp only [put, hslot, Array.getElem?_setIfInBounds_self] at h
    split at h
    · exact .inr (Option.some.inj h).symm
    · cases h
  · simp only [put, Array.getElem?_setIfInBounds_ne hslot] at h
    exact .inl h

/-! ### Keeping new objects -/

theorem object?_pin_of_lt (h : other < memory.nextHandle) (object : ManagedObject) :
    (memory.pin object).object? other = memory.object? other := by
  by_cases hother : other = 0
  · subst hother
    rfl
  · have hslot : other - 1 < memory.slots.size := by
      simp only [nextHandle] at h
      omega
    simp [object?_of_ne_zero hother, pin, Array.getElem?_push_lt hslot, hslot]

theorem object?_pin_or {object found : ManagedObject}
    (h : (memory.pin object).object? other = some found) :
    memory.object? other = some found ∨ found = object := by
  have hother := ne_zero_of_object? h
  rw [object?_of_ne_zero hother] at h ⊢
  simp only [pin, Array.getElem?_push] at h
  split at h
  · exact .inr (Option.some.inj h).symm
  · exact .inl h

@[simp] theorem nextHandle_pin (memory : Memory) (object : ManagedObject) :
    (memory.pin object).nextHandle = memory.nextHandle + 1 := by
  simp [nextHandle, pin]

@[simp] theorem isShutDown_pin (memory : Memory) (object : ManagedObject) :
    (memory.pin object).isShutDown = memory.isShutDown := rfl

@[simp] theorem store_pin (memory : Memory) (object : ManagedObject) :
    (memory.pin object).store = memory.store := rfl

@[simp] theorem nextHandle_pinAll (memory : Memory) (objects : List ManagedObject) :
    (memory.pinAll objects).nextHandle = memory.nextHandle + objects.length := by
  induction objects generalizing memory with
  | nil => rfl
  | cons object rest ih =>
    change ((memory.pin object).pinAll rest).nextHandle = _
    rw [ih, nextHandle_pin, List.length_cons]
    exact Nat.succ_add_eq_add_succ memory.nextHandle rest.length

@[simp] theorem isShutDown_pinAll (memory : Memory) (objects : List ManagedObject) :
    (memory.pinAll objects).isShutDown = memory.isShutDown := by
  induction objects generalizing memory with
  | nil => rfl
  | cons object rest ih => exact ih (memory.pin object)

@[simp] theorem store_pinAll (memory : Memory) (objects : List ManagedObject) :
    (memory.pinAll objects).store = memory.store := by
  induction objects generalizing memory with
  | nil => rfl
  | cons object rest ih => exact ih (memory.pin object)

theorem object?_pinAll_of_lt (h : other < memory.nextHandle) (objects : List ManagedObject) :
    (memory.pinAll objects).object? other = memory.object? other := by
  induction objects generalizing memory with
  | nil => rfl
  | cons object rest ih =>
    have hlt : other < (memory.pin object).nextHandle := by
      rw [nextHandle_pin]
      omega
    exact (ih hlt).trans (object?_pin_of_lt h object)

theorem object?_pinAll_or {objects : List ManagedObject} {found : ManagedObject}
    (h : (memory.pinAll objects).object? other = some found) :
    memory.object? other = some found ∨ found ∈ objects := by
  induction objects generalizing memory with
  | nil => exact .inl h
  | cons object rest ih =>
    rcases ih h with hpin | hrest
    · rcases object?_pin_or hpin with hold | hnew
      · exact .inl hold
      · exact .inr (hnew ▸ List.mem_cons_self)
    · exact .inr (List.mem_cons_of_mem _ hrest)

/-- New objects lie behind the handles that follow one another from `nextHandle` on. -/
theorem map_object?_pinAll (memory : Memory) (objects : List ManagedObject) :
    (List.range' memory.nextHandle objects.length).map (memory.pinAll objects).object? =
      objects.map some := by
  induction objects generalizing memory with
  | nil => rfl
  | cons object rest ih =>
    have hfirst : ((memory.pin object).pinAll rest).object? memory.nextHandle = some object := by
      rw [object?_pinAll_of_lt (by simp), object?_pin_new]
    have hrest := ih (memory.pin object)
    rw [nextHandle_pin] at hrest
    rw [List.length_cons, List.range'_succ, List.map_cons, List.map_cons]
    exact congrArg₂ List.cons hfirst hrest

/-! ### Giving up an object -/

theorem object?_vacate_self (memory : Memory) (handle : Nat) :
    (memory.vacate handle).object? handle = none := by
  by_cases hzero : handle = 0
  · subst hzero
    rfl
  · by_cases hsize : handle - 1 < memory.slots.size <;>
      simp [object?_of_ne_zero hzero, vacate, hsize]

theorem object?_vacate_of_ne (hzero : handle ≠ 0) (hne : other ≠ handle) :
    (memory.vacate handle).object? other = memory.object? other := by
  by_cases hother : other = 0
  · subst hother
    rfl
  · have hslot : handle - 1 ≠ other - 1 := by omega
    simp [object?_of_ne_zero hother, vacate, hslot]

theorem object?_of_object?_vacate {found : ManagedObject}
    (h : (memory.vacate handle).object? other = some found) :
    memory.object? other = some found := by
  have hother := ne_zero_of_object? h
  rw [object?_of_ne_zero hother] at h ⊢
  by_cases hslot : handle - 1 = other - 1
  · simp only [vacate, hslot, Array.getElem?_setIfInBounds_self] at h
    split at h <;> cases h
  · simp only [vacate, Array.getElem?_setIfInBounds_ne hslot] at h
    exact h

@[simp] theorem nextHandle_vacate (memory : Memory) (handle : Nat) :
    (memory.vacate handle).nextHandle = memory.nextHandle := by
  simp [nextHandle, vacate]

/-! ### Changing the store -/

@[simp] theorem object?_store (memory : Memory) (store : Store) :
    ({ memory with store := store } : Memory).object? = memory.object? := rfl

@[simp] theorem nextHandle_store (memory : Memory) (store : Store) :
    ({ memory with store := store } : Memory).nextHandle = memory.nextHandle := rfl

/-! ### What holds of all objects -/

/-- Something holds of every object in use. -/
def All (holds : ManagedObject → Prop) (memory : Memory) : Prop :=
  ∀ handle object, memory.object? handle = some object → holds object

section All

variable {holds : ManagedObject → Prop} {object : ManagedObject}

theorem all_start (store : Store) : (start store).All holds := by
  intro handle object h
  simp [start, object?] at h

theorem All.put (h : memory.All holds) (handle : Nat) (hobject : holds object) :
    (memory.put handle object).All holds := by
  intro other found hfound
  rcases object?_put_or hfound with hold | rfl
  · exact h other found hold
  · exact hobject

theorem All.pin (h : memory.All holds) (hobject : holds object) :
    (memory.pin object).All holds := by
  intro other found hfound
  rcases object?_pin_or hfound with hold | rfl
  · exact h other found hold
  · exact hobject

theorem All.pinAll (h : memory.All holds) {objects : List ManagedObject}
    (hobjects : ∀ object ∈ objects, holds object) : (memory.pinAll objects).All holds := by
  intro other found hfound
  rcases object?_pinAll_or hfound with hold | hnew
  · exact h other found hold
  · exact hobjects found hnew

/-- What holds of all objects holds of all that are left. -/
theorem All.of_loses (h : memory.All holds) {after : Memory}
    (hloses : ∀ handle object, after.object? handle = some object →
      memory.object? handle = some object) : after.All holds :=
  fun handle object hobject ↦ h handle object (hloses handle object hobject)

end All

/-! ### The target of a call -/

section Target

variable {method : String}

/-- A call that narrows its target down to one class finds it if the object is of that class. -/
theorem narrowed_eq_ok_iff {α : Type} {narrow : ManagedObject → Except CallError α}
    {wrap : α → ManagedObject} {found : α}
    (hnarrow : ∀ object, narrow object = .ok found ↔ object = wrap found) :
    (memory.get handle >>= narrow) = .ok found ↔ memory.object? handle = some (wrap found) := by
  unfold get
  cases memory.object? handle with
  | none => simp [bind, Except.bind]
  | some object => simpa [bind, Except.bind] using hnarrow object

theorem readerBuilder_eq_ok_iff {plan : ReaderPlan} :
    memory.readerBuilder handle method = .ok plan ↔
      memory.object? handle = some (.readerBuilder plan) :=
  narrowed_eq_ok_iff fun object ↦ by cases object <;> simp [wrongTarget]

theorem reader_eq_ok_iff {state : ReaderState} :
    memory.reader handle method = .ok state ↔ memory.object? handle = some (.reader state) :=
  narrowed_eq_ok_iff fun object ↦ by cases object <;> simp [wrongTarget]

theorem row_eq_ok_iff {state : RowState} :
    memory.row handle method = .ok state ↔ memory.object? handle = some (.row state) :=
  narrowed_eq_ok_iff fun object ↦ by cases object <;> simp [wrongTarget]

theorem writerBuilder_eq_ok_iff {plan : WriterPlan} :
    memory.writerBuilder handle method = .ok plan ↔
      memory.object? handle = some (.writerBuilder plan) :=
  narrowed_eq_ok_iff fun object ↦ by cases object <;> simp [wrongTarget]

theorem writer_eq_ok_iff {state : WriterState} :
    memory.writer handle method = .ok state ↔ memory.object? handle = some (.writer state) :=
  narrowed_eq_ok_iff fun object ↦ by cases object <;> simp [wrongTarget]

theorem schema_eq_ok_iff {found : Schema} :
    memory.schema handle method = .ok found ↔ memory.object? handle = some (.schema found) :=
  narrowed_eq_ok_iff fun object ↦ by cases object <;> simp [wrongTarget]

theorem field_eq_ok_iff {found : Field} :
    memory.field handle method = .ok found ↔ memory.object? handle = some (.field found) :=
  narrowed_eq_ok_iff fun object ↦ by cases object <;> simp [wrongTarget]

theorem type_eq_ok_iff {found : DataType × Option DataType} :
    memory.type handle method = .ok found ↔
      memory.object? handle = some (.type found.1 found.2) :=
  @narrowed_eq_ok_iff memory handle _ _ (fun pair ↦ .type pair.1 pair.2) found fun object ↦ by
    cases object <;> simp [wrongTarget, Prod.ext_iff]

theorem configuration_eq_ok_iff {entries : Dictionary String} :
    memory.configuration handle method = .ok entries ↔
      memory.object? handle = some (.configuration entries) :=
  narrowed_eq_ok_iff fun object ↦ by cases object <;> simp [wrongTarget]

/-- A reader that rows can be read from is one that is not closed. -/
theorem openReaderOf_eq_ok_iff {state : ReaderState} :
    memory.openReaderOf handle method = .ok state ↔
      memory.object? handle = some (.reader state) ∧ state.closed = false := by
  rw [← @reader_eq_ok_iff memory handle method]
  unfold openReaderOf
  cases memory.reader handle method with
  | error error => simp [bind, Except.bind]
  | ok found =>
    cases hclosed : found.closed <;> simp [bind, Except.bind, hclosed]
    · rintro rfl
      exact hclosed
    · rintro rfl
      exact hclosed

end Target

end ColumnStore.Memory
