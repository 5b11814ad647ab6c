import ColumnStore.Proofs.Memory.Effect

/-!
# Calls one after the other

A `Call` is anything that can be asked of a backend, and `Memory.after` is the in-process backend
after a sequence of calls. A call fails without a trace, or it is counted and has one of the effects
of an operation. Either way an object that is not the target of a call keeps its state, and handles
are only ever added.
-/

set_option autoImplicit false

namespace ColumnStore

/-- A call of a backend. -/
inductive Call where
  | construct (method : Method) (arguments : List Argument)
  | onClass (method : Method) (arguments : List Argument)
  | onObject (handle : Handle) (method : Method) (arguments : List Argument)
  | release (handle : Handle)
  | shutdown

/-- The call is not made on the object, does not give it up and does not shut the backend down. -/
def Call.spares (handle : Handle) : Call → Prop
  | .construct _ _ | .onClass _ _ => True
  | .onObject target _ _ => target ≠ handle
  | .release target => target ≠ handle
  | .shutdown => False

/-- The call invokes a method in a way, on a target or without one. -/
def Call.IsInvocation (kind : MethodKind) (target : Option Handle) (method : Method) : Call → Prop
  | .construct called _ => kind = .constructor ∧ target = none ∧ method = called
  | .onClass called _ => kind = .onClass ∧ target = none ∧ method = called
  | .onObject handle called _ => kind = .onObject ∧ target = some handle ∧ method = called
  | .release _ | .shutdown => False

@[simp] theorem Reply.state_andThen {σ α β : Type} (reply : Reply σ α)
    (next : α → Except CallError β) : (reply.andThen next).state = reply.state := by
  obtain ⟨outcome, state, events⟩ := reply
  cases outcome with
  | returned result => cases hnext : next result <;> simp [Reply.andThen, hnext]
  | failed error => rfl
  | crashed => rfl

namespace Memory

/-- The reply of the in-process backend to a call. -/
def reply (memory : Memory) : Call → Reply Memory Returned
  | .construct method arguments =>
    (backend.construct method arguments memory).andThen fun handle ↦ .ok (.object (some handle))
  | .onClass method arguments => backend.callStatic method arguments memory
  | .onObject handle method arguments => backend.call handle method arguments memory
  | .release handle => (backend.release handle memory).andThen fun _ ↦ .ok .nothing
  | .shutdown => (backend.shutdown memory).andThen fun _ ↦ .ok .nothing

/-- The backend after calls, the first one first. -/
def after (memory : Memory) (calls : List Call) : Memory :=
  calls.foldl (fun memory call ↦ (memory.reply call).state) memory

/-- The backend once a call of a method has been counted. -/
def counting (memory : Memory) (method : Method) : Memory :=
  { memory with store := memory.store.countCall method }

@[simp] theorem after_nil (memory : Memory) : memory.after [] = memory := rfl

@[simp] theorem after_cons (memory : Memory) (call : Call) (calls : List Call) :
    memory.after (call :: calls) = (memory.reply call).state.after calls := rfl

@[simp] theorem object?_counting (memory : Memory) (method : Method) :
    (memory.counting method).object? = memory.object? := rfl

@[simp] theorem nextHandle_counting (memory : Memory) (method : Method) :
    (memory.counting method).nextHandle = memory.nextHandle := rfl

@[simp] theorem isShutDown_counting (memory : Memory) (method : Method) :
    (memory.counting method).isShutDown = memory.isShutDown := rfl

@[simp] theorem commits_counting (memory : Memory) (method : Method) :
    (memory.counting method).store.commits = memory.store.commits := rfl

end Memory

/-- No two operations share a method. -/
theorem Operation.ofMethod?_method (operation : Operation) :
    ofMethod? operation.method = some operation := by
  have hall : ∀ operation ∈ all, ofMethod? operation.method = some operation := by
    decide +kernel
  exact hall operation (mem_all operation)

theorem Operation.method_injective : Function.Injective Operation.method := by
  intro first second hmethod
  have hoperation := congrArg ofMethod? hmethod
  rw [ofMethod?_method, ofMethod?_method] at hoperation
  exact Option.some.inj hoperation

namespace Memory

variable {memory before after : Memory} {operation : Operation} {method : Method}
  {outcome : Outcome Returned} {handle other : Nat} {arguments : List Argument}

/-! ### What becomes of a single call -/

/-- A call of an operation in its own way is counted and then answered. -/
theorem invoke_method (hrunning : memory.isShutDown = false) (operation : Operation)
    (target : Option Handle) (arguments : List Argument) :
    ∃ event, memory.invoke operation.method.kind target operation.method arguments =
      ((memory.counting operation.method).perform operation (target.getD 0) arguments).reporting
        event := by
  unfold invoke
  rw [if_neg (by simp [hrunning]), if_neg (not_not.mpr rfl), Operation.ofMethod?_method operation]
  exact ⟨_, rfl⟩

theorem outcome_invoke (hrunning : memory.isShutDown = false) (operation : Operation)
    (target : Option Handle) (arguments : List Argument) :
    (memory.invoke operation.method.kind target operation.method arguments).outcome =
      ((memory.counting operation.method).perform operation (target.getD 0) arguments).outcome := by
  obtain ⟨event, hinvoke⟩ := invoke_method hrunning operation target arguments
  rw [hinvoke]
  rfl

theorem state_invoke (hrunning : memory.isShutDown = false) (operation : Operation)
    (target : Option Handle) (arguments : List Argument) :
    (memory.invoke operation.method.kind target operation.method arguments).state =
      ((memory.counting operation.method).perform operation (target.getD 0) arguments).state := by
  obtain ⟨event, hinvoke⟩ := invoke_method hrunning operation target arguments
  rw [hinvoke]
  rfl

/-- A call that is not answered changes nothing; any other is counted and has an effect. -/
theorem invoke_cases (kind : MethodKind) (target : Option Handle) (method : Method)
    (arguments : List Argument) (memory : Memory) :
    (∃ error, (memory.invoke kind target method arguments).outcome = .failed error ∧
        (memory.invoke kind target method arguments).state = memory) ∨
      ∃ operation, operation.method = method ∧ operation.method.kind = kind ∧
        Effect operation (target.getD 0) (memory.counting method)
          (memory.invoke kind target method arguments).outcome
          (memory.invoke kind target method arguments).state := by
  unfold invoke
  split
  · exact .inl ⟨_, rfl, rfl⟩
  · split
    · exact .inl ⟨_, rfl, rfl⟩
    · rename_i hkind
      cases hoperation : Operation.ofMethod? method with
      | none => exact .inl ⟨_, rfl, rfl⟩
      | some operation =>
        have hmethod := Operation.method_of_ofMethod? hoperation
        refine .inr ⟨operation, hmethod, ?_, effect_perform _ _ _ _⟩
        rw [hmethod]
        exact not_not.mp hkind

/-! ### What calls leave as it is -/

theorem Effect.isShutDown_eq (h : Effect operation handle before outcome after) :
    after.isShutDown = before.isShutDown := by
  cases h <;> simp

/-- An operation touches no object but its target. -/
theorem Effect.object?_of_ne (h : Effect operation handle before outcome after)
    (hne : other ≠ handle) (hlt : other < before.nextHandle) :
    after.object? other = before.object? other := by
  have hput : ∀ {object : ManagedObject} (new : ManagedObject),
      before.object? handle = some object →
        (before.put handle new).object? other = before.object? other :=
    fun new hobject ↦ object?_put_of_ne (ne_zero_of_object? hobject) hne new
  cases h with
  | refused | answered | unbuilt | broken => rfl
  | made | described | opened | began => exact object?_pin_of_lt hlt _
  | describedAll => exact object?_pinAll_of_lt hlt _
  | settled old new hold => exact hput new hold
  | tookRow reader hreader =>
    rw [object?_pin_of_lt (by simpa using hlt)]
    exact hput _ hreader
  | tookRows reader hreader =>
    rw [object?_pinAll_of_lt (by simpa using hlt)]
    exact hput _ hreader
  | closedReader _ reader hreader => exact hput _ hreader
  | wrote writer hwriter | closedEmpty writer hwriter | committed writer hwriter =>
    exact hput _ hwriter

theorem isShutDown_invoke (kind : MethodKind) (target : Option Handle) :
    (memory.invoke kind target method arguments).state.isShutDown = memory.isShutDown := by
  rcases invoke_cases kind target method arguments memory with
    ⟨error, -, hstate⟩ | ⟨operation, -, -, heffect⟩
  · rw [hstate]
  · exact heffect.isShutDown_eq

theorem object?_invoke_of_ne (kind : MethodKind) (target : Option Handle)
    (hne : other ≠ target.getD 0) (hlt : other < memory.nextHandle) :
    (memory.invoke kind target method arguments).state.object? other = memory.object? other := by
  rcases invoke_cases kind target method arguments memory with
    ⟨error, -, hstate⟩ | ⟨operation, -, -, heffect⟩
  · rw [hstate]
  · exact heffect.object?_of_ne hne hlt

/-! ### What any call keeps -/

/-- After its shutdown the backend holds no objects. -/
theorem object?_shut (store : Store) (slots : Array (Option ManagedObject)) (handle : Nat) :
    (⟨store, slots.map fun _ ↦ none, true⟩ : Memory).object? handle = none := by
  unfold object?
  split
  · rfl
  · cases hslot : slots[handle - 1]? <;> simp [hslot]

/-- What invoking its method keeps, and losing objects keeps, a call keeps. -/
theorem reply_keeps_of {invariant : Memory → Prop} {call : Call}
    (hinvoke : ∀ kind target method arguments, call.IsInvocation kind target method →
      invariant (memory.invoke kind target method arguments).state)
    (hloses : ∀ after : Memory, after.store = memory.store →
      (∀ handle object, after.object? handle = some object →
        memory.object? handle = some object) → invariant after) :
    invariant (memory.reply call).state := by
  have hsame : invariant memory := hloses memory rfl fun _ _ ↦ id
  cases call with
  | construct method arguments =>
    simp only [Memory.reply, backend, Reply.state_andThen]
    exact hinvoke _ _ _ _ ⟨rfl, rfl, rfl⟩
  | onClass method arguments => exact hinvoke _ _ _ _ ⟨rfl, rfl, rfl⟩
  | onObject handle method arguments => exact hinvoke _ _ _ _ ⟨rfl, rfl, rfl⟩
  | release handle =>
    simp only [Memory.reply, Reply.state_andThen]
    show invariant (release handle memory).state
    unfold release
    split
    · exact hsame
    · split
      · exact hloses _ rfl fun _ _ ↦ object?_of_object?_vacate
      · exact hsame
  | shutdown =>
    simp only [Memory.reply, Reply.state_andThen]
    show invariant memory.shutdown.state
    unfold shutdown
    split
    · exact hsame
    · refine hloses _ rfl fun handle object hobject ↦ ?_
      exact absurd ((object?_shut _ _ handle).symm.trans hobject) (by simp)

/-- What invoking a method keeps, and losing objects keeps, every call keeps. -/
theorem reply_keeps {invariant : Memory → Prop}
    (hinvoke : ∀ kind target method arguments,
      invariant (memory.invoke kind target method arguments).state)
    (hloses : ∀ after : Memory, after.store = memory.store →
      (∀ handle object, after.object? handle = some object →
        memory.object? handle = some object) → invariant after) (call : Call) :
    invariant (memory.reply call).state :=
  reply_keeps_of (fun kind target method arguments _ ↦ hinvoke kind target method arguments) hloses

/-- What every call keeps, a sequence of calls keeps. -/
theorem after_keeps {invariant : Memory → Prop}
    (hreply : ∀ {memory : Memory}, invariant memory → ∀ call, invariant (memory.reply call).state)
    (h : invariant memory) (calls : List Call) : invariant (memory.after calls) := by
  induction calls generalizing memory with
  | nil => exact h
  | cons call calls ih => exact ih (hreply h call)

/-- A call that spares an object leaves it as it is. -/
theorem object?_reply_of_spares {object : ManagedObject} {call : Call}
    (hcall : call.spares handle) (hobject : memory.object? handle = some object) :
    (memory.reply call).state.object? handle = some object ∧
      (memory.reply call).state.isShutDown = memory.isShutDown := by
  have hlt := lt_nextHandle_of_object? hobject
  have hzero := ne_zero_of_object? hobject
  have hinvoke : ∀ kind target method arguments, handle ≠ target.getD 0 →
      (memory.invoke kind target method arguments).state.object? handle = some object ∧
        (memory.invoke kind target method arguments).state.isShutDown = memory.isShutDown :=
    fun kind target method arguments hne ↦
      ⟨(object?_invoke_of_ne kind target hne hlt).trans hobject, isShutDown_invoke kind target⟩
  cases call with
  | construct method arguments =>
    simp only [Memory.reply, backend, Reply.state_andThen]
    exact hinvoke _ none _ _ hzero
  | onClass method arguments => exact hinvoke _ none _ _ hzero
  | onObject target method arguments => exact hinvoke _ (some target) _ _ (Ne.symm hcall)
  | release target =>
    simp only [Memory.reply, Reply.state_andThen]
    show (release target memory).state.object? handle = _ ∧
      (release target memory).state.isShutDown = _
    unfold release
    split
    · exact ⟨hobject, rfl⟩
    · split
      · rename_i hused
        obtain ⟨other, hother⟩ := Option.isSome_iff_exists.mp hused
        have hkept := @object?_vacate_of_ne memory target handle (ne_zero_of_object? hother)
          (Ne.symm hcall)
        exact ⟨hkept.trans hobject, rfl⟩
      · exact ⟨hobject, rfl⟩
  | shutdown => exact hcall.elim

end Memory

end ColumnStore
