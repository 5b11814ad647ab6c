import ColumnStore.Proofs.Client.Run
import ColumnStore.Proofs.Memory.Call

/-!
# Client calls on the in-process backend

A call of an operation runs as the operation is performed, once it has been counted. What a client
does with objects of its own is told by `Memory.Keeps`: the objects with older handles and the
commits are as they were.
-/

set_option autoImplicit false

namespace ColumnStore.Memory

variable {memory before middle after : Memory} {handle base : Nat} {operation : Operation}
  {arguments : List Argument}

/-- The backend once the options over a path have been handed to its storage layer. -/
def receiving (memory : Memory) (path : String) (entries : List (String × String)) : Memory :=
  { memory with store := memory.store.receive path entries }

/-- The backend is running and holds an object behind a handle. -/
structure Holds (memory : Memory) (handle : Handle) (object : ManagedObject) : Prop where
  running : memory.isShutDown = false
  object : memory.object? handle = some object

/-! ### Single calls -/

/-- A call on an object runs as its operation is performed. -/
theorem runs_call {outcome : Outcome Returned} (hrunning : memory.isShutDown = false)
    (hkind : operation.method.kind = .onObject)
    (houtcome : (perform operation handle arguments (memory.counting operation.method)).outcome =
      outcome)
    (hstate : (perform operation handle arguments (memory.counting operation.method)).state =
      after) :
    Client.Runs backend (Client.call handle operation arguments) memory outcome.result after := by
  have hinvoked := outcome_invoke hrunning operation (some handle) arguments
  have hleft := state_invoke hrunning operation (some handle) arguments
  rw [hkind, Option.getD_some] at hinvoked hleft
  exact Client.runs_call (hinvoked.trans houtcome) (hleft.trans hstate)

/-- A call that changes nothing else is counted, and its result is what was found. -/
theorem runs_call_ofExcept {found : Except CallError Returned}
    (hrunning : memory.isShutDown = false) (hkind : operation.method.kind = .onObject)
    (hperform : perform operation handle arguments (memory.counting operation.method) =
      .ofExcept (memory.counting operation.method) found) :
    Client.Runs backend (Client.call handle operation arguments) memory (.ok found)
      (memory.counting operation.method) := by
  have hends := runs_call hrunning hkind (congrArg Reply.outcome hperform)
    (congrArg Reply.state hperform)
  cases found <;> exact hends

/-- A call on a class runs as its operation is performed. -/
theorem runs_callStatic {outcome : Outcome Returned} (hrunning : memory.isShutDown = false)
    (hkind : operation.method.kind = .onClass)
    (houtcome : (perform operation 0 arguments (memory.counting operation.method)).outcome =
      outcome)
    (hstate : (perform operation 0 arguments (memory.counting operation.method)).state = after) :
    Client.Runs backend (Client.callStatic operation arguments) memory outcome.result after := by
  have hinvoked := outcome_invoke hrunning operation none arguments
  have hleft := state_invoke hrunning operation none arguments
  rw [hkind, Option.getD_none] at hinvoked hleft
  exact Client.runs_callStatic (hinvoked.trans houtcome) (hleft.trans hstate)

/-- Giving up a handle in use makes its slot vacant. -/
theorem runs_discard {object : ManagedObject} (h : memory.Holds handle object) :
    Client.Runs backend (Client.discard handle) memory (.ok ()) (memory.vacate handle) := by
  have hrelease : backend.release handle memory = .returned (memory.vacate handle) () := by
    change Memory.release handle memory = _
    unfold Memory.release
    rw [if_neg (by simp [h.running]), if_pos (by simp [h.object])]
  have hends : Client.Ends backend (Client.discard handle) memory _ :=
    Client.ends_discard handle memory
  rw [hrelease] at hends
  refine hends.mono ?_
  rintro result state ⟨hresult | hcrash, hstate⟩
  · exact ⟨hresult, hstate⟩
  · cases hcrash

/-- A step of a builder that returns the builder itself. -/
theorem runs_chain (hrunning : memory.isShutDown = false)
    (hkind : operation.method.kind = .onObject)
    (hperform : perform operation handle arguments (memory.counting operation.method) =
      .returned after (.object (some handle))) :
    Client.Runs backend (Client.chain handle operation arguments) memory (.ok (.ok ())) after := by
  refine (runs_call hrunning hkind (congrArg Reply.outcome hperform)
    (congrArg Reply.state hperform)).bind ?_
  change Client.Ends backend (if handle = handle then pure (.ok ()) else Client.release handle)
    after _
  rw [if_pos rfl]
  exact Client.runs_pure _

/-- An object that takes the place of another one. -/
theorem Holds.put {old : ManagedObject} (h : memory.Holds handle old) (object : ManagedObject) :
    (memory.put handle object).Holds handle object :=
  ⟨h.running, object?_put_self (by simp [h.object]) object⟩

theorem Holds.counting {object : ManagedObject} (h : memory.Holds handle object)
    (method : Method) : (memory.counting method).Holds handle object :=
  ⟨h.running, h.object⟩

/-- An older object is still held beside a new one. -/
theorem Holds.pin {old : ManagedObject} (h : memory.Holds handle old) (object : ManagedObject) :
    (memory.pin object).Holds handle old :=
  ⟨h.running, (object?_pin_of_lt (lt_nextHandle_of_object? h.object) object).trans h.object⟩

theorem Holds.receiving {object : ManagedObject} (h : memory.Holds handle object) (path : String)
    (entries : List (String × String)) : (memory.receiving path entries).Holds handle object :=
  ⟨h.running, h.object⟩

/-- A new object is held behind the next handle. -/
theorem holds_pin (hrunning : memory.isShutDown = false) (object : ManagedObject) :
    (memory.pin object).Holds memory.nextHandle object :=
  ⟨hrunning, object?_pin_new memory object⟩

/-! ### What a client leaves as it is -/

/-- Below `base` the objects are as they were, and so are the commits. -/
structure Keeps (base : Nat) (before after : Memory) : Prop where
  objects : ∀ handle < base, after.object? handle = before.object? handle
  commits : after.store.commits = before.store.commits
  running : after.isShutDown = before.isShutDown
  grows : before.nextHandle ≤ after.nextHandle

theorem Keeps.refl (base : Nat) (memory : Memory) : Keeps base memory memory :=
  ⟨fun _ _ ↦ rfl, rfl, rfl, Nat.le_refl _⟩

theorem Keeps.trans (hfirst : Keeps base before middle) (hlast : Keeps base middle after) :
    Keeps base before after where
  objects handle hlt := (hlast.objects handle hlt).trans (hfirst.objects handle hlt)
  commits := hlast.commits.trans hfirst.commits
  running := hlast.running.trans hfirst.running
  grows := Nat.le_trans hfirst.grows hlast.grows

theorem Keeps.counting (h : Keeps base before after) (method : Method) :
    Keeps base before (after.counting method) :=
  ⟨h.objects, h.commits, h.running, h.grows⟩

theorem Keeps.put (h : Keeps base before after) (hle : base ≤ handle) (object : ManagedObject) :
    Keeps base before (after.put handle object) where
  objects other hlt := by
    rw [object?_put_of_ne (by omega) (by omega)]
    exact h.objects other hlt
  commits := h.commits
  running := h.running
  grows := by
    rw [nextHandle_put]
    exact h.grows

theorem Keeps.vacate (h : Keeps base before after) (hle : base ≤ handle) :
    Keeps base before (after.vacate handle) where
  objects other hlt := by
    rw [object?_vacate_of_ne (by omega) (by omega)]
    exact h.objects other hlt
  commits := h.commits
  running := h.running
  grows := by
    rw [nextHandle_vacate]
    exact h.grows

theorem Keeps.pin (h : Keeps base before after) (hle : base ≤ after.nextHandle)
    (object : ManagedObject) : Keeps base before (after.pin object) where
  objects other hlt := by
    rw [object?_pin_of_lt (by omega)]
    exact h.objects other hlt
  commits := h.commits
  running := h.running
  grows := by
    rw [nextHandle_pin]
    exact Nat.le_succ_of_le h.grows

theorem Keeps.receiving (h : Keeps base before after) (path : String)
    (entries : List (String × String)) : Keeps base before (after.receiving path entries) :=
  ⟨h.objects, h.commits, h.running, h.grows⟩

/-- Objects below `base` are still held. -/
theorem Keeps.holds {object : ManagedObject} (h : Keeps base before after) (hlt : handle < base)
    (hholds : before.Holds handle object) : after.Holds handle object :=
  ⟨h.running.trans hholds.running, (h.objects handle hlt).trans hholds.object⟩

end ColumnStore.Memory
