import ColumnStore.Proofs.Memory.Call

/-!
# Failed calls

A call that fails leaves the objects, the handles, the tables and the state of the backend as they
were. It may have been counted, and the options of a reader that could not be built have reached the
storage layer. After a shutdown every call fails and nothing changes any more.
-/

set_option autoImplicit false

namespace ColumnStore

/-- The call invokes an operation of the library, in the operation's own way. -/
def Call.Invokes (operation : Operation) : Call → Prop
  | .construct method _ => method = operation.method ∧ method.kind = .constructor
  | .onClass method _ => method = operation.method ∧ method.kind = .onClass
  | .onObject _ method _ => method = operation.method ∧ method.kind = .onObject
  | .release _ | .shutdown => False

/-- A call that goes on with a result fails if it has failed, or if it cannot go on. -/
theorem Reply.failed_of_andThen {σ α β : Type} {reply : Reply σ α} {next : α → Except CallError β}
    {error : CallError} (h : (reply.andThen next).outcome = .failed error) :
    reply.outcome = .failed error ∨
      ∃ result, reply.outcome = .returned result ∧ next result = .error error := by
  obtain ⟨outcome, state, events⟩ := reply
  cases outcome with
  | returned result =>
    cases hnext : next result with
    | ok other => simp [andThen, hnext] at h
    | error other =>
      have herror : other = error := by simpa [andThen, hnext] using h
      exact .inr ⟨result, rfl, herror ▸ hnext⟩
  | failed other => exact .inl (by simpa [andThen] using h)
  | crashed => simp [andThen] at h

namespace Memory

/-- What a failed call leaves: every object and every handle, every table and the state of the
backend are as before. Only a call of an operation may have been counted, and only building a reader
may have handed over the options of its builder. -/
structure FailsCleanly (call : Call) (before after : Memory) : Prop where
  slots : after.slots = before.slots
  isShutDown : after.isShutDown = before.isShutDown
  commits : after.store.commits = before.store.commits
  calls : after.store.calls = before.store.calls ∨
    ∃ operation, call.Invokes operation ∧
      after.store.calls = (before.store.countCall operation.method).calls
  received : after.store.received = before.store.received ∨
    ∃ handle arguments plan, call = .onObject handle Operation.buildReader.method arguments ∧
      before.object? handle = some (.readerBuilder plan) ∧
        after.store.received = (before.store.receive plan.path plan.options.entries).received

variable {memory before after : Memory} {operation : Operation} {handle : Handle}
  {error : CallError} {call : Call}

/-- A failed operation changes nothing, but for the options of a reader that is not built. -/
theorem Effect.of_failed (h : Effect operation handle before (.failed error) after) :
    after = before ∨ operation = .buildReader ∧
      ∃ plan, before.object? handle = some (.readerBuilder plan) ∧
        after = { before with store := before.store.receive plan.path plan.options.entries } := by
  cases h with
  | refused => exact .inl rfl
  | unbuilt plan hplan error hoperation => exact .inr ⟨hoperation, plan, hplan, rfl⟩

/-- An operation without a target changes nothing unless it gives back a new object. -/
theorem Effect.of_returned_zero {result : Returned}
    (h : Effect operation 0 before (.returned result) after) :
    after = before ∨ ∃ handle, result = .object (some handle) := by
  have hnone : ∀ {object : ManagedObject}, before.object? 0 ≠ some object := by simp
  cases h with
  | answered => exact .inl rfl
  | made => exact .inr ⟨_, rfl⟩
  | described _ _ htarget => exact absurd htarget hnone
  | describedAll _ _ htarget => exact absurd htarget hnone
  | settled _ _ hold => exact absurd hold hnone
  | opened _ hplan => exact absurd hplan hnone
  | tookRow _ hreader => exact absurd hreader hnone
  | tookRows _ hreader => exact absurd hreader hnone
  | closedReader _ _ hreader => exact absurd hreader hnone
  | began _ hplan => exact absurd hplan hnone
  | wrote _ hwriter => exact absurd hwriter hnone
  | closedEmpty _ hwriter => exact absurd hwriter hnone
  | committed _ hwriter => exact absurd hwriter hnone

theorem FailsCleanly.refl (call : Call) (memory : Memory) : FailsCleanly call memory memory :=
  ⟨rfl, rfl, rfl, .inl rfl, .inl rfl⟩

/-- A call that has done nothing but to be counted. -/
theorem FailsCleanly.counting (hcall : call.Invokes operation) :
    FailsCleanly call memory (memory.counting operation.method) :=
  ⟨rfl, rfl, rfl, .inr ⟨operation, hcall, rfl⟩, .inl rfl⟩

/-! ### One call -/

/-- An invocation that fails was not answered, or counted before it failed. -/
theorem invoke_failed {kind : MethodKind} {target : Option Handle} {method : Method}
    {arguments : List Argument}
    (h : (memory.invoke kind target method arguments).outcome = .failed error) :
    (memory.invoke kind target method arguments).state = memory ∨
      ∃ operation, method = operation.method ∧ method.kind = kind ∧
        Effect operation (target.getD 0) (memory.counting method) (.failed error)
          (memory.invoke kind target method arguments).state := by
  rcases invoke_cases kind target method arguments memory with
    ⟨_, -, hstate⟩ | ⟨operation, rfl, hkind, heffect⟩
  · exact .inl hstate
  · exact .inr ⟨operation, rfl, hkind, h ▸ heffect⟩

/-- A failed call on a class or of a constructor. -/
theorem failsCleanly_of_zero {kind : MethodKind} {method : Method} {arguments : List Argument}
    (hcall : ∀ operation : Operation, method = operation.method → method.kind = kind →
      call.Invokes operation)
    (h : (memory.invoke kind none method arguments).outcome = .failed error) :
    FailsCleanly call memory (memory.invoke kind none method arguments).state := by
  rcases invoke_failed h with hstate | ⟨operation, rfl, hkind, heffect⟩
  · rw [hstate]
    exact .refl call memory
  · rcases heffect.of_failed with hstate | ⟨-, plan, hplan, -⟩
    · rw [hstate]
      exact .counting (hcall operation rfl hkind)
    · simp at hplan

theorem failsCleanly_construct {method : Method} {arguments : List Argument}
    (h : (memory.reply (.construct method arguments)).outcome = .failed error) :
    FailsCleanly (.construct method arguments) memory
      (memory.reply (.construct method arguments)).state := by
  have hinvoked : (memory.reply (.construct method arguments)).state =
      (memory.invoke .constructor none method arguments).state := by
    rw [reply, Reply.state_andThen]
    exact Reply.state_andThen _ _
  rw [hinvoked]
  obtain hfailed | ⟨handle, -, hlast⟩ := Reply.failed_of_andThen h
  · obtain hfailed | ⟨result, hreturned, hobject⟩ := Reply.failed_of_andThen hfailed
    · exact failsCleanly_of_zero (fun _ hmethod hkind ↦ ⟨hmethod, hkind⟩) hfailed
    -- The result is no object, so no object was made.
    · rcases invoke_cases .constructor none method arguments memory with
        ⟨_, -, hstate⟩ | ⟨operation, rfl, hkind, heffect⟩
      · rw [hstate]
        exact .refl _ memory
      · rw [hreturned] at heffect
        rcases heffect.of_returned_zero with hstate | ⟨handle, rfl⟩
        · rw [hstate]
          exact .counting ⟨rfl, hkind⟩
        · cases hobject
  · cases hlast

theorem failsCleanly_onObject {method : Method} {arguments : List Argument}
    (h : (memory.reply (.onObject handle method arguments)).outcome = .failed error) :
    FailsCleanly (.onObject handle method arguments) memory
      (memory.reply (.onObject handle method arguments)).state := by
  change FailsCleanly _ memory (memory.invoke .onObject (some handle) method arguments).state
  rcases invoke_failed h with hstate | ⟨operation, rfl, hkind, heffect⟩
  · rw [hstate]
    exact .refl _ memory
  · rcases heffect.of_failed with hstate | ⟨rfl, plan, hplan, hstate⟩
    · rw [hstate]
      exact .counting ⟨rfl, hkind⟩
    · rw [hstate]
      exact ⟨rfl, rfl, rfl, .inr ⟨.buildReader, ⟨rfl, rfl⟩, rfl⟩,
        .inr ⟨handle, arguments, plan, rfl, hplan, rfl⟩⟩

/-- A call that gives up an object or shuts the backend down fails before it changes anything. -/
theorem failsCleanly_release
    (h : (memory.reply (.release handle)).outcome = .failed error) :
    (memory.reply (.release handle)).state = memory := by
  change ((memory.release handle).andThen _).outcome = _ at h
  change ((memory.release handle).andThen _).state = _
  rw [Reply.state_andThen]
  unfold release at h ⊢
  split
  · rfl
  · rename_i hrunning
    rw [if_neg hrunning] at h
    split
    · rename_i hobject
      rw [if_pos hobject] at h
      cases h
    · rfl

theorem reply_of_isShutDown (h : memory.isShutDown = true) (call : Call) :
    memory.reply call = .failed memory .shutDown := by
  have hinvoke : ∀ kind target method arguments,
      memory.invoke kind target method arguments = .failed memory .shutDown :=
    fun _ _ _ _ ↦ if_pos h
  cases call with
  | construct method arguments =>
    have hconstruct : backend.construct method arguments memory = .failed memory .shutDown :=
      congrArg (Reply.andThen · (Returned.toObject method)) (hinvoke _ _ _ _)
    rw [reply, hconstruct]
    rfl
  | onClass method arguments => exact hinvoke _ _ _ _
  | onObject handle method arguments => exact hinvoke _ _ _ _
  | release handle =>
    have hrelease : backend.release handle memory = .failed memory .shutDown := if_pos h
    rw [reply, hrelease]
    rfl
  | shutdown =>
    have hshutdown : backend.shutdown memory = .failed memory .shutDown := if_pos h
    rw [reply, hshutdown]
    rfl

theorem isShutDown_reply_shutdown (memory : Memory) :
    (memory.reply .shutdown).state.isShutDown = true := by
  change (memory.shutdown.andThen _).state.isShutDown = true
  rw [Reply.state_andThen]
  unfold shutdown
  split
  · assumption
  · rfl

/-- Whatever fails, fails without a trace. -/
theorem failsCleanly_reply (h : (memory.reply call).outcome = .failed error) :
    FailsCleanly call memory (memory.reply call).state := by
  cases call with
  | construct method arguments => exact failsCleanly_construct h
  | onClass method arguments =>
    exact failsCleanly_of_zero (fun _ hmethod hkind ↦ ⟨hmethod, hkind⟩) h
  | onObject handle method arguments => exact failsCleanly_onObject h
  | release handle =>
    rw [failsCleanly_release h]
    exact .refl _ memory
  | shutdown =>
    cases hdown : memory.isShutDown with
    | true =>
      rw [reply_of_isShutDown hdown]
      exact .refl _ memory
    | false =>
      change (memory.shutdown.andThen _).outcome = _ at h
      rw [shutdown, if_neg (by simp [hdown])] at h
      cases h

theorem after_of_isShutDown (h : memory.isShutDown = true) (calls : List Call) :
    memory.after calls = memory := by
  induction calls with
  | nil => rfl
  | cons call calls ih =>
    rw [after_cons, reply_of_isShutDown h]
    exact ih

/-- A call that fails leaves everything as it was, but for its own count and the options of a reader
that is not built. Once the backend is shut down, every call fails and not even that much
changes. -/
theorem failed_calls_leave_no_trace (memory : Memory) :
    (∀ call error, (memory.reply call).outcome = .failed error →
      FailsCleanly call memory (memory.reply call).state) ∧
    ∀ calls call, ((memory.reply .shutdown).state.after calls).reply call =
      .failed (memory.reply .shutdown).state .shutDown := by
  refine ⟨fun _ _ ↦ failsCleanly_reply, fun calls call ↦ ?_⟩
  have hdown := isShutDown_reply_shutdown memory
  rw [after_of_isShutDown hdown]
  exact reply_of_isShutDown hdown call

/-- A reader that cannot be built for lack of a table, beside a writer with a record. -/
theorem failed_build_leaves_no_trace :
    let plan : ReaderPlan := ⟨"gone", "_temp", none, ⟨[("fs.s3a.endpoint", "e")]⟩, none⟩
    let writer : WriterState := ⟨"t", ⟨[.scalar "a" .int]⟩, [[.int 1]], "w", [], false⟩
    let memory : Memory := ⟨.empty, #[some (.readerBuilder plan), some (.writer writer)], false⟩
    let build : Call := .onObject 1 Operation.buildReader.method []
    (memory.reply build).outcome =
        .failed (.fileNotFound "gone (no carbondata files found)") ∧
      FailsCleanly build memory (memory.reply build).state ∧
        ((memory.reply .shutdown).state.after [.release 2]).reply build =
          .failed (memory.reply .shutdown).state .shutDown := by
  intro plan writer memory build
  have hfailed : (memory.reply build).outcome =
      .failed (.fileNotFound "gone (no carbondata files found)") :=
    (outcome_invoke rfl .buildReader (some 1) []).trans (by decide +kernel)
  have hmemory := failed_calls_leave_no_trace memory
  exact ⟨hfailed, hmemory.1 build _ hfailed, hmemory.2 [.release 2] build⟩

end Memory

end ColumnStore
