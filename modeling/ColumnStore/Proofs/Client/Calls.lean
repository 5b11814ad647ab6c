import ColumnStore.Proofs.Client.Trade

/-!
# What calls give and keep

A call of an operation keeps the handles it is given and adds the new ones in its result; a call
that fails adds none. So a client that takes a handle out of the result owns it, and one that is
refused the result owns nothing that it does not know of. A call that only looks is idle.
-/

set_option autoImplicit false

namespace ColumnStore

namespace Operation

variable {operation : Operation} {handle : Handle} {given kept : Multiset Holding}
  {result : Except CallError Returned}

/-- The handles in a result: a step of a builder returns the builder, and every other operation
returns what its method says. -/
def Returns (operation : Operation) (handle : Handle) (returned : Returned) : Prop :=
  if operation.settles then ∀ other ∈ returned.handles, other = handle
  else returned.handles = [] ∨
    operation.method.returns = .object ∧ (∃ other, returned = .object (some other)) ∨
      operation.method.returns = .objects ∧ ∃ others, returned = .objects others

/-- What a call leaves in the hands of the client. Only building a reader can break off. -/
def Leaves (operation : Operation) (handle : Handle) (given : Multiset Holding) :
    Except Failure (Except CallError Returned) → Multiset Holding → Prop
  | .ok (.ok returned), kept =>
    kept = given + operation.issued (.returned returned) ∧ operation.Returns handle returned
  | .ok (.error _), kept => kept = given
  | .error _, kept => kept = given ∧ operation = .buildReader

/-- The object that a call returns is new and belongs to the client. -/
theorem Leaves.toObject (h : operation.Leaves handle given (.ok result) kept)
    (hsettles : operation.settles = false) (hreturns : operation.method.returns = .object)
    (method : Method) :
    match result.bind (Returned.toObject method) with
    | .ok other => kept = given + {⟨other, operation.handsOutRows⟩}
    | .error _ => kept = given := by
  cases result with
  | error error => exact h
  | ok returned =>
    obtain ⟨rfl, hhandles⟩ := h
    rw [Returns, if_neg (by simp [hsettles])] at hhandles
    rcases hhandles with hnone | ⟨-, other, rfl⟩ | ⟨hobjects, -⟩
    · have hissued : operation.issued (.returned returned) = 0 := by simp [issued, hnone]
      cases hfound : (Except.ok returned : Except CallError Returned).bind
          (Returned.toObject method) with
      | error error => exact hissued ▸ add_zero given
      | ok other =>
        cases returned with
        | object found =>
          cases found with
          | none => cases hfound
          | some found => cases hnone
        | _ => cases hfound
    · exact congrArg (given + ·) (Memory.issued_object hsettles rfl other)
    · rw [hreturns] at hobjects
      cases hobjects

/-- So do the objects. -/
theorem Leaves.toObjects (h : operation.Leaves handle given (.ok result) kept)
    (hsettles : operation.settles = false) (hreturns : operation.method.returns = .objects)
    (method : Method) :
    match result.bind (Returned.toObjects method) with
    | .ok others => kept = given +
        (others.map (Holding.mk · operation.handsOutRows) : List Holding)
    | .error _ => kept = given := by
  cases result with
  | error error => exact h
  | ok returned =>
    obtain ⟨rfl, hhandles⟩ := h
    rw [Returns, if_neg (by simp [hsettles])] at hhandles
    rcases hhandles with hnone | ⟨hobject, -⟩ | ⟨-, others, rfl⟩
    · have hissued : operation.issued (.returned returned) = 0 := by simp [issued, hnone]
      cases hfound : (Except.ok returned : Except CallError Returned).bind
          (Returned.toObjects method) with
      | error error => exact hissued ▸ add_zero given
      | ok others =>
        cases returned with
        | objects found =>
          cases hfound
          obtain rfl : others = [] := hnone
          exact congrArg (given + ·) hissued
        | _ => cases hfound
    · rw [hreturns] at hobject
      cases hobject
    · exact congrArg (given + ·) (Memory.issued_objects hsettles rfl others)

/-- A call that returns nothing leaves what was given. -/
theorem Leaves.eq_given (h : operation.Leaves handle given (.ok result) kept)
    (hreturns : operation.method.returns = .nothing) : kept = given := by
  cases result with
  | error error => exact h
  | ok returned =>
    obtain ⟨rfl, hhandles⟩ := h
    by_cases hsettles : operation.settles = true
    · simp [issued, hsettles]
    · rw [Returns, if_neg hsettles, hreturns] at hhandles
      rcases hhandles with hnone | ⟨⟨⟩, -⟩ | ⟨⟨⟩, -⟩
      simp [issued, hnone]

/-- A step of a builder leaves what was given, and the object that it returns is the builder. -/
theorem Leaves.of_settles (h : operation.Leaves handle given (.ok result) kept)
    (hsettles : operation.settles = true) (method : Method) :
    kept = given ∧
      ∀ other, result.bind (Returned.toObject method) = .ok other → other = handle := by
  cases result with
  | error error => exact ⟨h, fun other hother ↦ by cases hother⟩
  | ok returned =>
    obtain ⟨rfl, hhandles⟩ := h
    rw [Returns, if_pos hsettles] at hhandles
    refine ⟨by simp [issued, hsettles], fun other hother ↦ hhandles other ?_⟩
    cases returned with
    | object found =>
      cases found with
      | none => cases hother
      | some found =>
        cases hother
        exact List.mem_singleton_self _
    | _ => cases hother

end Operation

/-! ### Calls of the backend -/

/-- What a client gets of a call that goes on with its result. -/
theorem Reply.result_andThen {σ α β : Type} (reply : Reply σ α) (next : α → Except CallError β) :
    (reply.andThen next).outcome.result = reply.outcome.result.map (·.bind next) := by
  obtain ⟨outcome, state, events⟩ := reply
  cases outcome with
  | returned result =>
    cases hnext : next result <;>
      simp [Reply.andThen, Outcome.result, Except.map, Except.bind, hnext]
  | failed error => rfl
  | crashed => rfl

namespace Memory

variable {memory : Memory} {given : Multiset Holding}

/-- An operation that is invoked leaves what it should. -/
theorem leaves_invoke (howns : memory.Owns given) (operation : Operation) (target : Option Handle)
    (arguments : List Argument) (htarget : target.getD 0 ≠ 0 → ⟨target.getD 0, false⟩ ∈ given) :
    ∃ kept, operation.Leaves (target.getD 0) given
        (memory.invoke operation.method.kind target operation.method arguments).outcome.result
          kept ∧
      Exchange given kept memory
        (memory.invoke operation.method.kind target operation.method arguments).state := by
  have heffect := effect_perform operation (target.getD 0) arguments
    (memory.counting operation.method)
  rw [← outcome_invoke howns.running, ← state_invoke howns.running] at heffect
  have hcounted : Exchange given given memory (memory.counting operation.method) :=
    .of_object? howns rfl rfl rfl
  refine ⟨_, ?_, hcounted.trans (heffect.exchange (hcounted.owns howns) htarget)⟩
  cases houtcome :
      (memory.invoke operation.method.kind target operation.method arguments).outcome with
  | failed error => exact add_zero given
  | crashed =>
    rw [houtcome] at heffect
    exact ⟨add_zero given, heffect.eq_buildReader_of_crashed⟩
  | returned returned =>
    rw [houtcome] at heffect
    refine ⟨rfl, ?_⟩
    unfold Operation.Returns
    split
    · rename_i hsettles
      exact fun other hother ↦ heffect.eq_of_settles hsettles hother
    · rename_i hsettles
      exact heffect.handles_cases (by simpa using hsettles)

/-- An operation that only looks changes no object. -/
theorem exchange_invoke_of_looks (howns : memory.Owns given) {operation : Operation}
    (hlooks : operation.looks = true) (target : Option Handle) (arguments : List Argument) :
    Exchange given given memory
      (memory.invoke operation.method.kind target operation.method arguments).state := by
  have heffect := effect_perform operation (target.getD 0) arguments
    (memory.counting operation.method)
  rw [state_invoke howns.running, (heffect.eq_of_looks hlooks).1]
  exact .of_object? howns rfl rfl rfl

end Memory

namespace Client

variable {α : Type} {operation : Operation} {handle : Handle} {arguments : List Argument}
  {given : Multiset Holding}

/-- A call behind faults leaves what it leaves without them, or it fails. -/
theorem leaves_guard {state : Faulty Memory} {className method : String}
    {planned : Returned → Except CallError Returned} {call : Memory → Reply Memory Returned}
    (howns : state.Owns given)
    (h : ∃ kept, operation.Leaves handle given (call state.inner).outcome.result kept ∧
      Memory.Exchange given kept state.inner (call state.inner).state) :
    ∃ kept, operation.Leaves handle given
        (Faulty.guard className method planned call state).outcome.result kept ∧
      Faulty.Exchange given kept state
        (Faulty.guard className method planned call state).state := by
  obtain ⟨hplans, ⟨error, houtcome, hstate⟩ | ⟨houtcome, hstate⟩⟩ :=
    @Faulty.guard_cases _ _ className method planned call state howns.fails
  · refine ⟨given, ?_, hplans, ?_⟩
    · rw [houtcome]
      rfl
    · rw [hstate]
      exact .refl howns.memory
  · obtain ⟨kept, hkept, hexchange⟩ := h
    refine ⟨kept, ?_, hplans, ?_⟩
    · rw [houtcome]
      exact hkept
    · rw [hstate]
      exact hexchange

/-- A call behind faults exchanges nothing if it does not without them. -/
theorem exchange_guard {state : Faulty Memory} {className method : String}
    {planned : Returned → Except CallError α} {call : Memory → Reply Memory α}
    (howns : state.Owns given)
    (h : Memory.Exchange given given state.inner (call state.inner).state) :
    Faulty.Exchange given given state
      (Faulty.guard className method planned call state).state := by
  obtain ⟨hplans, ⟨error, -, hstate⟩ | ⟨-, hstate⟩⟩ :=
    @Faulty.guard_cases _ _ className method planned call state howns.fails
  · refine ⟨hplans, ?_⟩
    rw [hstate]
    exact .refl howns.memory
  · refine ⟨hplans, ?_⟩
    rw [hstate]
    exact h

/-- A call on an object that the client owns. -/
theorem trades_call (hkind : operation.method.kind = .onObject) :
    Trades {⟨handle, false⟩} (call handle operation arguments)
      (operation.Leaves handle {⟨handle, false⟩}) := by
  intro before howns
  refine (runs_call rfl rfl).mono ?_
  rintro result after ⟨rfl, rfl⟩
  refine leaves_guard howns ?_
  change ∃ kept, operation.Leaves handle _
    (before.inner.invoke .onObject (some handle) operation.method arguments).outcome.result kept ∧
      Memory.Exchange _ kept before.inner
        (before.inner.invoke .onObject (some handle) operation.method arguments).state
  rw [← hkind]
  exact Memory.leaves_invoke howns.memory operation (some handle) arguments
    fun _ ↦ Multiset.mem_singleton_self _

/-- Going on after a call that returns nothing. It does not break off. -/
theorem trades_call_bind {post : Except Failure α → Multiset Holding → Prop}
    {next : Except CallError Returned → Client (Faulty Memory) α}
    (hkind : operation.method.kind = .onObject) (hreturns : operation.method.returns = .nothing)
    (hok : ∀ result, Trades {⟨handle, false⟩} (next result) post) :
    Trades {⟨handle, false⟩} (call handle operation arguments >>= next) post := by
  refine (trades_call hkind).bind ?_ ?_
  · intro result traded hleaves
    rw [hleaves.eq_given hreturns]
    exact hok result
  · rintro failure kept ⟨-, rfl⟩
    cases hreturns

/-- A call on a class. -/
theorem trades_callStatic (hkind : operation.method.kind = .onClass) :
    Trades 0 (callStatic operation arguments) (operation.Leaves 0 0) := by
  intro before howns
  refine (runs_callStatic rfl rfl).mono ?_
  rintro result after ⟨rfl, rfl⟩
  refine leaves_guard howns ?_
  change ∃ kept, operation.Leaves 0 _
    (before.inner.invoke .onClass none operation.method arguments).outcome.result kept ∧
      Memory.Exchange _ kept before.inner
        (before.inner.invoke .onClass none operation.method arguments).state
  rw [← hkind]
  exact Memory.leaves_invoke howns.memory operation none arguments fun hzero ↦ absurd rfl hzero

/-- A call that only looks, whatever its target is. -/
theorem idle_call (hkind : operation.method.kind = .onObject) (hlooks : operation.looks = true) :
    Idle (call handle operation arguments) := by
  intro before howns
  refine (runs_call rfl rfl).mono ?_
  rintro result after ⟨-, rfl⟩
  refine ⟨0, rfl, exchange_guard howns ?_⟩
  change Memory.Exchange 0 0 before.inner
    (before.inner.invoke .onObject (some handle) operation.method arguments).state
  rw [← hkind]
  exact Memory.exchange_invoke_of_looks howns.memory hlooks (some handle) arguments

theorem idle_callStatic (hkind : operation.method.kind = .onClass)
    (hlooks : operation.looks = true) : Idle (callStatic operation arguments) := by
  intro before howns
  refine (runs_callStatic rfl rfl).mono ?_
  rintro result after ⟨-, rfl⟩
  refine ⟨0, rfl, exchange_guard howns ?_⟩
  change Memory.Exchange 0 0 before.inner
    (before.inner.invoke .onClass none operation.method arguments).state
  rw [← hkind]
  exact Memory.exchange_invoke_of_looks howns.memory hlooks none arguments

/-- A constructor makes a new object, or it fails. -/
theorem trades_construct (hkind : operation.method.kind = .constructor)
    (hsettles : operation.settles = false) (hreturns : operation.method.returns = .object)
    (hbuild : operation ≠ .buildReader) :
    Trades 0 (construct operation arguments) fun result kept ↦
      match result with
      | .ok (.ok handle) => kept = {⟨handle, operation.handsOutRows⟩}
      | .ok (.error _) => kept = 0
      | .error _ => False := by
  intro before howns
  refine (runs_exchange _ before).mono ?_
  rintro result after ⟨rfl, rfl⟩
  obtain ⟨kept, hkept, hexchange⟩ := Memory.leaves_invoke howns.memory operation none arguments
    fun hzero ↦ absurd rfl hzero
  rw [hkind] at hkept hexchange
  have hoperation : Console.backend.construct operation.method arguments before =
      Faulty.guard operation.method.className operation.method.name
        (Returned.toObject operation.method)
        (fun memory ↦ (memory.invoke .constructor none operation.method arguments).andThen
          (Returned.toObject operation.method)) before := rfl
  rw [hoperation]
  obtain ⟨hplans, ⟨error, houtcome, hstate⟩ | ⟨houtcome, hstate⟩⟩ :=
    @Faulty.guard_cases _ _ operation.method.className operation.method.name
      (Returned.toObject operation.method)
      (fun memory ↦ (memory.invoke .constructor none operation.method arguments).andThen
          (Returned.toObject operation.method)) before howns.fails
  · refine ⟨0, ?_, hplans, ?_⟩
    · rw [houtcome]
      rfl
    · rw [hstate]
      exact .refl howns.memory
  · refine ⟨kept, ?_, hplans, ?_⟩
    · rw [houtcome, Reply.result_andThen]
      cases hresult : (before.inner.invoke .constructor none operation.method
          arguments).outcome.result with
      | error failure =>
        rw [hresult] at hkept
        exact hbuild hkept.2
      | ok result =>
        rw [hresult] at hkept
        have hobject := hkept.toObject hsettles hreturns operation.method
        cases hfound : result.bind (Returned.toObject operation.method) with
        | error error =>
          rw [hfound] at hobject
          simpa [Except.map, hfound] using hobject
        | ok handle =>
          rw [hfound] at hobject
          simpa [Except.map, hfound] using hobject
    · rw [hstate, Reply.state_andThen]
      exact hexchange

/-! ### Going on with results -/

section Going

variable {action : Client (Faulty Memory) (Except CallError Returned)} {name : String}
  {purpose : Purpose} {post : Except Failure α → Multiset Holding → Prop}

/-- Going on with the object that a call returns, which is then owned as well. -/
theorem Trades.object {next : Handle → Client (Faulty Memory) α} {method : Method}
    (h : Trades given action (operation.Leaves handle given))
    (hsettles : operation.settles = false) (hreturns : operation.method.returns = .object)
    (hok : ∀ other, Trades (given + {⟨other, operation.handsOutRows⟩}) (next other) post)
    (herror : ∀ failure, (failure = .crash → operation = .buildReader) →
      post (.error failure) given) :
    Trades given (action >>= fun returned ↦
      expect name purpose (returned.bind (Returned.toObject method)) >>= next) post := by
  refine h.bind ?_ ?_
  · intro result traded hleaves
    have hobject := hleaves.toObject hsettles hreturns method
    refine trades_expect_bind ?_ ?_
    · intro other hother
      rw [hother] at hobject
      rw [hobject]
      exact hok other
    · intro error failed hfailed
      rw [hfailed] at hobject
      rw [hobject]
      exact herror _ (by rintro ⟨⟩)
  · rintro failure kept ⟨rfl, hbuild⟩
    exact herror failure fun _ ↦ hbuild

/-- Going on with the objects that a call returns. -/
theorem Trades.objects {next : List Handle → Client (Faulty Memory) α} {method : Method}
    (h : Trades given action (operation.Leaves handle given))
    (hsettles : operation.settles = false) (hreturns : operation.method.returns = .objects)
    (hok : ∀ others : List Handle, Trades
      (given + (others.map (Holding.mk · operation.handsOutRows) : List Holding)) (next others)
      post)
    (herror : ∀ failure, (failure = .crash → operation = .buildReader) →
      post (.error failure) given) :
    Trades given (action >>= fun returned ↦
      expect name purpose (returned.bind (Returned.toObjects method)) >>= next) post := by
  refine h.bind ?_ ?_
  · intro result traded hleaves
    have hobjects := hleaves.toObjects hsettles hreturns method
    refine trades_expect_bind ?_ ?_
    · intro others hothers
      rw [hothers] at hobjects
      rw [hobjects]
      exact hok others
    · intro error failed hfailed
      rw [hfailed] at hobjects
      rw [hobjects]
      exact herror _ (by rintro ⟨⟩)
  · rintro failure kept ⟨rfl, hbuild⟩
    exact herror failure fun _ ↦ hbuild

end Going

/-- A step of a builder keeps the builder. -/
theorem keeps_chain (hkind : operation.method.kind = .onObject)
    (hsettles : operation.settles = true) :
    Keeps {⟨handle, false⟩} (chain handle operation arguments) := by
  refine (trades_call hkind).bind ?_ ?_
  · intro result traded hleaves
    obtain ⟨rfl, hsame⟩ := hleaves.of_settles hsettles operation.method
    cases hfound : result.bind (Returned.toObject operation.method) with
    | error error => exact trades_pure rfl
    | ok other =>
      dsimp only
      rw [if_pos (hsame other hfound)]
      exact trades_pure rfl
  · rintro failure kept ⟨rfl, -⟩
    rfl

theorem keeps_expect_chain (hkind : operation.method.kind = .onObject)
    (hsettles : operation.settles = true) (name : String) :
    Keeps {⟨handle, false⟩} (do expect name .other (← chain handle operation arguments)) :=
  (keeps_chain hkind hsettles).bind fun _ ↦ idle_expect.frame _

end Client

end ColumnStore
