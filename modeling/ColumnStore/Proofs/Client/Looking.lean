import ColumnStore.Console.Question
import ColumnStore.Proofs.Client.Calls

/-!
# Looking at rows

What an accessor answers only depends on what lies behind the handle that it is bound to, and asking
changes nothing. `Client.Looks` says this of an action, and goes through every way in which actions
are put together, so it holds of every question. If nothing lies behind the handle any more, a
question ends with an error of the bridge, since the first thing it does is a call on the handle.
-/

set_option autoImplicit false

namespace ColumnStore

/-- Operations that look at a row. -/
def Operation.readsRow : Operation → Bool
  | .rowLength | .columnTypeName | .elementTypeName | .getShort | .getInt | .getLong | .getDouble
  | .getFloat | .getBoolean | .getString | .getDecimal | .getVarchar | .getArray => true
  | _ => false

theorem Operation.looks_of_readsRow {operation : Operation} (h : operation.readsRow = true) :
    operation.method.kind = .onObject ∧ operation.looks = true := by
  cases operation <;> first | exact ⟨rfl, rfl⟩ | cases h

/-- A backend that runs without faults, and what lies behind a handle there. -/
structure Faulty.Sees (state : Faulty Memory) (handle : Handle) (found : Option ManagedObject) :
    Prop where
  faults : state.faults = []
  running : state.inner.isShutDown = false
  object : state.inner.object? handle = found

namespace Memory

variable {memory before after : Memory} {operation : Operation} {handle : Handle}

/-- Keeping no handle leaves every object as it is. -/
theorem Exchange.object?_eq (h : Exchange 0 0 before after) (handle : Handle) :
    after.object? handle = before.object? handle := by
  by_cases hreaches : before.Reaches 0 handle
  · have hnew : before.nextHandle ≤ handle := by
      rcases hreaches with hnew | ⟨holding, hholding, -⟩
      · exact hnew
      · exact absurd hholding (Multiset.notMem_zero holding)
    rw [object?_of_nextHandle_le hnew]
    by_contra hsome
    obtain ⟨object, hobject⟩ := Option.ne_none_iff_exists'.mp hsome
    have hkept := (h.has ⟨handle, object.isRow⟩ hreaches).mp ⟨object, hobject, rfl⟩
    exact Multiset.notMem_zero _ hkept
  · exact h.others handle hreaches

theorem row_congr (h : before.object? handle = after.object? handle) (method : String) :
    before.row handle method = after.row handle method := by
  unfold row get
  rw [h]

theorem getWith_congr (h : before.object? handle = after.object? handle)
    (method wantedClass : String) (take : Value → Option Returned) (arguments : List Argument) :
    getWith method wantedClass take handle arguments before =
      getWith method wantedClass take handle arguments after := by
  unfold getWith fieldOfRow
  rw [row_congr h]

/-- What an operation that looks at a row answers only depends on what lies behind its target. -/
theorem outcome_perform_congr (hreads : operation.readsRow = true)
    (h : before.object? handle = after.object? handle) (arguments : List Argument) :
    (perform operation handle arguments before).outcome =
      (perform operation handle arguments after).outcome := by
  have hof : ∀ {result other : Except CallError Returned}, result = other →
      (Reply.ofExcept before result).outcome = (Reply.ofExcept after other).outcome := by
    rintro (error | returned) _ rfl
    · rfl
    · rfl
  cases operation with
  | rowLength => exact hof (by rw [rowLength, row_congr h, ← rowLength])
  | columnTypeName => exact hof (by rw [columnTypeName, fieldOfRow, row_congr h]; rfl)
  | elementTypeName => exact hof (by rw [elementTypeName, fieldOfRow, row_congr h]; rfl)
  | getShort | getInt | getLong | getDouble | getFloat | getBoolean | getString | getDecimal
  | getVarchar | getArray => exact hof (getWith_congr h _ _ _ arguments)
  | _ => cases hreads

theorem row_of_gone (h : memory.object? handle = none) (method : String) :
    memory.row handle method = .error (.invalidHandle handle) := by
  unfold row get
  rw [h]
  rfl

/-- If nothing lies behind the target, that is what the operation says. -/
theorem outcome_perform_of_gone (hreads : operation.readsRow = true)
    (h : memory.object? handle = none) {arguments : List Argument}
    (harguments : operation = .rowLength ∨ ∃ n, arguments = [.int n]) :
    (perform operation handle arguments memory).outcome = .failed (.invalidHandle handle) := by
  have hlength : rowLength handle memory = .error (.invalidHandle handle) := by
    rw [rowLength, row_of_gone h]
    rfl
  rcases harguments with rfl | ⟨n, rfl⟩
  · exact congrArg (fun result ↦ (Reply.ofExcept memory result).outcome) hlength
  · have hfield : ∀ method,
        fieldOfRow memory handle [.int n] method = .error (.invalidHandle handle) := by
      intro method
      unfold fieldOfRow
      rw [row_of_gone h]
      rfl
    have hof : ∀ {result : Except CallError Returned}, result = .error (.invalidHandle handle) →
        (Reply.ofExcept memory result).outcome = .failed (.invalidHandle handle) := by
      rintro _ rfl
      rfl
    cases operation with
    | rowLength => exact hof hlength
    | columnTypeName => exact hof (by rw [columnTypeName, hfield]; rfl)
    | elementTypeName => exact hof (by rw [elementTypeName, hfield]; rfl)
    | getShort | getInt | getLong | getDouble | getFloat | getBoolean | getString | getDecimal
    | getVarchar | getArray => exact hof (by rw [getWith, hfield]; rfl)
    | _ => cases hreads

end Memory

namespace Faulty

variable {state after : Faulty Memory} {handle : Handle} {found : Option ManagedObject}

theorem Sees.owns (h : state.Sees handle found) : state.Owns 0 := by
  refine ⟨?_, h.running, Multiset.nodup_zero, ?_⟩
  · rw [h.faults]
    exact List.forall_mem_nil _
  · exact fun holding hholding ↦ absurd hholding (Multiset.notMem_zero holding)

/-- After an exchange of nothing the handle is seen as before. -/
theorem Sees.of_exchange (h : state.Sees handle found) (hexchange : Exchange 0 0 state after) :
    after.Sees handle found := by
  refine ⟨?_, hexchange.memory.running.trans h.running,
    (hexchange.memory.object?_eq handle).trans h.object⟩
  have hplans := hexchange.plans
  rw [h.faults] at hplans
  exact List.map_eq_nil_iff.mp hplans

/-- Without faults a call is answered by the backend. -/
theorem Sees.outcome_call (h : state.Sees handle found) {operation : Operation}
    (hkind : operation.method.kind = .onObject) (arguments : List Argument) :
    (Console.backend.call handle operation.method arguments state).outcome =
      ((state.inner.counting operation.method).perform operation handle arguments).outcome := by
  have hinvoke := Memory.outcome_invoke h.running operation (some handle) arguments
  rw [hkind] at hinvoke
  obtain ⟨faults, inner⟩ := state
  obtain rfl : faults = [] := h.faults
  exact hinvoke

end Faulty

namespace Client

variable {α β : Type} {handle : Handle}

/-- An action changes nothing, and without faults its answer only depends on what lies behind the
handle. -/
structure Looks (handle : Handle) (action : Client (Faulty Memory) α) : Prop where
  idle : Idle action
  answers : ∀ found, ∃ result, ∀ before : Faulty Memory, before.Sees handle found →
    Ends Console.backend action before fun ended _ ↦ ended = result

/-- An action fails at the bridge if nothing lies behind the handle. -/
def Stale (handle : Handle) (action : Client (Faulty Memory) α) : Prop :=
  ∀ before : Faulty Memory, before.Sees handle none →
    Ends Console.backend action before fun ended _ ↦
      ∃ reason, ended = .error (.error (.bridge reason))

/-! ### Looking -/

theorem looks_pure (a : α) : Looks handle (pure a : Client (Faulty Memory) α) :=
  ⟨trades_pure rfl, fun _ ↦ ⟨.ok a, fun _ _ ↦ ends_pure rfl⟩⟩

theorem looks_throw (failure : Failure) :
    Looks handle (throw failure : Client (Faulty Memory) α) :=
  ⟨trades_throw rfl, fun _ ↦ ⟨.error failure, fun _ _ ↦ ends_throw rfl⟩⟩

theorem looks_refuse (error : Error) : Looks handle (refuse error : Client (Faulty Memory) α) :=
  looks_throw (.error error)

/-- What comes after an error is not reached. -/
theorem looks_refuse_bind (error : Error) (next : α → Client (Faulty Memory) β) :
    Looks handle (refuse error >>= next) := by
  have hended : ∀ before : Faulty Memory, Runs Console.backend
      (refuse error >>= next : Client (Faulty Memory) β) before (.error (.error error)) before :=
    fun _ ↦ (runs_refuse error).bind_error
  refine ⟨fun before howns ↦ (hended before).mono ?_, fun _ ↦
    ⟨.error (.error error), fun before _ ↦ ?_⟩⟩
  · rintro ended after ⟨-, rfl⟩
    exact ⟨0, rfl, .refl howns⟩
  · exact (hended before).mono fun _ _ h ↦ h.1

theorem looks_expect (operation : String) (purpose : Purpose) (result : Except CallError α) :
    Looks handle (expect operation purpose result) := by
  cases result with
  | ok a => exact looks_pure a
  | error error => exact looks_refuse _

/-- An action that looks ends with the answer, and the handle is then seen as before. -/
theorem Looks.ends {action : Client (Faulty Memory) α} (h : Looks handle action)
    (found : Option ManagedObject) :
    ∃ result, ∀ before : Faulty Memory, before.Sees handle found →
      Ends Console.backend action before fun ended after ↦
        ended = result ∧ after.Sees handle found := by
  obtain ⟨result, hanswers⟩ := h.answers found
  refine ⟨result, fun before hsees log ↦ ⟨hanswers before hsees log, ?_⟩⟩
  obtain ⟨kept, rfl, hexchange⟩ := h.idle before hsees.owns log
  exact hsees.of_exchange hexchange

theorem Looks.bind {action : Client (Faulty Memory) α} {next : α → Client (Faulty Memory) β}
    (h : Looks handle action) (hnext : ∀ a, Looks handle (next a)) :
    Looks handle (action >>= next) := by
  refine ⟨h.idle.bind fun a ↦ (hnext a).idle, fun found ↦ ?_⟩
  obtain ⟨result, hresult⟩ := h.ends found
  cases result with
  | error failure =>
    refine ⟨.error failure, fun before hsees ↦ (hresult before hsees).bind ?_ ?_⟩
    · rintro a middle ⟨hended, -⟩
      cases hended
    · rintro _ after ⟨⟨⟩, -⟩
      rfl
  | ok a =>
    obtain ⟨last, hlast⟩ := (hnext a).answers found
    refine ⟨last, fun before hsees ↦ (hresult before hsees).bind ?_ ?_⟩
    · rintro _ middle ⟨⟨⟩, hmiddle⟩
      exact hlast middle hmiddle
    · rintro failure after ⟨hended, -⟩
      cases hended

theorem Looks.map {action : Client (Faulty Memory) α} (f : α → β) (h : Looks handle action) :
    Looks handle (f <$> action) := by
  rw [map_eq_pure_bind]
  exact h.bind fun a ↦ looks_pure (f a)

theorem Looks.attempt {action : Client (Faulty Memory) α} (h : Looks handle action) :
    Looks handle (Client.attempt action) := by
  refine ⟨Keeps.attempt h.idle, fun found ↦ ?_⟩
  obtain ⟨result, hresult⟩ := (h.map Except.ok).answers found
  cases result with
  | ok a =>
    refine ⟨.ok a, fun before hsees ↦ (hresult before hsees).tryCatch ?_ ?_⟩
    · exact fun _ _ hended ↦ hended
    · rintro failure middle ⟨⟩
  | error failure =>
    cases failure with
    | error error =>
      refine ⟨.ok (.error error), fun before hsees ↦ (hresult before hsees).tryCatch ?_ ?_⟩
      · rintro _ _ ⟨⟩
      · rintro _ middle ⟨⟩
        exact ends_pure rfl
    | crash =>
      refine ⟨.error .crash, fun before hsees ↦ (hresult before hsees).tryCatch ?_ ?_⟩
      · rintro _ _ ⟨⟩
      · rintro _ middle ⟨⟩
        exact ends_throw rfl

theorem Looks.mapM {items : List α} {action : α → Client (Faulty Memory) β}
    (h : ∀ item, Looks handle (action item)) : Looks handle (items.mapM action) := by
  induction items with
  | nil => exact looks_pure []
  | cons item items ih =>
    rw [List.mapM_cons]
    exact (h item).bind fun _ ↦ ih.bind fun _ ↦ looks_pure _

/-- A call that looks at a row. -/
theorem looks_call {operation : Operation} (hreads : operation.readsRow = true)
    (arguments : List Argument) : Looks handle (call handle operation arguments) := by
  obtain ⟨hkind, hlooks⟩ := Operation.looks_of_readsRow hreads
  refine ⟨idle_call hkind hlooks, fun found ↦ ?_⟩
  -- One backend that sees the same settles the answer for all of them.
  by_cases hsome : ∃ before : Faulty Memory, before.Sees handle found
  · obtain ⟨first, hfirst⟩ := hsome
    refine ⟨(Console.backend.call handle operation.method arguments first).outcome.result,
      fun before hsees ↦ (runs_call rfl rfl).mono ?_⟩
    rintro ended after ⟨rfl, -⟩
    have hobject : (before.inner.counting operation.method).object? handle =
        (first.inner.counting operation.method).object? handle :=
      hsees.object.trans hfirst.object.symm
    rw [hsees.outcome_call hkind, hfirst.outcome_call hkind]
    exact congrArg Outcome.result (Memory.outcome_perform_congr hreads hobject arguments)
  · exact ⟨.error .crash, fun before hsees ↦ absurd ⟨before, hsees⟩ hsome⟩

/-! ### Nothing behind the handle -/

theorem Stale.bind {action : Client (Faulty Memory) α} (h : Stale handle action)
    (next : α → Client (Faulty Memory) β) : Stale handle (action >>= next) := by
  intro before hsees
  refine (h before hsees).bind ?_ ?_
  · rintro a middle ⟨reason, hended⟩
    cases hended
  · rintro failure after ⟨reason, ⟨⟩⟩
    exact ⟨reason, rfl⟩

theorem Stale.map {action : Client (Faulty Memory) α} (f : α → β) (h : Stale handle action) :
    Stale handle (f <$> action) := by
  rw [map_eq_pure_bind]
  exact h.bind _

/-- Going on after a call on a handle out of use with what is made of the failure. -/
theorem stale_call_bind {operation : Operation} (hreads : operation.readsRow = true)
    {arguments : List Argument} (harguments : operation = .rowLength ∨ ∃ n, arguments = [.int n])
    {next : Except CallError Returned → Client (Faulty Memory) α}
    (hnext : ∀ before : Faulty Memory,
      Ends Console.backend (next (.error (.invalidHandle handle))) before fun ended _ ↦
        ∃ reason, ended = .error (.error (.bridge reason))) :
    Stale handle (call handle operation arguments >>= next) := by
  intro before hsees
  have hkind := (Operation.looks_of_readsRow hreads).1
  have hgone : (before.inner.counting operation.method).object? handle = none := hsees.object
  have houtcome : (Console.backend.call handle operation.method arguments before).outcome =
      .failed (.invalidHandle handle) :=
    (hsees.outcome_call hkind arguments).trans
      (Memory.outcome_perform_of_gone hreads hgone harguments)
  exact Runs.bind (runs_call houtcome rfl) (hnext _)

end Client

/-! ### Accessors -/

namespace Accessor

open Client

variable {α β : Type} {accessor : Accessor} {handle : Handle} {operation : Operation}

/-- The accessor is bound to no other handle. -/
def LooksAt (accessor : Accessor) (handle : Handle) : Prop :=
  ∀ target, accessor.row = some target → target = handle

theorem looksAt_some (handle : Handle) : LooksAt ⟨some handle⟩ handle := by
  rintro target ⟨⟩
  rfl

theorem exists_looksAt (accessor : Accessor) : ∃ handle, accessor.LooksAt handle := by
  obtain ⟨_ | handle⟩ := accessor
  · exact ⟨0, by rintro target ⟨⟩⟩
  · exact ⟨handle, looksAt_some handle⟩

theorem LooksAt.bound_bind (h : accessor.LooksAt handle)
    {next : Handle → Client (Faulty Memory) β} (hnext : Looks handle (next handle)) :
    Looks handle (accessor.bound operation >>= next) := by
  unfold bound
  cases hrow : accessor.row with
  | none => exact looks_refuse_bind _ next
  | some target =>
    obtain rfl := h target hrow
    rw [pure_bind]
    exact hnext

theorem LooksAt.callField (h : accessor.LooksAt handle) (hreads : operation.readsRow = true)
    (ordinal : Nat) : Looks handle (accessor.callField operation ordinal) := by
  refine h.bound_bind ?_
  by_cases hordinal : greatestOrdinal < ordinal
  · rw [if_pos hordinal]
    exact looks_refuse _
  · rw [if_neg hordinal]
    exact (looks_call hreads _).bind fun returned ↦ looks_expect _ _ returned

theorem LooksAt.getField (h : accessor.LooksAt handle) (hreads : operation.readsRow = true)
    (take : Method → Returned → Except CallError α) (ordinal : Nat) :
    Looks handle (accessor.getField operation take ordinal) :=
  (h.callField hreads ordinal).bind fun _ ↦ looks_expect _ _ _

theorem LooksAt.length (h : accessor.LooksAt handle) : Looks handle accessor.length := by
  refine h.bound_bind ?_
  refine (looks_call rfl []).bind fun returned ↦ (looks_expect _ _ returned).bind fun answer ↦ ?_
  refine (looks_expect _ _ _).bind fun count ↦ ?_
  by_cases hcount : count < 0
  · rw [if_pos hcount]
    exact looks_refuse _
  · rw [if_neg hcount]
    exact looks_pure _

theorem LooksAt.typeName (h : accessor.LooksAt handle) (ordinal : Nat) :
    Looks handle (accessor.typeName ordinal) := by
  refine (h.getField rfl Returned.toText ordinal).bind fun name ↦ ?_
  cases name with
  | some name => exact looks_pure name
  | none => exact looks_refuse _

theorem LooksAt.elementTypeName (h : accessor.LooksAt handle) (ordinal : Nat) :
    Looks handle (accessor.elementTypeName ordinal) := by
  refine (h.getField rfl Returned.toText ordinal).bind fun name ↦ ?_
  cases name with
  | some name => exact looks_pure name
  | none => exact looks_refuse _

theorem looks_readType (name : String) : Looks handle (readType name) := by
  unfold readType
  cases DataType.read name with
  | ok type => exact looks_pure type
  | error error => exact looks_refuse error

theorem LooksAt.type (h : accessor.LooksAt handle) (ordinal : Nat) :
    Looks handle (accessor.type ordinal) :=
  (h.typeName ordinal).bind looks_readType

theorem LooksAt.elementType (h : accessor.LooksAt handle) (ordinal : Nat) :
    Looks handle (accessor.elementType ordinal) :=
  (h.elementTypeName ordinal).bind looks_readType

theorem looks_readItem (element : DataType) (ordinal : Nat) (item : Option String) :
    Looks handle (readItem element ordinal item) := by
  cases item with
  | none => exact looks_pure Value.null
  | some text =>
    unfold readItem
    dsimp only
    cases Value.read text element none with
    | ok value => exact looks_pure value
    | error error => exact looks_refuse _

theorem LooksAt.arrayValue (h : accessor.LooksAt handle) (ordinal : Nat) :
    Looks handle (accessor.arrayValue ordinal) := by
  refine (h.elementType ordinal).bind fun element ↦ ?_
  refine (h.getField rfl Returned.toTexts ordinal).bind fun items ↦ ?_
  exact (Looks.mapM (looks_readItem element ordinal)).bind fun values ↦ looks_pure _

theorem LooksAt.valueOf (h : accessor.LooksAt handle) (ordinal : Nat) (type : DataType) :
    Looks handle (accessor.valueOf ordinal type) := by
  cases type with
  | array => exact h.arrayValue ordinal
  | _ => exact (h.getField rfl _ ordinal).map _

theorem LooksAt.value (h : accessor.LooksAt handle) (ordinal : Nat) :
    Looks handle (accessor.value ordinal) := by
  refine (h.type ordinal).bind fun type ↦ (h.valueOf ordinal type).attempt.bind fun result ↦ ?_
  cases result with
  | ok value => exact looks_pure value
  | error error =>
    dsimp only
    by_cases hnull : error.isNullPointer = true
    · rw [if_pos hnull]
      exact looks_pure Value.null
    · rw [if_neg hnull]
      exact looks_refuse error

theorem LooksAt.valuesFrom (h : accessor.LooksAt handle) (ordinal count : Nat) :
    Looks handle (accessor.valuesFrom ordinal count) := by
  induction count generalizing ordinal with
  | zero => exact looks_pure []
  | succ count ih =>
    exact (h.value ordinal).bind fun _ ↦ (ih (ordinal + 1)).bind fun _ ↦ looks_pure _

theorem LooksAt.values (h : accessor.LooksAt handle) : Looks handle accessor.values :=
  h.length.bind fun count ↦ h.valuesFrom 0 count

theorem LooksAt.printedFirst (h : accessor.LooksAt handle) (count : Nat) :
    Looks handle (accessor.printedFirst count) :=
  (h.valuesFrom 0 count).bind fun _ ↦ looks_pure _

/-! ### Accessors of rows that have been given up -/

theorem stale_callField (hreads : operation.readsRow = true) {ordinal : Nat}
    (hordinal : ordinal ≤ greatestOrdinal) :
    Stale handle (callField ⟨some handle⟩ operation ordinal) := by
  simp only [callField, bound, pure_bind]
  rw [if_neg (Nat.not_lt.mpr hordinal)]
  exact stale_call_bind hreads (.inr ⟨_, rfl⟩) fun _ ↦ ends_refuse ⟨_, rfl⟩

theorem stale_getField (hreads : operation.readsRow = true)
    (take : Method → Returned → Except CallError α) {ordinal : Nat}
    (hordinal : ordinal ≤ greatestOrdinal) :
    Stale handle (getField ⟨some handle⟩ operation take ordinal) :=
  (stale_callField hreads hordinal).bind _

theorem stale_length (handle : Handle) : Stale handle (length ⟨some handle⟩) := by
  simp only [length, bound, pure_bind]
  refine stale_call_bind rfl (.inl rfl) fun before ↦ ?_
  refine (runs_expect_error _ _ _).bind_error.mono ?_
  rintro ended after ⟨rfl, -⟩
  exact ⟨_, rfl⟩

theorem stale_type {ordinal : Nat} (hordinal : ordinal ≤ greatestOrdinal) :
    Stale handle (type ⟨some handle⟩ ordinal) :=
  ((stale_getField rfl Returned.toText hordinal).bind _).bind _

theorem stale_elementType {ordinal : Nat} (hordinal : ordinal ≤ greatestOrdinal) :
    Stale handle (elementType ⟨some handle⟩ ordinal) :=
  ((stale_getField rfl Returned.toText hordinal).bind _).bind _

theorem stale_value {ordinal : Nat} (hordinal : ordinal ≤ greatestOrdinal) :
    Stale handle (value ⟨some handle⟩ ordinal) :=
  (stale_type hordinal).bind _

end Accessor

/-! ### Questions -/

open Client in
/-- What an accessor answers only depends on what lies behind its handle. -/
theorem Question.looks_ask {accessor : Accessor} {handle : Handle} (h : accessor.LooksAt handle)
    (question : Question) (ordinal : Nat) : Looks handle (question.ask accessor ordinal) := by
  cases question with
  | length => exact (h.length.bind fun _ ↦ looks_pure _).map _
  | typeName => exact (h.typeName ordinal).map _
  | type => exact (h.type ordinal).map _
  | elementTypeName => exact (h.elementTypeName ordinal).map _
  | elementType => exact (h.elementType ordinal).map _
  | value => exact (h.value ordinal).map _
  | printed => exact ((h.value ordinal).map _).map _
  | printedRow => exact (h.length.bind h.printedFirst).map _
  | values => exact h.values.map _
  | _ => exact (h.getField rfl _ ordinal).map _

open Client in
/-- An accessor of a row that has been given up has no answer. -/
theorem Question.stale_ask (question : Question) (handle : Handle) {ordinal : Nat}
    (hordinal : ordinal ≤ Accessor.greatestOrdinal) :
    Stale handle (question.ask ⟨some handle⟩ ordinal) := by
  cases question with
  | length => exact ((Accessor.stale_length handle).bind _).map _
  | typeName => exact ((Accessor.stale_getField rfl Returned.toText hordinal).bind _).map _
  | type => exact (Accessor.stale_type hordinal).map _
  | elementTypeName => exact ((Accessor.stale_getField rfl Returned.toText hordinal).bind _).map _
  | elementType => exact (Accessor.stale_elementType hordinal).map _
  | value => exact (Accessor.stale_value hordinal).map _
  | printed => exact ((Accessor.stale_value hordinal).map _).map _
  | printedRow => exact ((Accessor.stale_length handle).bind _).map _
  | values => exact ((Accessor.stale_length handle).bind _).map _
  | _ => exact (Accessor.stale_getField rfl _ hordinal).map _

end ColumnStore
