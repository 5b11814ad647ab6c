import ColumnStore.Proofs.Client.Recorded
import ColumnStore.Proofs.Managed.Returned

/-!
# Actions that account for their calls

A call may fail, or return something else than its method says. `Client.Accounted` says what an
action makes of that, on a backend that behaves in any way: the action gives a result only if every
call that it heeds went well, and it ends with an error only of its own accord or because exactly
one of these calls failed, and then the error is what the failure means. The `Terms` of an action
are the calls that it makes and heeds, the meanings of failures, the errors of its own and the
failures that it forgives.

The rules follow the ways in which actions are put together. A call whose result has not been looked
at yet is pending: what comes next accounts for it.
-/

set_option autoImplicit false

namespace ColumnStore

/-! ### Calls and what became of them -/

/-- Only a call that broke off has no result. -/
theorem Outcome.of_result_error {α : Type} {outcome : Outcome α} {failure : Failure}
    (h : outcome.result = .error failure) : outcome = .crashed ∧ failure = .crash := by
  cases outcome with
  | returned a => cases h
  | failed error => cases h
  | crashed =>
    cases h
    exact ⟨rfl, rfl⟩

/-- Only a call that returned has a result. -/
theorem Outcome.eq_returned_of_result {α : Type} {outcome : Outcome α} {a : α}
    (h : outcome.result = .ok (.ok a)) : outcome = .returned a := by
  cases outcome <;> cases h
  rfl

/-- The method that a call invokes. -/
def Call.method? : Call → Option Method
  | .construct method _ | .onClass method _ | .onObject _ method _ => some method
  | .release _ | .shutdown => none

namespace CallRecord

variable {α : Type} {record : CallRecord}

/-- How a call failed for a caller who expects what its method returns. -/
def failure? (record : CallRecord) : Option CallError :=
  match record.outcome, record.call.method? with
  | .failed error, _ => some error
  | .returned returned, some method => returned.refusal? method
  | _, _ => none

/-- The call returned, and it returned what its method returns. -/
def Succeeds (record : CallRecord) : Prop :=
  ∃ returned, record.outcome = .returned returned ∧
    ∀ method, record.call.method? = some method → returned.isOf method.returns = true

/-- The managed side threw an exception of a class with this simple name. -/
def Throws (simple : String) (record : CallRecord) : Prop :=
  ∃ className reason, record.outcome = .failed (.exception className reason) ∧
    CallError.simpleName className = simple

/-- What a caller takes out of a call is what became of it. -/
def Tells (record : CallRecord) : Except CallError α → Prop
  | .ok _ => record.Succeeds
  | .error error => record.failure? = some error

theorem Succeeds.failure?_eq_none (h : record.Succeeds) : record.failure? = none := by
  obtain ⟨returned, houtcome, hreturned⟩ := h
  cases hmethod : record.call.method? with
  | none => simp [failure?, houtcome, hmethod]
  | some method => simp [failure?, houtcome, hmethod, Returned.refusal?, hreturned method hmethod]

theorem tells_failed (call : Call) (error : CallError) :
    (⟨call, .failed error⟩ : CallRecord).Tells (.error error : Except CallError α) := by
  simp [Tells, failure?]

/-- A caller who takes out what the method returns gets it, or gets the failure. The `taker` is the
method that is named to the caller. -/
theorem tells_take {kind : ReturnKind} {take : Method → Returned → Except CallError α} {call : Call}
    {method taker : Method} (htake : Returned.Takes kind take)
    (hmethod : call.method? = some method) (hname : method.name = taker.name)
    (hreturns : method.returns = taker.returns) (hkind : taker.returns = kind)
    (returned : Returned) :
    (⟨call, .returned returned⟩ : CallRecord).Tells (take taker returned) := by
  have htaken := htake taker returned hkind
  cases hresult : take taker returned with
  | ok a =>
    rw [hresult] at htaken
    refine ⟨returned, rfl, ?_⟩
    intro other hother
    obtain rfl : method = other := by simpa [hmethod] using hother
    rw [hreturns, hkind]
    exact htaken
  | error error =>
    rw [hresult] at htaken
    simpa [Tells, failure?, hmethod, Returned.refusal?_congr hname hreturns] using htaken

/-- The result of a call, taken out or refused. -/
theorem tells_bind {kind : ReturnKind} {take : Method → Returned → Except CallError α} (call : Call)
    {method taker : Method} (htake : Returned.Takes kind take)
    (hmethod : call.method? = some method) (hname : method.name = taker.name)
    (hreturns : method.returns = taker.returns) (hkind : taker.returns = kind)
    {outcome : Outcome Returned} {result : Except CallError Returned}
    (h : outcome.result = .ok result) :
    (⟨call, outcome⟩ : CallRecord).Tells (result.bind (take taker)) := by
  cases outcome with
  | returned returned =>
    obtain rfl : Except.ok returned = result := by simpa [Outcome.result] using h
    exact tells_take htake hmethod hname hreturns hkind returned
  | failed error =>
    obtain rfl : Except.error error = result := by simpa [Outcome.result] using h
    exact tells_failed call error
  | crashed => simp [Outcome.result] at h

/-- The result of a call that needs no taking out. -/
theorem tells_result {β : Type} (call : Call) (form : β → Returned) {outcome : Outcome β}
    {result : Except CallError β} (h : outcome.result = .ok result)
    (hform : ∀ b method, call.method? = some method → (form b).isOf method.returns = true) :
    (⟨call, outcome.map form⟩ : CallRecord).Tells result := by
  cases outcome with
  | returned b =>
    obtain rfl : Except.ok b = result := by simpa [Outcome.result] using h
    exact ⟨form b, rfl, hform b⟩
  | failed error =>
    obtain rfl : Except.error error = result := by simpa [Outcome.result] using h
    exact tells_failed call error
  | crashed => simp [Outcome.result] at h

/-- An exception was thrown by the managed side, or a null was returned instead of an object. -/
theorem throws_of_failure? {className reason : String}
    (h : record.failure? = some (.exception className reason))
    (hnull : className = Returned.nullPointer →
      ∀ method, record.call.method? = some method → method.returns ≠ .object) :
    record.Throws (CallError.simpleName className) := by
  unfold failure? at h
  split at h
  · rename_i error houtcome
    obtain rfl : error = .exception className reason := by simpa using h
    exact ⟨className, reason, houtcome, rfl⟩
  · rename_i returned method houtcome hmethod
    obtain ⟨hobject, hclass⟩ := Returned.refusal?_eq_exception h
    exact absurd hobject (hnull hclass method hmethod)
  · cases h

theorem Throws.failure? {simple : String} (h : record.Throws simple) :
    ∃ className reason, record.failure? = some (.exception className reason) ∧
      CallError.simpleName className = simple := by
  obtain ⟨className, reason, houtcome, hsimple⟩ := h
  exact ⟨className, reason, by simp [CallRecord.failure?, houtcome], hsimple⟩

theorem not_throws_of_returned (simple : String) {returned : Returned}
    (h : record.outcome = .returned returned) : ¬ record.Throws simple := by
  rintro ⟨className, reason, houtcome, -⟩
  rw [h] at houtcome
  cases houtcome

end CallRecord

/-- Records that are kept behind each other. -/
theorem Recorded.records_trans {σ : Type} {before middle after : Recorded σ}
    {fresh later : List CallRecord} (hfresh : middle.records = before.records ++ fresh)
    (hlater : after.records = middle.records ++ later) :
    after.records = before.records ++ (fresh ++ later) := by
  rw [hlater, hfresh, List.append_assoc]

/-! ### Terms -/

/-- What an action does about its calls. -/
structure Terms where
  /-- The calls that it makes. -/
  makes : Call → Prop
  /-- The calls that it heeds; a failure of another call is only reported. -/
  heeds : Call → Prop
  /-- What a failure may mean to it. -/
  means : CallError → Error → Prop
  /-- The errors that it ends with of its own accord. -/
  objects : Error → Prop
  /-- The failures that it passes over. -/
  forgives : CallRecord → Prop
  /-- Does it say with an error what was being done? -/
  wraps : Prop

namespace Terms

variable {α β : Type} {terms : Terms} {record : CallRecord} {records fresh : List CallRecord}

/-- The call is not heeded, went well or is forgiven. -/
def Passes (terms : Terms) (record : CallRecord) : Prop :=
  terms.heeds record.call → record.Succeeds ∨ terms.forgives record

theorem passes_singleton (h : record.Succeeds) : ∀ other ∈ [record], terms.Passes other := by
  intro other hother _
  rw [List.mem_singleton.mp hother]
  exact .inl h

/-- The error has a cause that the failure may mean, perhaps below what was being done. -/
def Blames (terms : Terms) (record : CallRecord) (error : Error) : Prop :=
  terms.heeds record.call ∧ ¬ terms.forgives record ∧
    ∃ failure, record.failure? = some failure ∧ terms.means failure error.cause

/-- An error is a bare cause, or it may say what was being done. -/
def Shapes (terms : Terms) (error : Error) : Prop :=
  terms.wraps ∨ error.cause = error

/-- The end of an action is one that its calls allow. -/
inductive Accounts (terms : Terms) (records : List CallRecord) : Except Failure α → Prop
  /-- Every call passes. -/
  | returned (a : α) (hpasses : ∀ record ∈ records, terms.Passes record) :
    Accounts terms records (.ok a)
  /-- Every call passes, and the action has an objection of its own. -/
  | objected (error : Error) (hshape : terms.Shapes error) (hobjects : terms.objects error.cause)
    (hpasses : ∀ record ∈ records, terms.Passes record) :
    Accounts terms records (.error (.error error))
  /-- Every other call passes. -/
  | blamed (error : Error) (hshape : terms.Shapes error) (record : CallRecord)
    (hrecord : record ∈ records) (hblames : terms.Blames record error)
    (hothers : ∀ other ∈ records, other = record ∨ terms.Passes other) :
    Accounts terms records (.error (.error error))
  /-- Every other call passes, unless the one that broke off gave up something not needed. -/
  | brokeOff (record : CallRecord) (hrecord : record ∈ records)
    (hcrashed : record.outcome = .crashed)
    (hothers : terms.heeds record.call →
      ∀ other ∈ records, other = record ∨ terms.Passes other) :
    Accounts terms records (.error .crash)

/-- Other calls change nothing if they pass. -/
theorem Accounts.among {result : Except Failure α} (h : Accounts terms fresh result)
    (hfresh : fresh ⊆ records)
    (hpasses : ∀ record ∈ records, record ∈ fresh ∨ terms.Passes record) :
    Accounts terms records result := by
  have hall (hfreshPasses : ∀ record ∈ fresh, terms.Passes record) :
      ∀ record ∈ records, terms.Passes record :=
    fun record hrecord ↦ (hpasses record hrecord).elim (hfreshPasses record) id
  have hothers {culprit : CallRecord}
      (hfreshOthers : ∀ other ∈ fresh, other = culprit ∨ terms.Passes other) :
      ∀ other ∈ records, other = culprit ∨ terms.Passes other :=
    fun other hother ↦ (hpasses other hother).elim (hfreshOthers other) .inr
  cases h with
  | returned a hreturned => exact .returned a (hall hreturned)
  | objected error hshape hobjects hobjected =>
    exact .objected error hshape hobjects (hall hobjected)
  | blamed error hshape record hrecord hblames hblamed =>
    exact .blamed error hshape record (hfresh hrecord) hblames (hothers hblamed)
  | brokeOff record hrecord hcrashed hbroke =>
    exact .brokeOff record (hfresh hrecord) hcrashed fun hheeds ↦ hothers (hbroke hheeds)

/-- Calls that passed come before the others. -/
theorem Accounts.after {result : Except Failure α} (h : Accounts terms fresh result)
    (hpasses : ∀ record ∈ records, terms.Passes record) :
    Accounts terms (records ++ fresh) result := by
  refine h.among (List.subset_append_right _ _) ?_
  intro record hrecord
  exact (List.mem_append.mp hrecord).symm.imp_right (hpasses record)

/-- Calls that are not heeded come behind the others. -/
theorem Accounts.before {result : Except Failure α} (h : Accounts terms records result)
    (hfresh : ∀ record ∈ fresh, ¬ terms.heeds record.call) :
    Accounts terms (records ++ fresh) result := by
  refine h.among (List.subset_append_left _ _) ?_
  intro record hrecord
  refine (List.mem_append.mp hrecord).imp_right fun hlater hheeds ↦ ?_
  exact absurd hheeds (hfresh record hlater)

/-- An action that ends early ends so for what would have come next. -/
theorem Accounts.hand {failure : Failure}
    (h : Accounts terms records (.error failure : Except Failure α)) :
    Accounts terms records (.error failure : Except Failure β) := by
  cases h with
  | objected error hshape hobjects hpasses => exact .objected error hshape hobjects hpasses
  | blamed error hshape record hrecord hblames hothers =>
    exact .blamed error hshape record hrecord hblames hothers
  | brokeOff record hrecord hcrashed hothers => exact .brokeOff record hrecord hcrashed hothers

theorem Accounts.passes {a : α} (h : Accounts terms records (.ok a : Except Failure α)) :
    ∀ record ∈ records, terms.Passes record := by
  cases h with
  | returned _ hpasses => exact hpasses

theorem Accounts.shapes {error : Error}
    (h : Accounts terms records (.error (.error error) : Except Failure α)) :
    terms.Shapes error := by
  cases h with
  | objected _ hshape _ _ => exact hshape
  | blamed _ hshape _ _ _ _ => exact hshape

/-- More can be said about what the error was met with. -/
theorem Accounts.context {error : Error} (activity : String) (hwraps : terms.wraps)
    (h : Accounts terms records (.error (.error error) : Except Failure α)) :
    Accounts terms records (.error (.error (.context activity error)) : Except Failure α) := by
  cases h with
  | objected _ _ hobjects hpasses => exact .objected _ (.inl hwraps) hobjects hpasses
  | blamed _ _ record hrecord hblames hothers =>
    exact .blamed _ (.inl hwraps) record hrecord hblames hothers

/-- The terms of a part of an action: what passes in the part passes in the whole. -/
structure Within (inner outer : Terms) : Prop where
  makes : ∀ call, inner.makes call → outer.makes call
  heeds : ∀ call, inner.makes call → (inner.heeds call ↔ outer.heeds call)
  means : ∀ failure error, inner.means failure error → outer.means failure error
  objects : ∀ error, inner.objects error → outer.objects error
  forgives : ∀ record, inner.forgives record → outer.forgives record
  wraps : inner.wraps → outer.wraps

variable {inner : Terms}

theorem Within.refl (terms : Terms) : terms.Within terms where
  makes _ := id
  heeds _ _ := Iff.rfl
  means _ _ := id
  objects _ := id
  forgives _ := id
  wraps := id

theorem Within.passes (hwithin : inner.Within terms) (hmakes : inner.makes record.call)
    (h : inner.Passes record) : terms.Passes record := by
  intro hheeds
  exact (h ((hwithin.heeds _ hmakes).mpr hheeds)).imp_right (hwithin.forgives record)

/-- What a part allows, the whole allows as well, if it does not forgive the failure that the part
blames. -/
theorem Accounts.within {result : Except Failure α} (h : Accounts inner records result)
    (hwithin : inner.Within terms) (hmakes : ∀ record ∈ records, inner.makes record.call)
    (hresents : ∀ error record, result = .error (.error error) → inner.makes record.call →
      inner.Blames record error → ¬ terms.forgives record) :
    Accounts terms records result := by
  have hall : (∀ record ∈ records, inner.Passes record) → ∀ record ∈ records, terms.Passes record :=
    fun hpasses record hrecord ↦ hwithin.passes (hmakes record hrecord) (hpasses record hrecord)
  have hrest {culprit : CallRecord} :
      (∀ other ∈ records, other = culprit ∨ inner.Passes other) →
        ∀ other ∈ records, other = culprit ∨ terms.Passes other :=
    fun hothers other hother ↦
      (hothers other hother).imp_right (hwithin.passes (hmakes other hother))
  cases h with
  | returned a hpasses => exact .returned a (hall hpasses)
  | objected error hshape hobjects hpasses =>
    exact .objected error (hshape.imp_left hwithin.wraps) (hwithin.objects _ hobjects)
      (hall hpasses)
  | blamed error hshape record hrecord hblames hothers =>
    have hmade := hmakes record hrecord
    have hforgives := hresents error record rfl hmade hblames
    obtain ⟨hheeds, -, failure, hfailure, hmeans⟩ := hblames
    exact .blamed error (hshape.imp_left hwithin.wraps) record hrecord
      ⟨(hwithin.heeds _ hmade).mp hheeds, hforgives, failure, hfailure,
        hwithin.means _ _ hmeans⟩ (hrest hothers)
  | brokeOff record hrecord hcrashed hothers =>
    exact .brokeOff record hrecord hcrashed fun hheeds ↦
      hrest (hothers ((hwithin.heeds _ (hmakes record hrecord)).mpr hheeds))

/-- The call is made and heeded for a purpose, and a failure of it is not forgiven. -/
structure Covers (terms : Terms) (call : Call) (purpose : Purpose) : Prop where
  makes : terms.makes call
  heeds : terms.heeds call
  means : ∀ activity failure, terms.means failure (.ofCall activity purpose failure)
  resents : ∀ outcome, ¬ terms.forgives ⟨call, outcome⟩

end Terms

/-- An error that a failed call means is a bare cause. -/
theorem Error.cause_ofCall (activity : String) (purpose : Purpose) (failure : CallError) :
    (Error.ofCall activity purpose failure).cause = .ofCall activity purpose failure := by
  cases failure with
  | exception className reason =>
    cases purpose <;> simp only [ofCall, ofException] <;> (try split) <;> (try split) <;> rfl
  | _ => rfl

namespace Client

variable {σ α β : Type} {backend : Backend σ} {terms : Terms} {pending records : List CallRecord}

open Terms

/-- Started anywhere, the action ends in a way that the pending calls and those that it makes
itself allow. -/
def Accounted (terms : Terms) (pending : List CallRecord) (backend : Backend σ)
    (action : Client (Recorded σ) α) : Prop :=
  ∀ state, Ends backend.recorded action state fun result after ↦
    ∃ fresh, after.records = state.records ++ fresh ∧
      (∀ record ∈ fresh, terms.makes record.call) ∧ Accounts terms (pending ++ fresh) result

/-! ### Actions without calls -/

theorem accounted_of_ends {action : Client (Recorded σ) α} {result : Except Failure α}
    (haction : ∀ state, Runs backend.recorded action state result state)
    (h : Accounts terms pending result) : Accounted terms pending backend action := by
  intro state
  refine (haction state).mono ?_
  rintro _ _ ⟨rfl, rfl⟩
  exact ⟨[], (List.append_nil _).symm, List.forall_mem_nil _, (List.append_nil pending).symm ▸ h⟩

theorem accounted_pure_of_passes (a : α) (h : ∀ record ∈ pending, terms.Passes record) :
    Accounted terms pending backend (pure a) :=
  accounted_of_ends (fun _ ↦ runs_pure a) (.returned a h)

theorem accounted_pure (a : α) : Accounted terms [] backend (pure a) :=
  accounted_pure_of_passes a (List.forall_mem_nil _)

theorem accounted_report (event : Event) : Accounted terms [] backend (report event) :=
  accounted_of_ends (fun _ ↦ runs_report event) (.returned () (List.forall_mem_nil _))

theorem accounted_refuse {error : Error} (hshape : error.cause = error)
    (hobjects : terms.objects error) :
    Accounted terms [] backend (refuse error : Client (Recorded σ) α) :=
  accounted_of_ends (fun _ ↦ runs_refuse error)
    (.objected error (.inr hshape) (hshape.symm ▸ hobjects) (List.forall_mem_nil _))

/-- An error that the failure of a call means accounts for the call. -/
theorem accounts_ofCall {call : Call} {outcome : Outcome Returned} {purpose : Purpose}
    {failure : CallError} (hcovers : terms.Covers call purpose)
    (h : (⟨call, outcome⟩ : CallRecord).failure? = some failure) (activity : String) :
    Accounts terms [⟨call, outcome⟩]
      (.error (.error (.ofCall activity purpose failure)) : Except Failure α) := by
  have hcause := Error.cause_ofCall activity purpose failure
  refine .blamed _ (.inr hcause) _ List.mem_cons_self
    ⟨hcovers.heeds, hcovers.resents outcome, failure, h, ?_⟩ (by simp)
  rw [hcause]
  exact hcovers.means activity failure

/-- What is expected of a call accounts for it. -/
theorem accounted_expect {call : Call} {outcome : Outcome Returned} {purpose : Purpose}
    {taken : Except CallError α} (activity : String) (hcovers : terms.Covers call purpose)
    (h : (⟨call, outcome⟩ : CallRecord).Tells taken) :
    Accounted terms [⟨call, outcome⟩] backend (expect activity purpose taken) := by
  cases taken with
  | ok a => exact accounted_pure_of_passes a (passes_singleton h)
  | error failure =>
    exact accounted_of_ends (fun _ ↦ runs_refuse _) (accounts_ofCall hcovers h activity)

/-! ### One action after the other -/

/-- Pending calls that pass need no further account. -/
theorem Accounted.after {action : Client (Recorded σ) α} (h : Accounted terms [] backend action)
    (hpasses : ∀ record ∈ pending, terms.Passes record) :
    Accounted terms pending backend action := by
  intro state
  refine (h state).mono ?_
  rintro result after ⟨fresh, hrecords, hmakes, haccounts⟩
  exact ⟨fresh, hrecords, hmakes, haccounts.after hpasses⟩

theorem Accounted.bind {action : Client (Recorded σ) α} {next : α → Client (Recorded σ) β}
    (h : Accounted terms pending backend action)
    (hnext : ∀ a, Accounted terms [] backend (next a)) :
    Accounted terms pending backend (action >>= next) := by
  intro state
  refine Ends.bind (h state) ?_ ?_
  · rintro a middle ⟨fresh, hrecords, hmakes, haccounts⟩
    refine (hnext a middle).mono ?_
    rintro result after ⟨later, hlater, hlaterMakes, hlaterAccounts⟩
    refine ⟨fresh ++ later, Recorded.records_trans hrecords hlater,
      List.forall_mem_append.mpr ⟨hmakes, hlaterMakes⟩, ?_⟩
    rw [← List.append_assoc]
    exact hlaterAccounts.after haccounts.passes
  · rintro failure middle ⟨fresh, hrecords, hmakes, haccounts⟩
    exact ⟨fresh, hrecords, hmakes, haccounts.hand⟩

theorem Accounted.map {action : Client (Recorded σ) α} (f : α → β)
    (h : Accounted terms pending backend action) :
    Accounted terms pending backend (f <$> action) := by
  rw [map_eq_pure_bind]
  exact h.bind fun a ↦ accounted_pure (f a)

theorem accounted_mapM {use : α → Client (Recorded σ) β} (items : List α)
    (h : ∀ item, Accounted terms [] backend (use item)) :
    Accounted terms [] backend (items.mapM use) := by
  induction items with
  | nil => exact accounted_pure []
  | cons item items ih =>
    rw [List.mapM_cons]
    exact (h item).bind fun result ↦ ih.bind fun results ↦ accounted_pure (result :: results)

theorem accounted_forM {use : α → Client (Recorded σ) Unit} (items : List α)
    (h : ∀ item, Accounted terms [] backend (use item)) :
    Accounted terms [] backend (items.forM use) := by
  induction items with
  | nil => exact accounted_pure ()
  | cons item items ih => exact (h item).bind fun _ ↦ ih

/-! ### Calls -/

/-- A call is recorded with its outcome, and what comes next accounts for it. -/
theorem accounted_exchange_bind {ask : Backend (Recorded σ) → Recorded σ → Reply (Recorded σ) α}
    {call : Call} (form : α → Returned) {answer : σ → Reply σ α}
    {next : Except CallError α → Client (Recorded σ) β}
    (hask : ask backend.recorded = Recorded.keep call form answer) (hmakes : terms.makes call)
    (hnext : ∀ (outcome : Outcome α) result, outcome.result = .ok result →
      Accounted terms [⟨call, outcome.map form⟩] backend (next result)) :
    Accounted terms [] backend (exchange ask >>= next) := by
  intro state
  refine Ends.bind (runs_exchange ask state) ?_ ?_
  · rintro result middle ⟨hresult, rfl⟩
    rw [hask] at hresult ⊢
    refine (hnext _ result hresult.symm _).mono ?_
    rintro ended after ⟨fresh, hrecords, hfresh, haccounts⟩
    refine ⟨_ :: fresh, ?_, List.forall_mem_cons.mpr ⟨hmakes, hfresh⟩, haccounts⟩
    rw [hrecords]
    exact List.append_assoc _ _ _
  · rintro failure middle ⟨hresult, rfl⟩
    rw [hask] at hresult ⊢
    obtain ⟨houtcome, rfl⟩ := Outcome.of_result_error hresult.symm
    change (answer state.inner).outcome = .crashed at houtcome
    refine ⟨[⟨call, (answer state.inner).outcome.map form⟩], rfl, by simpa using hmakes, ?_⟩
    refine .brokeOff _ List.mem_cons_self ?_ fun _ other hother ↦ .inl (by simpa using hother)
    rw [houtcome]
    rfl

section Calls

variable {operation : Operation} {arguments : List Argument} {handle : Handle}
  {kind : ReturnKind} {take : Method → Returned → Except CallError α} {purpose : Purpose}

theorem accounted_call_bind {next : Except CallError Returned → Client (Recorded σ) β}
    (hmakes : terms.makes (.onObject handle operation.method arguments))
    (hnext : ∀ outcome result, outcome.result = .ok result →
      Accounted terms [⟨.onObject handle operation.method arguments, outcome⟩] backend
        (next result)) :
    Accounted terms [] backend (call handle operation arguments >>= next) := by
  refine accounted_exchange_bind id rfl hmakes ?_
  intro outcome result hresult
  rw [Outcome.map_id]
  exact hnext outcome result hresult

theorem accounted_callStatic_bind {next : Except CallError Returned → Client (Recorded σ) β}
    (hmakes : terms.makes (.onClass operation.method arguments))
    (hnext : ∀ outcome result, outcome.result = .ok result →
      Accounted terms [⟨.onClass operation.method arguments, outcome⟩] backend (next result)) :
    Accounted terms [] backend (callStatic operation arguments >>= next) := by
  refine accounted_exchange_bind id rfl hmakes ?_
  intro outcome result hresult
  rw [Outcome.map_id]
  exact hnext outcome result hresult

theorem accounted_release_bind {next : Except CallError Unit → Client (Recorded σ) β}
    (hmakes : terms.makes (.release handle))
    (hnext : ∀ (outcome : Outcome Unit) result, outcome.result = .ok result →
      Accounted terms [⟨.release handle, outcome.map fun _ ↦ .nothing⟩] backend (next result)) :
    Accounted terms [] backend (release handle >>= next) :=
  accounted_exchange_bind _ rfl hmakes hnext

theorem accounted_construct_bind {next : Except CallError Handle → Client (Recorded σ) β}
    (hmakes : terms.makes (.construct operation.method arguments))
    (hnext : ∀ (outcome : Outcome Handle) result, outcome.result = .ok result →
      Accounted terms
        [⟨.construct operation.method arguments, outcome.map fun handle ↦ .object (some handle)⟩]
        backend (next result)) :
    Accounted terms [] backend (construct operation arguments >>= next) :=
  accounted_exchange_bind _ rfl hmakes hnext

/-- What a method returns is expected of a call of it. -/
theorem accounted_taken {call : Call} {method : Method} {outcome : Outcome Returned}
    {result : Except CallError Returned} (htake : Returned.Takes kind take)
    (hkind : method.returns = kind) (hcovers : terms.Covers call purpose)
    (hmethod : call.method? = some method) (h : outcome.result = .ok result) (activity : String) :
    Accounted terms [⟨call, outcome⟩] backend
      (expect activity purpose (result.bind (take method))) :=
  accounted_expect activity hcovers (CallRecord.tells_bind call htake hmethod rfl rfl hkind h)

end Calls

/-! ### Cleaning up -/

/-- Started anywhere, the action makes calls that are not heeded, and comes to its end unless one of
them breaks off. -/
def Tidies (terms : Terms) (backend : Backend σ) (cleanup : Client (Recorded σ) Unit) : Prop :=
  ∀ state, Ends backend.recorded cleanup state fun result after ↦
    ∃ fresh, after.records = state.records ++ fresh ∧
      (∀ record ∈ fresh, terms.makes record.call ∧ ¬ terms.heeds record.call) ∧
      (result = .ok () ∨ result = .error .crash ∧ ∃ record ∈ fresh, record.outcome = .crashed)

theorem tidies_discard {handle : Handle} (hmakes : terms.makes (.release handle))
    (hheeds : ¬ terms.heeds (.release handle)) : Tidies terms backend (discard handle) := by
  intro state
  let record : CallRecord :=
    ⟨.release handle, (backend.release handle state.inner).outcome.map fun _ ↦ .nothing⟩
  have hrecord : ∀ other ∈ [record], terms.makes other.call ∧ ¬ terms.heeds other.call := by
    simpa using ⟨hmakes, hheeds⟩
  refine Ends.bind (runs_release rfl rfl) ?_ ?_
  · rintro (error | _) middle ⟨-, rfl⟩
    · refine (runs_report _).mono ?_
      rintro _ _ ⟨rfl, rfl⟩
      exact ⟨[record], rfl, hrecord, .inl rfl⟩
    · exact ends_pure ⟨[record], rfl, hrecord, .inl rfl⟩
  · rintro failure middle ⟨hresult, rfl⟩
    obtain ⟨houtcome, rfl⟩ := Outcome.of_result_error hresult.symm
    change (backend.release handle state.inner).outcome = .crashed at houtcome
    refine ⟨[record], rfl, hrecord, .inr ⟨rfl, record, List.mem_cons_self, ?_⟩⟩
    simp [record, houtcome, Outcome.map]

theorem tidies_discardAll {handles : List Handle}
    (h : ∀ handle, terms.makes (.release handle) ∧ ¬ terms.heeds (.release handle)) :
    Tidies terms backend (discardAll handles) := by
  induction handles with
  | nil => exact fun _ ↦ ends_pure ⟨[], (List.append_nil _).symm, List.forall_mem_nil _, .inl rfl⟩
  | cons handle handles ih =>
    intro state
    refine Ends.bind (tidies_discard (h handle).1 (h handle).2 state) ?_ ?_
    · rintro _ middle ⟨fresh, hrecords, hfresh, -⟩
      refine (ih middle).mono ?_
      rintro result after ⟨later, hlater, htidies, hresult⟩
      refine ⟨fresh ++ later, Recorded.records_trans hrecords hlater,
        List.forall_mem_append.mpr ⟨hfresh, htidies⟩, ?_⟩
      refine hresult.imp_right fun ⟨hcrash, record, hrecord, hcrashed⟩ ↦ ?_
      exact ⟨hcrash, record, List.mem_append_right _ hrecord, hcrashed⟩
    · rintro failure middle ⟨fresh, hrecords, hfresh, hresult⟩
      exact ⟨fresh, hrecords, hfresh, hresult⟩

/-- An action that a cleanup follows if it ends early. -/
theorem Accounted.cleaning {action : Client (Recorded σ) α} {cleanup : Client (Recorded σ) Unit}
    (h : Accounted terms [] backend action) (hcleanup : Tidies terms backend cleanup) :
    Accounted terms [] backend (Client.cleaning cleanup action) := by
  intro state
  refine Ends.tryCatch (h state) (fun _ _ hended ↦ hended) ?_
  rintro failure middle ⟨fresh, hrecords, hmakes, haccounts⟩
  refine Ends.bind (hcleanup middle) ?_ ?_
  · rintro _ after ⟨later, hlater, htidies, -⟩
    exact ends_throw ⟨fresh ++ later, Recorded.records_trans hrecords hlater,
      List.forall_mem_append.mpr ⟨hmakes, fun record hrecord ↦ (htidies record hrecord).1⟩,
      haccounts.before fun record hrecord ↦ (htidies record hrecord).2⟩
  · -- What the action ended with is lost, and the call that broke off is one that is not heeded.
    rintro ended after ⟨later, hlater, htidies, hended⟩
    obtain hok | ⟨⟨⟩, record, hrecord, hcrashed⟩ := hended
    · cases hok
    · exact ⟨fresh ++ later, Recorded.records_trans hrecords hlater,
        List.forall_mem_append.mpr ⟨hmakes, fun record hrecord ↦ (htidies record hrecord).1⟩,
        .brokeOff record (List.mem_append_right fresh hrecord) hcrashed fun hheeds ↦
          absurd hheeds (htidies record hrecord).2⟩

/-- An action that a cleanup follows, however it ends. -/
theorem Accounted.tidied {action : Client (Recorded σ) α} {cleanup : Client (Recorded σ) Unit}
    (h : Accounted terms [] backend action) (hcleanup : Tidies terms backend cleanup) :
    Accounted terms [] backend (do
      let result ← Client.cleaning cleanup action
      cleanup
      pure result) := by
  have hlast : Accounted terms [] backend cleanup := by
    intro state
    refine (hcleanup state).mono ?_
    rintro result after ⟨fresh, hrecords, hfresh, hresult⟩
    refine ⟨fresh, hrecords, fun record hrecord ↦ (hfresh record hrecord).1, ?_⟩
    obtain rfl | ⟨rfl, record, hrecord, hcrashed⟩ := hresult
    · exact .returned () fun record hrecord hheeds ↦ absurd hheeds (hfresh record hrecord).2
    · exact .brokeOff record hrecord hcrashed fun hheeds ↦ absurd hheeds (hfresh record hrecord).2
  exact (h.cleaning hcleanup).bind fun result ↦ hlast.bind fun _ ↦ accounted_pure result

/-! ### Going on after an error -/

/-- What comes next after an error accounts for the calls that have been made. -/
theorem Accounted.attempt_bind {inner : Terms} {action : Client (Recorded σ) α}
    {next : Except Error α → Client (Recorded σ) β} (h : Accounted inner [] backend action)
    (hwithin : inner.Within terms) (hok : ∀ a, Accounted terms [] backend (next (.ok a)))
    (herror : ∀ error fresh, (∀ record ∈ fresh, inner.makes record.call) →
      Accounts inner fresh (.error (.error error) : Except Failure α) →
        Accounted terms fresh backend (next (.error error))) :
    Accounted terms [] backend (attempt action >>= next) := by
  intro state
  have hjoin {middle : Recorded σ} {fresh : List CallRecord} {action : Client (Recorded σ) β}
      (hrecords : middle.records = state.records ++ fresh)
      (hmakes : ∀ record ∈ fresh, inner.makes record.call)
      (haction : Accounted terms fresh backend action) :
      Ends backend.recorded action middle fun result after ↦
        ∃ all, after.records = state.records ++ all ∧ (∀ record ∈ all, terms.makes record.call) ∧
          Accounts terms all result := by
    refine (haction middle).mono ?_
    rintro result after ⟨later, hlater, hlaterMakes, haccounts⟩
    exact ⟨fresh ++ later, Recorded.records_trans hrecords hlater, List.forall_mem_append.mpr
      ⟨fun record hrecord ↦ hwithin.makes _ (hmakes record hrecord), hlaterMakes⟩, haccounts⟩
  refine Ends.attempt_bind (h state) ?_ ?_ ?_
  · rintro a middle ⟨fresh, hrecords, hmakes, haccounts⟩
    have hpasses : ∀ record ∈ fresh, terms.Passes record := fun record hrecord ↦
      hwithin.passes (hmakes record hrecord) (haccounts.passes record hrecord)
    exact hjoin hrecords hmakes ((hok a).after hpasses)
  · rintro error middle ⟨fresh, hrecords, hmakes, haccounts⟩
    exact hjoin hrecords hmakes (herror error fresh hmakes haccounts)
  · rintro middle ⟨fresh, hrecords, hmakes, haccounts⟩
    have hwhole : Accounts terms fresh (.error .crash : Except Failure α) :=
      haccounts.within hwithin hmakes (by simp)
    exact ⟨fresh, hrecords, fun record hrecord ↦ hwithin.makes _ (hmakes record hrecord),
      hwhole.hand⟩

end Client

end ColumnStore
