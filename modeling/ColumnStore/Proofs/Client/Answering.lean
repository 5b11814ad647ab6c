import ColumnStore.Proofs.Client.Uses

/-!
# Reading rows and asking for fields

Two kinds of uses pass over a failure: an iteration that finds no row where there should be one ends
there, and a null that a getter stumbles over is the value null. Both look at the error of a part of
the action, and the error tells of exactly one kind of failure, so nothing else is passed over.
-/

set_option autoImplicit false

namespace ColumnStore

/-! ### What errors mean -/

/-- The end of the data is told of by one exception, if rows were asked for. -/
theorem Error.ofCall_eq_exhausted_iff {activity : String} {purpose : Purpose}
    {failure : CallError} :
    Error.ofCall activity purpose failure = .exhausted ↔ purpose = .read ∧
      ∃ className reason, failure = .exception className reason ∧
        CallError.simpleName className = "NoSuchElementException" := by
  cases failure with
  | exception className reason =>
    cases purpose with
    | build path => simp [ofCall, ofException]
    | read =>
      by_cases hsimple : CallError.simpleName className = "NoSuchElementException"
      · simp [ofCall, ofException, hsimple]
      · simp [ofCall, ofException, hsimple]
    | field ordinal =>
      simp only [ofCall, ofException]
      split
      · simp
      · split
        · simp
        · simp
    | other => simp [ofCall, ofException]
  | _ => simp [ofCall]

/-- A null pointer is told of by one exception. -/
theorem Error.isNullPointer_ofCall_field_iff {activity : String} {ordinal : Nat}
    {failure : CallError} :
    (Error.ofCall activity (.field ordinal) failure).isNullPointer = true ↔
      ∃ className reason, failure = .exception className reason ∧
        CallError.simpleName className = "NullPointerException" := by
  cases failure with
  | exception className reason =>
    simp only [ofCall, ofException]
    by_cases hsimple : CallError.simpleName className = "NullPointerException"
    · have hindex :
          Text.finishesWith "IndexOutOfBoundsException" "NullPointerException" = false := by decide
      simp [hsimple, hindex, isNullPointer]
    · split
      · simp [isNullPointer, hsimple]
      · split
        · simp [isNullPointer, hsimple]
        · simp [isNullPointer, hsimple]
  | _ => simp [ofCall, isNullPointer]

/-- An error with a cause that a failure means. The error of a shutdown is the one failure that is
not told by a purpose. -/
theorem Use.means_cases {use : Use} {failure : CallError} {error : Error}
    (h : use.means failure error) :
    error = .bridge failure.message ∨
      ∃ activity purpose, use.intends purpose ∧ error = .ofCall activity purpose failure := by
  cases use with
  | shutdown => exact .inl h
  | _ => exact .inr h

/-- What a use forgives is an exception. -/
theorem Use.throws_of_forgives {use : Use} {record : CallRecord} (h : use.forgives record) :
    ∃ simple, record.Throws simple := by
  cases use with
  | read reader request =>
    cases request with
    | iterate => exact ⟨_, h.2⟩
    | _ => exact h.elim
  | ask accessor question ordinal => exact ⟨_, h.2.1⟩
  | _ => exact h.elim

/-! ### Reading -/

section Reading

variable {σ α : Type} {backend : Backend σ} {terms : Terms} {reader : Reader}

open Client

/-- The part of a use that calls one method. It forgives nothing. -/
def Terms.only (terms : Terms) (method : Method) : Terms :=
  { terms with
    makes := fun call ↦ call.method? = some method
    forgives := fun _ ↦ False }

theorem Use.within_only (use : Use) (method : Method) :
    (use.terms.only method).Within use.terms where
  makes _ _ := trivial
  heeds _ _ := Iff.rfl
  means _ _ := id
  objects _ := id
  forgives _ := False.elim
  wraps := id

namespace Reader

theorem accounted_whileOpen {action : Client (Recorded σ) α}
    (hclosed : terms.objects (.closed .reader)) (h : Accounted terms [] backend action) :
    Accounted terms [] backend (reader.whileOpen action) := by
  unfold whileOpen
  split
  · exact accounted_refuse rfl hclosed
  · exact h

theorem accounted_hasNext (hclosed : terms.objects (.closed .reader))
    (hcovers : terms.Covers (.onObject reader.handle Operation.hasNextRow.method []) .read) :
    Accounted terms [] backend reader.hasNext := by
  refine accounted_whileOpen hclosed ?_
  exact accounted_call_bind hcovers.makes fun outcome result hresult ↦
    accounted_taken Returned.takes_toBoolean rfl hcovers rfl hresult _

theorem accounted_next (hclosed : terms.objects (.closed .reader))
    (hcovers : terms.Covers (.onObject reader.handle Operation.readRow.method []) .read) :
    Accounted terms [] backend reader.next := by
  refine accounted_whileOpen hclosed ?_
  refine accounted_call_bind hcovers.makes fun outcome result hresult ↦ ?_
  exact (accounted_taken Returned.takes_toObject rfl hcovers rfl hresult _).bind fun _ ↦
    accounted_pure _

theorem accounted_nextBatch (hclosed : terms.objects (.closed .reader))
    (hinput : ∀ error, error.concernsInput = true → terms.objects error)
    (hcovers : ∀ arguments,
      terms.Covers (.onObject reader.handle Operation.readRows.method arguments) .read)
    (size : Nat) : Accounted terms [] backend (reader.nextBatch size) := by
  refine accounted_whileOpen hclosed ?_
  split
  · rename_i error herror
    exact accounted_input hinput (checksInput_readBatch size) herror
  · refine accounted_call_bind (hcovers _).makes fun outcome result hresult ↦ ?_
    exact (accounted_taken Returned.takes_toObjects rfl (hcovers _) rfl hresult _).bind fun _ ↦
      accounted_pure _

end Reader

/-- A reader is asked in order to read. -/
theorem Use.covers_read (request : ReadRequest) {call : Call} {method : Method}
    (hmethod : call.method? = some method)
    (hresents : ∀ outcome, ¬ (Use.read reader request).forgives ⟨call, outcome⟩) :
    (Use.read reader request).terms.Covers call .read :=
  ⟨trivial, heeds_of_method? hmethod, fun activity _ ↦ ⟨activity, .read, trivial, rfl⟩, hresents⟩

/-- What a failure means to one who reads. -/
theorem Use.means_read {use : Use} (h : use.reads) {failure : CallError} {error : Error}
    (hmeans : use.means failure error) : ∃ activity, error = .ofCall activity .read failure := by
  cases use with
  | read reader request =>
    obtain ⟨activity, purpose, hpurpose, rfl⟩ := hmeans
    cases purpose with
    | read => exact ⟨activity, rfl⟩
    | build path => exact hpurpose.elim
    | field ordinal => exact hpurpose.elim
    | other => exact (hpurpose trivial).elim
  | _ => exact h.elim

/-- One who reads is told of the end of the data by an exception, and by nothing else. -/
theorem Use.eq_exhausted_of_throws (use : Use) (h : use.reads) {record : CallRecord}
    {failure : CallError} {error : Error} (hfailure : record.failure? = some failure)
    (hmeans : use.means failure error) (hthrows : record.Throws "NoSuchElementException") :
    error = .exhausted := by
  obtain ⟨activity, rfl⟩ := Use.means_read h hmeans
  obtain ⟨className, reason, hthrown, hsimple⟩ := hthrows.failure?
  rw [hfailure] at hthrown
  exact Error.ofCall_eq_exhausted_iff.mpr
    ⟨rfl, className, reason, Option.some.inj hthrown, hsimple⟩

theorem Use.throws_of_exhausted (use : Use) {record : CallRecord} {failure : CallError}
    (hfailure : record.failure? = some failure) (hmeans : use.means failure .exhausted) :
    use.reads ∧ record.Throws "NoSuchElementException" := by
  rcases Use.means_cases hmeans with hbridge | ⟨activity, purpose, hpurpose, hcause⟩
  · cases hbridge
  · obtain ⟨rfl, className, reason, rfl, hsimple⟩ := Error.ofCall_eq_exhausted_iff.mp hcause.symm
    refine ⟨hpurpose, hsimple ▸ CallRecord.throws_of_failure? hfailure ?_⟩
    rintro rfl
    exact absurd hsimple (by decide)

namespace Reader

/-- The part of an iteration that calls one method. -/
theorem covers_only (reader : Reader) (operation : Operation) (arguments : List Argument) :
    ((Use.read reader .iterate).terms.only operation.method).Covers
      (.onObject reader.handle operation.method arguments) .read :=
  ⟨rfl, trivial, fun activity _ ↦ ⟨activity, .read, trivial, rfl⟩, fun _ ↦ id⟩

/-- An iteration that finds no row where there should be one passes over it. -/
theorem passes_of_exhausted {records : List CallRecord} {error : Error}
    (hmakes : ∀ record ∈ records, record.call.method? = some Operation.readRow.method)
    (haccounts : Terms.Accounts ((Use.read reader .iterate).terms.only Operation.readRow.method)
      records (.error (.error error) : Except Failure α))
    (hend : error.isEndOfData = true) :
    ∀ record ∈ records, (Use.read reader .iterate).terms.Passes record := by
  have hexhausted : error.cause = .exhausted := error.isEndOfData_iff_cause.mp hend
  have hwithin := (Use.read reader .iterate).within_only Operation.readRow.method
  intro record hrecord
  cases haccounts with
  | objected _ _ hobjects _ =>
    rw [hexhausted] at hobjects
    exact hobjects.elim
  | blamed _ _ culprit hculprit hblames hothers =>
    rcases hothers record hrecord with rfl | hpasses
    · obtain ⟨-, -, failure, hfailure, hmeans⟩ := hblames
      rw [hexhausted] at hmeans
      have hthrows := ((Use.read reader .iterate).throws_of_exhausted hfailure hmeans).2
      exact fun _ ↦ .inr ⟨hmakes record hrecord, hthrows⟩
    · exact hwithin.passes (hmakes record hrecord) hpasses

/-- An iteration ends where no row is left, and every other failure is told. -/
theorem accounted_iterate (reader : Reader) :
    Accounted (Use.read reader .iterate).terms [] backend
      (ReadRequest.iterate.make reader : Client (Recorded σ) Unit) := by
  -- Each part calls one method and forgives nothing, so that its error tells of that method.
  have hwithin := (Use.read reader .iterate).within_only
  have hhasNext : Accounted ((Use.read reader .iterate).terms.only Operation.hasNextRow.method) []
      backend reader.hasNext := accounted_hasNext trivial (covers_only reader .hasNextRow [])
  have hnext : Accounted ((Use.read reader .iterate).terms.only Operation.readRow.method) []
      backend reader.next := accounted_next trivial (covers_only reader .readRow [])
  show Accounted _ [] backend (reader.step >>= _)
  unfold step
  rw [bind_assoc]
  refine hhasNext.attempt_bind (hwithin _) ?_ ?_
  · rintro (_ | _)
    · dsimp only
      rw [pure_bind]
      exact accounted_pure ()
    · dsimp only
      rw [bind_assoc]
      refine hnext.attempt_bind (hwithin _) ?_ ?_
      · intro row
        dsimp only
        rw [pure_bind]
        exact accounted_pure ()
      · intro error fresh hmakes haccounts
        dsimp only
        by_cases hend : error.isEndOfData = true
        · rw [if_pos hend, pure_bind]
          exact accounted_pure_of_passes () (passes_of_exhausted hmakes haccounts hend)
        · rw [if_neg hend, pure_bind]
          refine accounted_of_ends (fun _ ↦ runs_refuse error)
            (haccounts.within (hwithin _) hmakes ?_).hand
          rintro _ record ⟨⟩ - ⟨-, -, failure, hfailure, hmeans⟩ ⟨-, hthrows⟩
          exact hend (error.isEndOfData_iff_cause.mpr
            ((Use.read reader .iterate).eq_exhausted_of_throws trivial hfailure hmeans hthrows))
  · intro error fresh hmakes haccounts
    dsimp only
    rw [pure_bind]
    refine accounted_of_ends (fun _ ↦ runs_refuse error)
      (haccounts.within (hwithin _) hmakes ?_).hand
    rintro _ record - hmethod - ⟨hread, -⟩
    rw [hmethod] at hread
    exact absurd (Operation.method_injective (Option.some.inj hread)) (by decide)

end Reader

end Reading

/-! ### Asking for fields -/

/-- No getter returns an object. -/
theorem Operation.returns_of_getsField (operation : Operation) :
    operation.getsField = true → operation.method.returns ≠ .object := by
  cases operation <;> decide

/-- What an accessor may object to of its own accord. -/
structure Terms.Views (terms : Terms) : Prop where
  bridge : ∀ reason, terms.objects (.bridge reason)
  index : ∀ ordinal reason, terms.objects (.index ordinal reason)
  mismatch : ∀ ordinal reason, terms.objects (.typeMismatch ordinal reason)
  input : ∀ error, error.concernsInput = true → terms.objects error

/-- An operation is asked of rows in order to get a field. -/
def Terms.Gets (terms : Terms) (operation : Operation) : Prop :=
  ∀ handle arguments ordinal,
    terms.Covers (.onObject handle operation.method arguments) (.field ordinal)

namespace Accessor

variable {σ α : Type} {backend : Backend σ} {terms : Terms} {operation : Operation}
  {kind : ReturnKind} {take : Method → Returned → Except CallError α}

open Client

theorem accounted_bound (hviews : terms.Views) (accessor : Accessor) (operation : Operation) :
    Accounted terms [] backend (accessor.bound operation) := by
  unfold bound
  split
  · exact accounted_pure _
  · exact accounted_refuse rfl (hviews.bridge _)

/-- A failure is told at once, and a result that does not fit after it. -/
theorem accounted_expected {call : Call} {method : Method} {purpose : Purpose}
    {outcome : Outcome Returned} {result : Except CallError Returned}
    (htake : Returned.Takes kind take) (hkind : method.returns = kind)
    (hcovers : terms.Covers call purpose) (hmethod : call.method? = some method)
    (hresult : outcome.result = .ok result) (activity name : String) :
    Accounted terms [⟨call, outcome⟩] backend (do
      let returned ← expect activity purpose result
      expect name purpose (take method returned)) := by
  cases outcome with
  | returned returned =>
    cases hresult
    exact accounted_expect name hcovers
      (CallRecord.tells_take htake hmethod rfl rfl hkind returned)
  | failed failure =>
    cases hresult
    have htells : (⟨call, .failed failure⟩ : CallRecord).Tells (.error failure : Except _ α) :=
      CallRecord.tells_failed call failure
    exact accounted_of_ends (fun _ ↦ (runs_refuse _).bind_error)
      (accounts_ofCall hcovers htells activity)
  | crashed => cases hresult

theorem accounted_getField (hviews : terms.Views) (hgets : terms.Gets operation)
    (htake : Returned.Takes kind take) (hkind : operation.method.returns = kind)
    (accessor : Accessor) (ordinal : Nat) :
    Accounted terms [] backend (accessor.getField operation take ordinal) := by
  unfold getField callField
  rw [bind_assoc]
  refine (accounted_bound hviews accessor operation).bind fun handle ↦ ?_
  split
  · have hindex := hviews.index ordinal "ordinal does not fit a Java int"
    exact accounted_of_ends (fun _ ↦ (runs_refuse _).bind_error)
      (.objected _ (.inr rfl) hindex (List.forall_mem_nil _))
  · rw [bind_assoc]
    have hcovers := hgets handle [.int (Int32.ofNat ordinal)] ordinal
    exact accounted_call_bind hcovers.makes fun outcome result hresult ↦
      accounted_expected htake hkind hcovers rfl hresult _ _

theorem accounted_length (hviews : terms.Views)
    (hcovers : ∀ handle, terms.Covers (.onObject handle Operation.rowLength.method []) .other)
    (hmanaged : ∀ operation exception reason, terms.objects (.managed operation exception reason))
    (accessor : Accessor) : Accounted terms [] backend accessor.length := by
  refine (accounted_bound hviews accessor .rowLength).bind fun handle ↦ ?_
  refine accounted_call_bind (hcovers handle).makes fun outcome result hresult ↦ ?_
  rw [← bind_assoc]
  refine (accounted_expected Returned.takes_toInt rfl (hcovers handle) rfl hresult _ _).bind
    fun count ↦ ?_
  split
  · exact accounted_refuse rfl (hmanaged _ _ _)
  · exact accounted_pure _

theorem accounted_typeName (hviews : terms.Views) (hgets : terms.Gets .columnTypeName)
    (hmanaged : ∀ operation exception reason, terms.objects (.managed operation exception reason))
    (accessor : Accessor) (ordinal : Nat) :
    Accounted terms [] backend (accessor.typeName ordinal) := by
  refine (accounted_getField hviews hgets Returned.takes_toText rfl accessor ordinal).bind ?_
  rintro (_ | name)
  · exact accounted_refuse rfl (hmanaged _ _ _)
  · exact accounted_pure name

theorem accounted_readType (hviews : terms.Views) (name : String) :
    Accounted terms [] backend (readType name : Client (Recorded σ) DataType) := by
  unfold readType
  split
  · exact accounted_pure _
  · rename_i error herror
    exact accounted_input hviews.input (DataType.checksInput_read name) herror

theorem accounted_type (hviews : terms.Views) (hgets : terms.Gets .columnTypeName)
    (hmanaged : ∀ operation exception reason, terms.objects (.managed operation exception reason))
    (accessor : Accessor) (ordinal : Nat) :
    Accounted terms [] backend (accessor.type ordinal) :=
  (accounted_typeName hviews hgets hmanaged accessor ordinal).bind fun name ↦
    accounted_readType hviews name

theorem accounted_elementTypeName (hviews : terms.Views) (hgets : terms.Gets .elementTypeName)
    (accessor : Accessor) (ordinal : Nat) :
    Accounted terms [] backend (accessor.elementTypeName ordinal) := by
  refine (accounted_getField hviews hgets Returned.takes_toText rfl accessor ordinal).bind ?_
  rintro (_ | name)
  · exact accounted_refuse rfl (hviews.mismatch _ _)
  · exact accounted_pure name

theorem accounted_elementType (hviews : terms.Views) (hgets : terms.Gets .elementTypeName)
    (accessor : Accessor) (ordinal : Nat) :
    Accounted terms [] backend (accessor.elementType ordinal) :=
  (accounted_elementTypeName hviews hgets accessor ordinal).bind fun name ↦
    accounted_readType hviews name

theorem accounted_arrayValue (hviews : terms.Views) (hgets : terms.Gets .elementTypeName)
    (hitems : terms.Gets .getArray) (accessor : Accessor) (ordinal : Nat) :
    Accounted terms [] backend (accessor.arrayValue ordinal) := by
  refine (accounted_elementType hviews hgets accessor ordinal).bind fun element ↦ ?_
  refine (accounted_getField hviews hitems Returned.takes_toTexts rfl accessor ordinal).bind
    fun items ↦ ?_
  refine (accounted_mapM items fun item ↦ ?_).bind fun values ↦
    accounted_pure _
  cases item with
  | none => exact accounted_pure _
  | some text =>
    rw [readItem]
    split
    · exact accounted_pure _
    · exact accounted_refuse rfl (hviews.mismatch _ _)

theorem accounted_valueOf (hviews : terms.Views)
    (hgets : ∀ operation : Operation, operation.getsField = true → terms.Gets operation)
    (accessor : Accessor) (ordinal : Nat) (type : DataType) :
    Accounted terms [] backend (accessor.valueOf ordinal type) := by
  have hfield {β : Type} {operation : Operation} {kind : ReturnKind}
      {take : Method → Returned → Except CallError β} (form : β → Value)
      (hoperation : operation.getsField = true) (htake : Returned.Takes kind take)
      (hkind : operation.method.returns = kind) :
      Accounted terms [] backend (form <$> accessor.getField operation take ordinal) :=
    (accounted_getField hviews (hgets operation hoperation) htake hkind accessor ordinal).map form
  cases type with
  | short => exact hfield _ rfl Returned.takes_toShort rfl
  | int => exact hfield _ rfl Returned.takes_toInt rfl
  | date => exact hfield _ rfl Returned.takes_toInt rfl
  | long => exact hfield _ rfl Returned.takes_toLong rfl
  | timestamp => exact hfield _ rfl Returned.takes_toLong rfl
  | double => exact hfield _ rfl Returned.takes_toDouble rfl
  | float => exact hfield _ rfl Returned.takes_toFloat rfl
  | boolean => exact hfield _ rfl Returned.takes_toBoolean rfl
  | string => exact hfield _ rfl Returned.takes_toText rfl
  | varchar => exact hfield _ rfl Returned.takes_toText rfl
  | decimal => exact hfield _ rfl Returned.takes_toText rfl
  | array =>
    exact accounted_arrayValue hviews (hgets .elementTypeName rfl) (hgets .getArray rfl) accessor
      ordinal

/-! ### Nulls that getters stumble over -/

/-- The terms of getting a field by the getter that fits its column: nothing is passed over. -/
def cellTerms (outer : Terms) : Terms where
  makes call := ∃ operation : Operation,
    operation.getsField = true ∧ call.method? = some operation.method
  heeds := outer.heeds
  means failure error := outer.means failure error ∧
    ∃ activity ordinal, error = .ofCall activity (.field ordinal) failure
  objects error := outer.objects error ∧ error.isNullPointer = false
  forgives _ := False
  wraps := False

variable {question : Question} {accessor : Accessor} {ordinal : Nat}

theorem within_cellTerms (use : Use) : (cellTerms use.terms).Within use.terms where
  makes _ _ := trivial
  heeds _ _ := Iff.rfl
  means _ _ h := h.1
  objects _ h := h.1
  forgives _ := False.elim
  wraps := False.elim

theorem views_ask : (Use.ask accessor question ordinal).terms.Views :=
  ⟨fun _ ↦ trivial, fun _ _ ↦ trivial, fun _ _ ↦ trivial, fun _ ↦ Use.objects_of_concernsInput⟩

theorem views_cellTerms : (cellTerms (Use.ask accessor question ordinal).terms).Views where
  bridge _ := ⟨trivial, rfl⟩
  index _ _ := ⟨trivial, rfl⟩
  mismatch _ _ := ⟨trivial, rfl⟩
  input error h := by
    refine ⟨Use.objects_of_concernsInput h, ?_⟩
    cases error with
    | config reason => rfl
    | schema reason => rfl
    | _ => cases h

theorem gets_cellTerms {operation : Operation} (h : operation.getsField = true) :
    (cellTerms (Use.ask accessor question ordinal).terms).Gets operation :=
  fun _ _ position ↦ ⟨⟨operation, h, rfl⟩, trivial,
    fun activity _ ↦ ⟨⟨activity, .field position, trivial, rfl⟩, activity, position, rfl⟩,
    fun _ ↦ id⟩

/-- An error of a getter tells of a null if the getter threw the exception for it. -/
theorem isNullPointer_iff_throws {record : CallRecord} {error : Error} {failure : CallError}
    (hmakes : ∃ operation : Operation,
      operation.getsField = true ∧ record.call.method? = some operation.method)
    (hfailure : record.failure? = some failure)
    (hcause : ∃ activity position, error = .ofCall activity (.field position) failure) :
    error.isNullPointer = true ↔ record.Throws "NullPointerException" := by
  obtain ⟨operation, hoperation, hmethod⟩ := hmakes
  obtain ⟨activity, position, rfl⟩ := hcause
  rw [Error.isNullPointer_ofCall_field_iff]
  constructor
  · rintro ⟨className, reason, rfl, hsimple⟩
    rw [← hsimple]
    refine CallRecord.throws_of_failure? hfailure ?_
    rintro - method hother
    obtain rfl : operation.method = method := by simpa [hmethod] using hother
    exact operation.returns_of_getsField hoperation
  · intro hthrows
    obtain ⟨className, reason, hthrown, hsimple⟩ := hthrows.failure?
    rw [hfailure] at hthrown
    exact ⟨className, reason, Option.some.inj hthrown, hsimple⟩

/-- A getter that stumbles over a null is passed over. -/
theorem passes_of_isNullPointer (hnull : question.takesNull = true) {records : List CallRecord}
    {error : Error}
    (hmakes : ∀ record ∈ records, ∃ operation : Operation,
      operation.getsField = true ∧ record.call.method? = some operation.method)
    (haccounts : Terms.Accounts (cellTerms (Use.ask accessor question ordinal).terms) records
      (.error (.error error) : Except Failure α)) (herror : error.isNullPointer = true) :
    ∀ record ∈ records, (Use.ask accessor question ordinal).terms.Passes record := by
  have hwithin := within_cellTerms (Use.ask accessor question ordinal)
  intro record hrecord
  cases haccounts with
  | objected _ hshape hobjects _ =>
    obtain ⟨-, hnot⟩ := hobjects
    rw [hshape.resolve_left id, herror] at hnot
    cases hnot
  | blamed _ hshape culprit _ hblames hothers =>
    rcases hothers record hrecord with rfl | hpasses
    · obtain ⟨-, -, failure, hfailure, -, hcause⟩ := hblames
      rw [hshape.resolve_left id] at hcause
      have hmade := hmakes record hrecord
      have hthrows := (isNullPointer_iff_throws hmade hfailure hcause).mp herror
      exact fun _ ↦ .inr ⟨hnull, hthrows, hmade⟩
    · exact hwithin.passes (hmakes record hrecord) hpasses

/-- Looking at the row or at the type of a column is nothing that a null would be taken for. -/
theorem covers_ask {call : Call} {operation : Operation} {purpose : Purpose}
    (hmethod : call.method? = some operation.method)
    (hpurpose : (Use.ask accessor question ordinal).intends purpose)
    (hplain : question.takesNull = true → operation.getsField = false) :
    (Use.ask accessor question ordinal).terms.Covers call purpose := by
  refine ⟨trivial, Use.heeds_of_method? hmethod, ?_, ?_⟩
  · exact fun activity _ ↦ ⟨activity, purpose, hpurpose, rfl⟩
  · rintro outcome ⟨hnull, -, other, hother, hsame⟩
    obtain rfl : operation = other :=
      Operation.method_injective (Option.some.inj (hmethod.symm.trans hsame))
    rw [hplain hnull] at hother
    cases hother

theorem gets_ask {operation : Operation}
    (hplain : question.takesNull = true → operation.getsField = false) :
    (Use.ask accessor question ordinal).terms.Gets operation :=
  fun _ _ _ ↦ covers_ask rfl trivial hplain

/-- The value of a field is null if a getter stumbles over one. -/
theorem accounted_value (hnull : question.takesNull = true) (view : Accessor) (position : Nat) :
    Accounted (Use.ask accessor question ordinal).terms [] backend (view.value position) := by
  have hwithin := within_cellTerms (Use.ask accessor question ordinal)
  refine (accounted_type views_ask (gets_ask fun _ ↦ rfl) (fun _ _ _ ↦ trivial) view position).bind
    fun type ↦ ?_
  refine (accounted_valueOf views_cellTerms (fun _ h ↦ gets_cellTerms h) view position
    type).attempt_bind hwithin ?_ ?_
  · exact fun value ↦ accounted_pure value
  · intro error fresh hmakes haccounts
    dsimp only
    split
    · rename_i herror
      exact accounted_pure_of_passes _ (passes_of_isNullPointer hnull hmakes haccounts herror)
    · rename_i herror
      -- The failure would be forgiven only if the error told of a null.
      refine accounted_of_ends (fun _ ↦ runs_refuse error) (haccounts.within hwithin hmakes ?_)
      rintro _ record ⟨⟩ hmade ⟨-, -, failure, hfailure, -, hcause⟩ ⟨-, hthrows, -⟩
      rw [haccounts.shapes.resolve_left id] at hcause
      exact herror ((isNullPointer_iff_throws hmade hfailure hcause).mpr hthrows)

theorem accounted_valuesFrom (hnull : question.takesNull = true) (view : Accessor)
    (count position : Nat) :
    Accounted (Use.ask accessor question ordinal).terms [] backend
      (view.valuesFrom position count) := by
  induction count generalizing position with
  | zero => exact accounted_pure []
  | succ count ih =>
    exact (accounted_value hnull view position).bind fun value ↦ (ih (position + 1)).bind
      fun rest ↦ accounted_pure (value :: rest)

/-- Every question. -/
theorem accounted_ask (accessor : Accessor) (question : Question) (ordinal : Nat) :
    Accounted (Use.ask accessor question ordinal).terms [] backend
      (question.ask accessor ordinal) := by
  have hgets (operation : Operation) (hplain : question.takesNull = false) :
      (Use.ask accessor question ordinal).terms.Gets operation := by
    refine gets_ask fun hnull ↦ ?_
    rw [hplain] at hnull
    cases hnull
  have hfield {β : Type} {operation : Operation} {kind : ReturnKind}
      {take : Method → Returned → Except CallError β} (form : β → RowAnswer)
      (hplain : question.takesNull = false) (htake : Returned.Takes kind take)
      (hkind : operation.method.returns = kind) :
      Accounted (Use.ask accessor question ordinal).terms [] backend
        (form <$> accessor.getField operation take ordinal) :=
    (accounted_getField views_ask (hgets operation hplain) htake hkind accessor ordinal).map form
  have hlength : Accounted (Use.ask accessor question ordinal).terms [] backend
      accessor.length :=
    accounted_length views_ask (fun _ ↦ covers_ask rfl id fun _ ↦ rfl) (fun _ _ _ ↦ trivial)
      accessor
  cases question with
  | length => exact (hlength.bind fun count ↦ accounted_pure (count : Int)).map _
  | typeName =>
    exact (accounted_typeName views_ask (hgets _ rfl) (fun _ _ _ ↦ trivial) accessor ordinal).map _
  | type =>
    exact (accounted_type views_ask (hgets _ rfl) (fun _ _ _ ↦ trivial) accessor ordinal).map _
  | elementTypeName =>
    exact (accounted_elementTypeName views_ask (hgets _ rfl) accessor ordinal).map _
  | elementType => exact (accounted_elementType views_ask (hgets _ rfl) accessor ordinal).map _
  | short => exact hfield _ rfl Returned.takes_toShort rfl
  | int => exact hfield _ rfl Returned.takes_toInt rfl
  | long => exact hfield _ rfl Returned.takes_toLong rfl
  | double => exact hfield _ rfl Returned.takes_toDouble rfl
  | float => exact hfield _ rfl Returned.takes_toFloat rfl
  | boolean => exact hfield _ rfl Returned.takes_toBoolean rfl
  | string => exact hfield _ rfl Returned.takes_toText rfl
  | decimal => exact hfield _ rfl Returned.takes_toText rfl
  | varchar => exact hfield _ rfl Returned.takes_toText rfl
  | array => exact hfield _ rfl Returned.takes_toTexts rfl
  | value => exact (accounted_value rfl accessor ordinal).map _
  | printed => exact ((accounted_value rfl accessor ordinal).map _).map _
  | printedRow =>
    exact (hlength.bind fun count ↦ (accounted_valuesFrom rfl accessor count 0).bind fun _ ↦
      accounted_pure _).map _
  | values => exact (hlength.bind fun count ↦ accounted_valuesFrom rfl accessor count 0).map _

end Accessor

end ColumnStore
