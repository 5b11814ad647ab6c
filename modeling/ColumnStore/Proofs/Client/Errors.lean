import ColumnStore.Proofs.Client.Answering

/-!
# Errors and the calls behind them

The end of a use tells of the calls that it made, on a backend that answers in any way. A result is
given only if every call succeeded, and returned what its method returns; the exceptions are the two
failures that are passed over, and these show in the result. An error is classified by what failed:
the end of the data, a failed build, a field that does not exist or does not fit, and a failure of
the bridge are each told by one kind of error, and to those only whom they concern.
-/

set_option autoImplicit false

namespace ColumnStore

/-! ### Every use -/

section Uses

variable {σ α : Type} {backend : Backend σ}

open Client

/-- Building makes the last call for the path. -/
theorem Use.covers_build (use : Use) (h : use.builds) (handle : Handle) (operation : Operation)
    (path : String) :
    use.terms.Covers (.onObject handle operation.method []) (.build path) := by
  cases use with
  | buildReader builder =>
    exact ⟨trivial, trivial, fun activity _ ↦ ⟨activity, .build path, trivial, rfl⟩, fun _ ↦ id⟩
  | buildRemoteReader builder access secret endpoint =>
    exact ⟨trivial, trivial, fun activity _ ↦ ⟨activity, .build path, trivial, rfl⟩, fun _ ↦ id⟩
  | buildWriter builder =>
    exact ⟨trivial, trivial, fun activity _ ↦ ⟨activity, .build path, trivial, rfl⟩, fun _ ↦ id⟩
  | _ => exact h.elim

theorem accounted_make (reader : Reader) (request : ReadRequest) :
    Accounted (Use.read reader request).terms [] backend (request.make reader) := by
  have hclosed : (Use.read reader request).terms.objects (.closed .reader) := trivial
  have hcovers (hplain : request ≠ .iterate) (operation : Operation) (arguments : List Argument) :
      (Use.read reader request).terms.Covers (.onObject reader.handle operation.method arguments)
        .read := by
    refine Use.covers_read request rfl fun outcome hforgives ↦ ?_
    cases request with
    | iterate => exact hplain rfl
    | _ => exact hforgives
  cases request with
  | hasNext =>
    exact (Reader.accounted_hasNext hclosed (hcovers nofun _ _)).bind fun _ ↦ accounted_pure ()
  | next =>
    exact (Reader.accounted_next hclosed (hcovers nofun _ _)).bind fun _ ↦ accounted_pure ()
  | nextBatch size =>
    exact (Reader.accounted_nextBatch hclosed (fun _ ↦ Use.objects_of_concernsInput)
      (fun _ ↦ hcovers nofun _ _) size).bind fun _ ↦ accounted_pure ()
  | iterate => exact Reader.accounted_iterate reader

/-- A shutdown whose call succeeds is reported, and one whose call fails is refused. -/
theorem accounted_shutdown_bind {next : Except CallError Unit → Client (Recorded σ) Unit}
    {event : Event} (hok : next (.ok ()) = report event)
    (herror : ∀ failure, next (.error failure) = refuse (.bridge failure.message)) :
    Accounted Use.shutdown.terms [] backend (exchange Backend.shutdown >>= next) := by
  refine accounted_exchange_bind (fun _ ↦ .nothing) rfl trivial fun outcome result hresult ↦ ?_
  have htells := CallRecord.tells_result .shutdown (fun _ ↦ .nothing) hresult nofun
  cases result with
  | ok _ =>
    rw [hok]
    exact (accounted_report event).after (Terms.passes_singleton htells)
  | error failure =>
    rw [herror]
    exact accounted_of_ends (fun _ ↦ runs_refuse _) (.blamed _ (.inr rfl) _ List.mem_cons_self
      ⟨trivial, id, failure, htells, rfl⟩ (by simp))

/-- A shutdown looks at the backend, and the one call that it makes tells how it ends. -/
theorem accounted_shutdown :
    Accounted Use.shutdown.terms [] backend (Client.shutdown : Client (Recorded σ) Unit) := by
  have hread : Accounted Use.shutdown.terms [] backend
      (read : Client (Recorded σ) (Backend (Recorded σ))) :=
    accounted_of_ends (fun _ _ ↦ ⟨rfl, rfl⟩)
      (.returned backend.recorded (List.forall_mem_nil _))
  have hlive : Accounted Use.shutdown.terms [] backend
      (liveObjects : Client (Recorded σ) Nat) := by
    intro state log
    exact ⟨[], (List.append_nil _).symm, List.forall_mem_nil _, .returned _ (List.forall_mem_nil _)⟩
  refine hread.bind fun known ↦ hlive.bind fun live ↦ ?_
  split
  · exact (accounted_report _).bind fun _ ↦ accounted_shutdown_bind rfl fun _ ↦ rfl
  · exact accounted_shutdown_bind rfl fun _ ↦ rfl

/-- Every use keeps to its terms. -/
theorem Use.accounted (use : Use) :
    Accounted use.terms [] backend (use.perform : Client (Recorded σ) Unit) := by
  have hread (h : ∀ handle, use.tidies handle) (handle : Handle) :
      use.terms.makes (.release handle) ∧ ¬ use.terms.heeds (.release handle) :=
    ⟨trivial, fun hheeds ↦ hheeds (h handle)⟩
  cases use with
  | readerBuilder path table =>
    exact (ReaderBuilder.accounted_forPath (ordinary rfl) path table).map _
  | readerStep builder step =>
    exact (ReaderBuilder.accounted_take (builds_terms rfl fun _ ↦ Iff.rfl) step).map _
  | readerConfiguration builder settings =>
    have hbuilds := (Use.readerConfiguration builder settings).builds_terms rfl fun _ ↦ Iff.rfl
    exact (ReaderBuilder.accounted_stepped hbuilds (accounted_chain hbuilds rfl _ _)).map _
  | buildReader builder =>
    exact (ReaderBuilder.accounted_build (builds_terms rfl fun _ ↦ Iff.rfl)
      (covers_build (.buildReader builder) trivial _ _ _)).map _
  | buildRemoteReader builder access secret endpoint =>
    have hcovers := (Use.buildRemoteReader builder access secret endpoint).covers_build trivial
    exact (ReaderBuilder.accounted_buildRemote (builds_terms rfl fun _ ↦ Iff.rfl) (hcovers _ _ _)
      access secret endpoint).map _
  | read reader request => exact accounted_make reader request
  | closeReader reader => exact (reader.accounted_close (ordinary rfl)).map _
  | ask accessor question ordinal => exact (accessor.accounted_ask question ordinal).map _
  | writerBuilder => exact (WriterBuilder.accounted_create (ordinary rfl)).map _
  | writerStep builder step =>
    exact (WriterBuilder.accounted_take (builds_terms rfl fun _ ↦ Iff.rfl) step).map _
  | buildWriter builder =>
    exact (WriterBuilder.accounted_build (builds_terms rfl fun _ ↦ Iff.rfl)
      fun _ ↦ covers_build (.buildWriter builder) trivial _ _ _).map _
  | write writer record => exact (writer.accounted_write (ordinary rfl) trivial record).map _
  | writeValues writer values =>
    exact (writer.accounted_write (ordinary rfl) trivial (Value.cells values)).map _
  | closeWriter writer => exact (writer.accounted_close (ordinary rfl)).map _
  | newConfiguration => exact (Configuration.accounted_create (ordinary rfl)).map _
  | configurationOf options =>
    exact (Configuration.accounted_ofOptions (ordinary rfl) (hread fun _ ↦ trivial) options).map _
  | setEntry configuration key value =>
    exact configuration.accounted_set (ordinary rfl) key value
  | getEntry configuration key => exact (configuration.accounted_get (ordinary rfl) key).map _
  | schema source path =>
    have hsource {operation : Operation} (hreturns : operation.method.returns = .object) :
        Accounted (Use.schema source path).terms [] backend (SchemaReader.read operation path) :=
      SchemaReader.accounted_read (ordinary rfl) (hread fun _ ↦ trivial) trivial hreturns path
    cases source with
    | indexFile => exact (hsource rfl).map _
    | dataFile => exact (hsource rfl).map _
    | schemaFile => exact (hsource rfl).map _
  | versionDetails path => exact (SchemaReader.accounted_versionDetails (ordinary rfl) path).map _
  | shutdown => exact accounted_shutdown

end Uses

/-! ### What the end of a use tells -/

/-- What the end of a use tells of the calls that it made. -/
structure Use.TellsOf (use : Use) (records : List CallRecord) (result : Except Failure Unit) :
    Prop where
  /-- Nothing is swallowed. -/
  succeeds : result = .ok () → ∀ record ∈ records, use.heeds record.call →
    record.Succeeds ∨ use.forgives record
  /-- The end of the data is told to those who read, and it is the one exception for it. -/
  endOfData : (∃ error, result = .error (.error error) ∧ error.isEndOfData = true) ↔
    use.reads ∧ ∃ record ∈ records,
      record.Throws "NoSuchElementException" ∧ ¬ use.forgives record
  /-- A build that fails is told to those who build. -/
  build : ∀ error path reason, result = .error (.error error) →
    error.cause = .build path reason → use.builds
  /-- Fields that do not exist or do not fit are told to those who ask for them. -/
  field : ∀ error ordinal reason, result = .error (.error error) →
    error.cause = .index ordinal reason ∨ error.cause = .typeMismatch ordinal reason → use.asks
  /-- A failure that is no exception is told as one of the bridge, unless giving up something that
  is not needed any more breaks off after it. -/
  bridge : ∀ record ∈ records, use.heeds record.call → ∀ failure, record.failure? = some failure →
    failure.exceptionClass? = none →
      (∃ error activity, result = .error (.error error) ∧
        error.cause = .bridge (activity ++ failure.message)) ∨
      result = .error .crash ∧ ∃ other ∈ records, other.outcome = .crashed ∧ ¬ use.heeds other.call
  /-- Only a call that breaks off breaks a use off. -/
  crash : result = .error .crash → ∃ record ∈ records, record.outcome = .crashed

namespace Use

variable {use : Use} {records : List CallRecord} {result : Except Failure Unit}

open Terms

theorem heeds_of_reads (h : use.reads) (call : Call) : use.heeds call := by
  cases use with
  | read reader request =>
    cases call with
    | release handle => exact id
    | _ => trivial
  | _ => exact h.elim

/-- A call that failed passes only if it is forgiven. -/
theorem forgives_of_passes {record : CallRecord} {failure : CallError}
    (h : use.terms.Passes record) (hheeds : use.heeds record.call)
    (hfailure : record.failure? = some failure) : use.forgives record := by
  rcases h hheeds with hsucceeds | hforgives
  · rw [hsucceeds.failure?_eq_none] at hfailure
    cases hfailure
  · exact hforgives

/-- A heeded failure that is not forgiven is the one that the end is blamed on. -/
theorem blames_of_failure (haccounts : Accounts use.terms records result) {record : CallRecord}
    (hrecord : record ∈ records) (hheeds : use.heeds record.call) {failure : CallError}
    (hfailure : record.failure? = some failure) (hforgives : ¬ use.forgives record) :
    (∃ error, result = .error (.error error) ∧ use.means failure error.cause) ∨
      result = .error .crash ∧ ∃ other ∈ records, other.outcome = .crashed ∧
        ¬ use.heeds other.call := by
  have hpasses : ¬ use.terms.Passes record :=
    fun hpasses ↦ hforgives (forgives_of_passes hpasses hheeds hfailure)
  cases haccounts with
  | returned _ hall => exact absurd (hall record hrecord) hpasses
  | objected _ _ _ hall => exact absurd (hall record hrecord) hpasses
  | blamed error _ culprit _ hblames hothers =>
    obtain rfl := (hothers record hrecord).resolve_right hpasses
    obtain ⟨-, -, blamed, hblamed, hmeans⟩ := hblames
    rw [hfailure] at hblamed
    obtain rfl := Option.some.inj hblamed
    exact .inl ⟨error, rfl, hmeans⟩
  | brokeOff culprit hculprit hcrashed hothers =>
    -- A heeded call that breaks off is the only one that does not pass, and it has no failure.
    refine .inr ⟨rfl, culprit, hculprit, hcrashed, fun hculpritHeeds ↦ ?_⟩
    obtain rfl := (hothers hculpritHeeds record hrecord).resolve_right hpasses
    simp [CallRecord.failure?, hcrashed] at hfailure

theorem means_bridge {failure : CallError} {error : Error} (h : use.means failure error)
    (hclass : failure.exceptionClass? = none) :
    ∃ activity, error = .bridge (activity ++ failure.message) := by
  rcases means_cases h with rfl | ⟨activity, purpose, -, rfl⟩
  · exact ⟨"", by simp⟩
  · cases failure with
    | exception className reason => cases hclass
    | _ => exact ⟨activity ++ ": ", rfl⟩

/-- The purpose of a call can be told from the error. -/
theorem intends_of_ofCall {activity : String} {purpose : Purpose} {failure : CallError}
    (hpurpose : use.intends purpose) :
    (∀ path reason, Error.ofCall activity purpose failure = .build path reason → use.builds) ∧
      ∀ ordinal reason, Error.ofCall activity purpose failure = .index ordinal reason ∨
        Error.ofCall activity purpose failure = .typeMismatch ordinal reason → use.asks := by
  cases failure with
  | exception className reason =>
    cases purpose with
    | build path => exact ⟨fun _ _ _ ↦ hpurpose, by simp [Error.ofCall, Error.ofException]⟩
    | read =>
      by_cases hsimple : CallError.simpleName className = "NoSuchElementException"
      · simp [Error.ofCall, Error.ofException, hsimple]
      · simp [Error.ofCall, Error.ofException, hsimple]
    | field position =>
      refine ⟨?_, fun _ _ _ ↦ hpurpose⟩
      simp only [Error.ofCall, Error.ofException]
      split
      · simp
      · split
        · simp
        · simp
    | other => simp [Error.ofCall, Error.ofException]
  | _ => simp [Error.ofCall]

/-- The one call that fails is the one that found no more data. -/
theorem isEndOfData_iff_of_accounts (h : Accounts use.terms records result) :
    (∃ error, result = .error (.error error) ∧ error.isEndOfData = true) ↔
      use.reads ∧ ∃ record ∈ records,
        record.Throws "NoSuchElementException" ∧ ¬ use.forgives record := by
  constructor
  · rintro ⟨error, rfl, hend⟩
    have hexhausted := error.isEndOfData_iff_cause.mp hend
    cases h with
    | objected _ _ hobjects _ =>
      rw [hexhausted] at hobjects
      exact hobjects.elim
    | blamed _ _ culprit hculprit hblames _ =>
      obtain ⟨-, hforgives, failure, hfailure, hmeans⟩ := hblames
      rw [hexhausted] at hmeans
      obtain ⟨hreads, hthrows⟩ := use.throws_of_exhausted hfailure hmeans
      exact ⟨hreads, culprit, hculprit, hthrows, hforgives⟩
  · rintro ⟨hreads, record, hrecord, hthrows, hforgives⟩
    obtain ⟨className, reason, hfailure, -⟩ := hthrows.failure?
    rcases blames_of_failure h hrecord (heeds_of_reads hreads _) hfailure hforgives with
      ⟨error, rfl, hmeans⟩ | ⟨-, other, -, -, hother⟩
    · exact ⟨error, rfl, error.isEndOfData_iff_cause.mpr
        (use.eq_exhausted_of_throws hreads hfailure hmeans hthrows)⟩
    · exact absurd (heeds_of_reads hreads _) hother

theorem builds_of_accounts {error : Error} {path reason : String}
    (h : Accounts use.terms records (.error (.error error) : Except Failure Unit))
    (hcause : error.cause = .build path reason) : use.builds := by
  cases h with
  | objected _ _ hobjects _ =>
    rw [hcause] at hobjects
    exact hobjects.elim
  | blamed _ _ _ _ hblames _ =>
    obtain ⟨-, -, failure, -, hmeans⟩ := hblames
    rcases means_cases hmeans with hbridge | ⟨activity, purpose, hpurpose, hmeant⟩
    · rw [hcause] at hbridge
      cases hbridge
    · exact (intends_of_ofCall hpurpose).1 path reason (hmeant.symm.trans hcause)

theorem asks_of_accounts {error : Error} {ordinal : Nat} {reason : String}
    (h : Accounts use.terms records (.error (.error error) : Except Failure Unit))
    (hcause : error.cause = .index ordinal reason ∨ error.cause = .typeMismatch ordinal reason) :
    use.asks := by
  cases h with
  | objected _ _ hobjects _ =>
    rcases hcause with hcause | hcause
    · rw [hcause] at hobjects
      exact hobjects
    · rw [hcause] at hobjects
      exact hobjects
  | blamed _ _ _ _ hblames _ =>
    obtain ⟨-, -, failure, -, hmeans⟩ := hblames
    rcases means_cases hmeans with hbridge | ⟨activity, purpose, hpurpose, hmeant⟩
    · rw [hbridge] at hcause
      rcases hcause with hcause | hcause <;> cases hcause
    · rw [hmeant] at hcause
      exact (intends_of_ofCall hpurpose).2 ordinal reason hcause

/-- Nothing but an exception is forgiven. -/
theorem not_forgives_of_exceptionClass? {record : CallRecord} {failure : CallError}
    (hfailure : record.failure? = some failure) (hclass : failure.exceptionClass? = none) :
    ¬ use.forgives record := by
  intro hforgives
  obtain ⟨simple, hthrows⟩ := throws_of_forgives hforgives
  obtain ⟨className, reason, hthrown, -⟩ := hthrows.failure?
  rw [hfailure] at hthrown
  obtain rfl := Option.some.inj hthrown
  cases hclass

/-- The end of a use tells of the calls that it accounts for. -/
theorem tellsOf_of_accounts (h : Accounts use.terms records result) :
    use.TellsOf records result where
  succeeds := by
    rintro rfl
    exact h.passes
  endOfData := isEndOfData_iff_of_accounts h
  build := by
    rintro error path reason rfl hcause
    exact builds_of_accounts h hcause
  field := by
    rintro error ordinal reason rfl hcause
    exact asks_of_accounts h hcause
  bridge := by
    intro record hrecord hheeds failure hfailure hclass
    have hforgives : ¬ use.forgives record := not_forgives_of_exceptionClass? hfailure hclass
    rcases blames_of_failure h hrecord hheeds hfailure hforgives with ⟨error, rfl, hmeans⟩ | hcrash
    · obtain ⟨activity, hcause⟩ := means_bridge hmeans hclass
      exact .inl ⟨error, activity, rfl, hcause⟩
    · exact .inr hcrash
  crash := by
    rintro rfl
    cases h with
    | brokeOff record hrecord hcrashed _ => exact ⟨record, hrecord, hcrashed⟩

end Use

/-! ### What is passed over -/

section Passing

variable {σ α β : Type} {backend : Backend σ} {terms : Terms} {records : List CallRecord}

open Client

/-- Every call is heeded, and no failure is passed over. -/
structure Terms.Strict (terms : Terms) : Prop where
  heeds : ∀ call, terms.heeds call
  resents : ∀ record, ¬ terms.forgives record

theorem Terms.Strict.succeeds (h : terms.Strict) {a : α}
    (haccounts : Accounts terms records (.ok a : Except Failure α)) :
    ∀ record ∈ records, record.Succeeds :=
  fun record hrecord ↦
    (haccounts.passes record hrecord (h.heeds _)).resolve_right (h.resents record)

/-- If the action has a result, then every call that it made succeeded, unless the result shows that
one did not. -/
def Client.Clean (backend : Backend σ) (action : Client (Recorded σ) α) (shows : α → Prop) : Prop :=
  ∀ state, Ends backend.recorded action state fun result after ↦
    ∃ fresh, after.records = state.records ++ fresh ∧
      ∀ a, result = .ok a → shows a ∨ ∀ record ∈ fresh, record.Succeeds

/-- An action is clean after calls that succeeded. -/
theorem Client.Clean.after {action : Client (Recorded σ) α} {shows : α → Prop}
    {state middle : Recorded σ} (h : Clean backend action shows)
    (hrecords : middle.records = state.records ++ records)
    (hsucceeds : ∀ record ∈ records, record.Succeeds) :
    Ends backend.recorded action middle fun result after ↦
      ∃ fresh, after.records = state.records ++ fresh ∧
        ∀ a, result = .ok a → shows a ∨ ∀ record ∈ fresh, record.Succeeds := by
  refine (h middle).mono ?_
  rintro result after ⟨later, hlater, hclean⟩
  refine ⟨records ++ later, Recorded.records_trans hrecords hlater, fun a ha ↦ ?_⟩
  exact (hclean a ha).imp_right fun hlaterSucceeds ↦
    List.forall_mem_append.mpr ⟨hsucceeds, hlaterSucceeds⟩

theorem Client.Accounted.clean_bind {action : Client (Recorded σ) α}
    {next : α → Client (Recorded σ) β} {shows : β → Prop}
    (h : Accounted terms [] backend action) (hstrict : terms.Strict)
    (hnext : ∀ a, Clean backend (next a) shows) : Clean backend (action >>= next) shows := by
  intro state
  refine Ends.bind (h state) ?_ ?_
  · rintro a middle ⟨fresh, hrecords, -, haccounts⟩
    exact (hnext a).after hrecords (hstrict.succeeds haccounts)
  · rintro failure middle ⟨fresh, hrecords, -⟩
    exact ⟨fresh, hrecords, nofun⟩

/-- After an error the result must show that a call did not succeed. -/
theorem Client.Accounted.clean_attempt_bind {action : Client (Recorded σ) α}
    {next : Except Error α → Client (Recorded σ) β} {shows : β → Prop}
    (h : Accounted terms [] backend action) (hstrict : terms.Strict)
    (hok : ∀ a, Clean backend (next (.ok a)) shows)
    (herror : ∀ error state, Ends backend.recorded (next (.error error)) state fun result after ↦
      after = state ∧ ∀ b, result = .ok b → shows b) :
    Clean backend (attempt action >>= next) shows := by
  intro state
  refine Ends.attempt_bind (h state) ?_ ?_ ?_
  · rintro a middle ⟨fresh, hrecords, -, haccounts⟩
    exact (hok a).after hrecords (hstrict.succeeds haccounts)
  · rintro error middle ⟨fresh, hrecords, -⟩
    refine (herror error middle).mono ?_
    rintro result after ⟨rfl, hshows⟩
    exact ⟨fresh, hrecords, fun b hb ↦ .inl (hshows b hb)⟩
  · rintro middle ⟨fresh, hrecords, -⟩
    exact ⟨fresh, hrecords, nofun⟩

theorem Client.clean_pure (a : α) {shows : α → Prop} : Clean backend (pure a) shows :=
  fun _ ↦ ends_pure ⟨[], (List.append_nil _).symm, fun _ _ ↦ .inr (List.forall_mem_nil _)⟩

/-- Two results put together show what one of them shows. -/
theorem Client.Clean.pair {γ : Type} {first : Client (Recorded σ) α}
    {second : Client (Recorded σ) β} {firstShows : α → Prop} {secondShows : β → Prop}
    {shows : γ → Prop} (form : α → β → γ) (hfirst : Clean backend first firstShows)
    (hsecond : Clean backend second secondShows)
    (hshows : ∀ a b, firstShows a ∨ secondShows b → shows (form a b)) :
    Clean backend (do
      let a ← first
      let b ← second
      pure (form a b)) shows := by
  intro state
  refine Ends.bind (hfirst state) ?_ ?_
  · rintro a middle ⟨fresh, hrecords, hclean⟩
    refine Ends.bind (hsecond middle) ?_ ?_
    · rintro b after ⟨later, hlater, hlaterClean⟩
      refine ends_pure ⟨fresh ++ later, Recorded.records_trans hrecords hlater, ?_⟩
      rintro _ ⟨⟩
      rcases hclean a rfl with hshow | hsucceeds
      · exact .inl (hshows a b (.inl hshow))
      · exact (hlaterClean b rfl).imp (fun hshow ↦ hshows a b (.inr hshow)) fun hlaterSucceeds ↦
          List.forall_mem_append.mpr ⟨hsucceeds, hlaterSucceeds⟩
    · rintro failure after ⟨later, hlater, -⟩
      exact ⟨fresh ++ later, Recorded.records_trans hrecords hlater, nofun⟩
  · rintro failure middle ⟨fresh, hrecords, -⟩
    exact ⟨fresh, hrecords, nofun⟩

namespace Accessor

theorem heeds_ask (accessor : Accessor) (question : Question) (ordinal : Nat) (call : Call) :
    (Use.ask accessor question ordinal).heeds call := by
  cases call with
  | release handle => exact id
  | _ => trivial

theorem strict_ask (accessor : Accessor) {question : Question} (ordinal : Nat)
    (hplain : question.takesNull = false) : (Use.ask accessor question ordinal).terms.Strict := by
  refine ⟨heeds_ask accessor question ordinal, ?_⟩
  rintro record ⟨hnull, -⟩
  rw [hplain] at hnull
  cases hnull

/-- A getter that was passed over shows as null. -/
theorem clean_value (accessor : Accessor) (ordinal : Nat) :
    Clean backend (accessor.value ordinal) (· = .null) := by
  have htype : Accounted (Use.ask accessor .type ordinal).terms [] backend
      (accessor.type ordinal) :=
    accounted_type views_ask (gets_ask fun _ ↦ rfl) (fun _ _ _ ↦ trivial) accessor ordinal
  have hstrict : (cellTerms (Use.ask accessor .type ordinal).terms).Strict :=
    ⟨heeds_ask accessor .type ordinal, fun _ ↦ id⟩
  refine htype.clean_bind (strict_ask accessor ordinal rfl) fun type ↦ ?_
  refine (accounted_valueOf views_cellTerms (fun _ h ↦ gets_cellTerms h) accessor ordinal
    type).clean_attempt_bind hstrict (fun value ↦ clean_pure value) fun error _ ↦ ?_
  dsimp only
  split
  · exact ends_pure ⟨rfl, by simp⟩
  · exact ends_refuse ⟨rfl, nofun⟩

theorem clean_valuesFrom (accessor : Accessor) (count ordinal : Nat) :
    Clean backend (accessor.valuesFrom ordinal count) (.null ∈ ·) := by
  induction count generalizing ordinal with
  | zero => exact clean_pure []
  | succ count ih =>
    refine Clean.pair List.cons (clean_value accessor ordinal) (ih (ordinal + 1)) ?_
    rintro value rest (rfl | hrest)
    · exact List.mem_cons_self
    · exact List.mem_cons_of_mem value hrest

theorem clean_values (accessor : Accessor) :
    Clean backend accessor.values (.null ∈ ·) := by
  have hlength : Accounted (Use.ask accessor .length 0).terms [] backend accessor.length :=
    accounted_length views_ask (fun _ ↦ covers_ask rfl id fun _ ↦ rfl) (fun _ _ _ ↦ trivial)
      accessor
  exact hlength.clean_bind (strict_ask accessor 0 rfl) fun count ↦
    clean_valuesFrom accessor count 0

end Accessor

/-- A read that was passed over shows as the end of the iteration. -/
theorem Reader.clean_step (reader : Reader) :
    Clean backend reader.step fun answer ↦
      answer = (none, false) ∨ ∃ error goesOn, answer = (some (.error error), goesOn) := by
  have hstrict (operation : Operation) :
      ((Use.read reader .iterate).terms.only operation.method).Strict :=
    ⟨Use.heeds_of_reads trivial, fun _ ↦ id⟩
  refine (accounted_hasNext trivial (covers_only reader .hasNextRow [])).clean_attempt_bind
    (hstrict .hasNextRow) ?_ fun error _ ↦ ends_pure ⟨rfl, ?_⟩
  · rintro (_ | _)
    · exact clean_pure _
    · refine (accounted_next trivial (covers_only reader .readRow [])).clean_attempt_bind
        (hstrict .readRow) (fun row ↦ clean_pure _) fun error state ↦ ?_
      dsimp only
      split
      · exact ends_pure ⟨rfl, by simp⟩
      · exact ends_pure ⟨rfl, by simp⟩
  · rintro _ ⟨⟩
    exact .inr ⟨error, false, rfl⟩

end Passing

/-- Errors tell of the calls behind them. Whatever the backend answers and whatever the objects are
that are used, the end of a use tells of the calls that it made. What is passed over shows: a value
that is not null, values without a null among them and a row of an iteration are only given if every
call for them succeeded. -/
theorem errors_tell_of_calls {σ : Type} (backend : Backend σ) :
    (∀ (use : Use) (state : Recorded σ),
      Client.Ends backend.recorded use.perform state fun result after ↦
        ∃ fresh, after.records = state.records ++ fresh ∧ use.TellsOf fresh result) ∧
    (∀ (accessor : Accessor) (ordinal : Nat),
      Client.Clean backend (accessor.value ordinal) (· = .null)) ∧
    (∀ accessor : Accessor, Client.Clean backend accessor.values (.null ∈ ·)) ∧
    ∀ reader : Reader, Client.Clean backend reader.step fun answer ↦
      answer = (none, false) ∨ ∃ error goesOn, answer = (some (.error error), goesOn) := by
  refine ⟨fun use state ↦ ?_, Accessor.clean_value, Accessor.clean_values, Reader.clean_step⟩
  refine (use.accounted state).mono ?_
  rintro result after ⟨fresh, hrecords, -, haccounts⟩
  exact ⟨fresh, hrecords, Use.tellsOf_of_accounts haccounts⟩

end ColumnStore
