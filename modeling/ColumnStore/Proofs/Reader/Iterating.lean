import ColumnStore.Memory.Backend
import ColumnStore.Proofs.Client.Answering
import ColumnStore.Proofs.Traversal

/-!
# Drawing rows one by one

A `RowIterator` hands out the rows of a reader one draw at a time and remembers that it has ended.
`Reader.Steps` says what a draw that has not ended may hand out, by the one or two calls it makes,
and `RowIterator.draws` is a sequence of draws between which anything may happen to the backend.

A read that finds no row ends the iteration without an error. Asking whether a row is left is not
read this way: if the backend answers that question with the end of the data, the end is handed out
as an error, and only then it is. In either case the iteration has ended, and no later draw makes a
call.
-/

set_option autoImplicit false

namespace ColumnStore

open Client

/-! ### The iterator -/

/-- The rows of a reader, to be drawn one by one. -/
structure RowIterator where
  reader : Reader
  ended : Bool

/-- An iterator over the rows that are left. -/
def Reader.iterator (reader : Reader) : RowIterator := ⟨reader, false⟩

namespace RowIterator

variable {σ α : Type}

/-- Draws the next row. An iterator that has ended hands out nothing. -/
def next (iterator : RowIterator) : Client σ (Option (Except Error HeldRow) × RowIterator) :=
  if iterator.ended then pure (none, iterator)
  else do
    let (item, goesOn) ← iterator.reader.step
    pure (item, { iterator with ended := !goesOn })

/-- Draws until nothing is handed out, at most `limit` times, and collects what becomes of the
items, last one first. -/
def collect (use : Except Error HeldRow → Client σ α) :
    Nat → RowIterator → List α → Client σ (List α)
  | 0, _, results => pure results
  | limit + 1, iterator, results => do
    match ← iterator.next with
    | (none, _) => pure results
    | (some item, iterator) =>
      let result ← use item
      collect use limit iterator (result :: results)

theorem collect_of_ended {iterator : RowIterator} (h : iterator.ended = true)
    (use : Except Error HeldRow → Client σ α) (limit : Nat) (results : List α) :
    collect use limit iterator results = pure results := by
  cases limit with
  | zero => rfl
  | succ limit => simp [collect, next, h]

/-- A reader goes through its rows by drawing them from its iterator. -/
theorem collect_iterator (reader : Reader) (use : Except Error HeldRow → Client σ α) (limit : Nat)
    (results : List α) :
    collect use limit reader.iterator results = reader.collect use limit results := by
  induction limit generalizing results with
  | zero => rfl
  | succ limit ih =>
    simp only [collect, Reader.collect, next, Reader.iterator, Bool.false_eq_true, if_false,
      bind_assoc, pure_bind]
    refine bind_congr fun step ↦ ?_
    obtain ⟨_ | item, goesOn⟩ := step
    · rfl
    · refine bind_congr fun result ↦ ?_
      cases goesOn with
      | false => exact collect_of_ended rfl use limit _
      | true => exact ih _

end RowIterator

/-! ### One draw -/

section Steps

variable {σ α : Type} {backend : Backend σ}

/-- The end of the data is told by one exception. -/
theorem Error.isEndOfData_ofCall_read_iff {record : CallRecord} {failure : CallError}
    (activity : String) (h : record.failure? = some failure) :
    (Error.ofCall activity .read failure).isEndOfData = true ↔
      record.Throws "NoSuchElementException" := by
  have hexhausted : (Error.ofCall activity .read failure).isEndOfData = true ↔
      Error.ofCall activity .read failure = .exhausted := by
    cases failure with
    | exception className reason =>
      unfold ofCall ofException
      dsimp only
      split <;> simp [isEndOfData]
    | _ => simp [ofCall, isEndOfData]
  rw [hexhausted, ofCall_eq_exhausted_iff]
  constructor
  · rintro ⟨-, className, reason, rfl, hsimple⟩
    rw [← hsimple]
    refine CallRecord.throws_of_failure? h ?_
    rintro rfl
    exact absurd hsimple (by decide)
  · intro hthrows
    obtain ⟨className, reason, hfailure, hsimple⟩ := hthrows.failure?
    rw [h] at hfailure
    exact ⟨rfl, className, reason, Option.some.inj hfailure, hsimple⟩

/-- What a caller gets of one call, by its record. -/
def CallRecord.Gives (record : CallRecord) (take : Returned → Except CallError α)
    (activity : String) : Except Failure α → Prop
  | .ok a => ∃ returned, record.outcome = .returned returned ∧ take returned = .ok a
  | .error (.error error) =>
    ∃ failure, record.failure? = some failure ∧ error = .ofCall activity .read failure
  | .error .crash => record.outcome = .crashed

/-- A call of a reader is recorded, and its record says what the caller gets. -/
theorem ends_call_expect {operation : Operation} {kind : ReturnKind}
    {take : Method → Returned → Except CallError α} (htake : Returned.Takes kind take)
    (hkind : operation.method.returns = kind) (handle : Handle) (activity : String)
    (state : Recorded σ) :
    Ends backend.recorded
      (do
        let returned ← call handle operation []
        expect activity .read (returned.bind (take operation.method)))
      state fun result after ↦ ∃ record : CallRecord,
        record.call = .onObject handle operation.method [] ∧
        after.records = state.records ++ [record] ∧
        record.Gives (take operation.method) activity result := by
  let outcome := (backend.call handle operation.method [] state.inner).outcome
  let record : CallRecord := ⟨.onObject handle operation.method [], outcome⟩
  have houtcome : (backend.recorded.call handle operation.method [] state).outcome = outcome := rfl
  have hrecords : (state.answer backend (.onObject handle operation.method [])).records =
      state.records ++ [record] :=
    Recorded.records_answer_onObject backend state handle operation.method []
  refine Ends.bind (runs_call houtcome rfl) ?_ ?_
  · rintro returned after ⟨hresult, rfl⟩
    have htells : record.Tells (returned.bind (take operation.method)) :=
      CallRecord.tells_bind _ htake rfl rfl rfl hkind hresult.symm
    cases htaken : returned.bind (take operation.method) with
    | ok a =>
      obtain ⟨found, rfl, hfound⟩ := bind_eq_ok_iff.mp htaken
      refine ends_pure ⟨record, rfl, hrecords, found, ?_, hfound⟩
      exact Outcome.eq_returned_of_result hresult.symm
    | error failure =>
      rw [htaken] at htells
      exact ends_refuse ⟨record, rfl, hrecords, failure, htells, rfl⟩
  · rintro failure after ⟨hresult, rfl⟩
    obtain ⟨hcrashed, rfl⟩ := Outcome.of_result_error hresult.symm
    exact ⟨record, rfl, hrecords, hcrashed⟩

end Steps

namespace Reader

variable {σ : Type} {backend : Backend σ} {reader : Reader}

/-- The call that asks a reader whether a row is left. -/
def asking (reader : Reader) : Call := .onObject reader.handle Operation.hasNextRow.method []

/-- The call that reads a row. -/
def reading (reader : Reader) : Call := .onObject reader.handle Operation.readRow.method []

theorem asking_ne_reading (reader : Reader) : reader.asking ≠ reader.reading := by
  simp only [asking, reading, ne_eq, Call.onObject.injEq, true_and, and_true]
  exact fun hmethod ↦ absurd (Operation.method_injective hmethod) (by decide)

/-- What a draw hands out and whether the iteration goes on, by the calls that were made: a closed
reader is asked nothing, and a row is only read if there is one. -/
inductive Steps (reader : Reader) :
    Option (Except Error HeldRow) → Bool → List CallRecord → Prop
  | refused (hclosed : reader.closed = true) :
    Steps reader (some (.error (.closed .reader))) false []
  | unanswered (question : CallRecord) (failure : CallError) (hcall : question.call = reader.asking)
    (hfailure : question.failure? = some failure) :
    Steps reader (some (.error (.ofCall "hasNext" .read failure))) false [question]
  | nothingLeft (question : CallRecord) (hcall : question.call = reader.asking)
    (houtcome : question.outcome = .returned (.boolean false)) :
    Steps reader none false [question]
  | row (question read : CallRecord) (handle : Handle) (hquestion : question.call = reader.asking)
    (hleft : question.outcome = .returned (.boolean true)) (hread : read.call = reader.reading)
    (houtcome : read.outcome = .returned (.object (some handle))) :
    Steps reader (some (.ok ⟨handle⟩)) true [question, read]
  | noRow (question read : CallRecord) (hquestion : question.call = reader.asking)
    (hleft : question.outcome = .returned (.boolean true)) (hread : read.call = reader.reading)
    (hthrows : read.Throws "NoSuchElementException") :
    Steps reader none false [question, read]
  | unread (question read : CallRecord) (failure : CallError)
    (hquestion : question.call = reader.asking)
    (hleft : question.outcome = .returned (.boolean true)) (hread : read.call = reader.reading)
    (hfailure : read.failure? = some failure) (hthrows : ¬ read.Throws "NoSuchElementException") :
    Steps reader (some (.error (.ofCall "readNextCarbonRow" .read failure))) true [question, read]

/-- Asking whether a row is left. -/
theorem ends_hasNext (hopen : reader.closed = false) (state : Recorded σ) :
    Ends backend.recorded reader.hasNext state fun result after ↦ ∃ question : CallRecord,
      question.call = reader.asking ∧ after.records = state.records ++ [question] ∧
        question.Gives (Returned.toBoolean Operation.hasNextRow.method) "hasNext" result := by
  unfold hasNext whileOpen
  rw [if_neg (by simp [hopen])]
  exact ends_call_expect Returned.takes_toBoolean rfl reader.handle "hasNext" state

/-- Reading a row. -/
theorem ends_next (hopen : reader.closed = false) (state : Recorded σ) :
    Ends backend.recorded reader.next state fun result after ↦ ∃ read : CallRecord,
      read.call = reader.reading ∧ after.records = state.records ++ [read] ∧
        read.Gives (Returned.toObject Operation.readRow.method) "readNextCarbonRow"
          (result.map HeldRow.handle) := by
  unfold next whileOpen
  rw [if_neg (by simp [hopen])]
  simp only [← bind_assoc]
  refine Ends.bind (ends_call_expect Returned.takes_toObject rfl reader.handle
    "readNextCarbonRow" state) ?_ ?_
  · exact fun handle after hread ↦ ends_pure hread
  · exact fun failure after hread ↦ hread

/-- What is read if a row is left, and passed over if there is none all the same. -/
theorem ends_read (hopen : reader.closed = false) {question : CallRecord}
    (hquestion : question.call = reader.asking)
    (hleft : question.outcome = .returned (.boolean true)) (state : Recorded σ) :
    Ends backend.recorded (do
        match ← attempt reader.next with
        | .ok row => pure (some (.ok row), true)
        | .error error =>
          if error.isEndOfData then pure (none, false) else pure (some (.error error), true))
      state fun result after ↦ ∃ read, after.records = state.records ++ [read] ∧
        ∀ item goesOn, result = .ok (item, goesOn) → reader.Steps item goesOn [question, read] := by
  refine (ends_next hopen state).attempt_bind ?_ ?_ ?_
  · rintro ⟨handle⟩ after ⟨read, hread, hafter, returned, houtcome, htaken⟩
    obtain rfl : returned = .object (some handle) := Returned.eq_object_of_toObject htaken
    refine ends_pure ⟨read, hafter, ?_⟩
    rintro item goesOn ⟨⟩
    exact .row question read handle hquestion hleft hread houtcome
  · rintro error after ⟨read, hread, hafter, failure, hfailure, rfl⟩
    have hend := Error.isEndOfData_ofCall_read_iff "readNextCarbonRow" hfailure
    by_cases hthrows : read.Throws "NoSuchElementException"
    · have hpassed := hend.mpr hthrows
      simp only [hpassed, if_true]
      refine ends_pure ⟨read, hafter, ?_⟩
      rintro item goesOn ⟨⟩
      exact .noRow question read hquestion hleft hread hthrows
    · have htold := mt hend.mp hthrows
      simp only [htold]
      refine ends_pure ⟨read, hafter, ?_⟩
      rintro item goesOn ⟨⟩
      exact .unread question read failure hquestion hleft hread hfailure hthrows
  · rintro after ⟨read, -, hafter, -⟩
    exact ⟨read, hafter, nofun⟩

/-- A draw makes one call or two, and hands out what they say. -/
theorem ends_step (reader : Reader) (state : Recorded σ) :
    Ends backend.recorded reader.step state fun result after ↦
      ∃ fresh, after.records = state.records ++ fresh ∧
        ∀ item goesOn, result = .ok (item, goesOn) → reader.Steps item goesOn fresh := by
  unfold step
  by_cases hclosed : reader.closed = true
  · have hrefused : Runs backend.recorded reader.hasNext state
        (.error (.error (.closed .reader))) state := by
      unfold hasNext whileOpen
      rw [if_pos hclosed]
      exact runs_refuse _
    refine hrefused.attempt_error.bind (ends_pure ⟨[], (List.append_nil _).symm, ?_⟩)
    rintro item goesOn ⟨⟩
    exact .refused hclosed
  · have hopen : reader.closed = false := by simpa using hclosed
    refine (ends_hasNext hopen state).attempt_bind ?_ ?_ ?_
    · rintro left middle ⟨question, hquestion, hmiddle, returned, houtcome, htaken⟩
      obtain rfl : returned = .boolean left := Returned.eq_boolean_of_toBoolean htaken
      cases left with
      | false =>
        refine ends_pure ⟨[question], hmiddle, ?_⟩
        rintro item goesOn ⟨⟩
        exact .nothingLeft question hquestion houtcome
      | true =>
        refine (ends_read hopen hquestion houtcome middle).mono ?_
        rintro result after ⟨read, hafter, hsteps⟩
        exact ⟨[question, read], Recorded.records_trans hmiddle hafter, hsteps⟩
    · rintro error middle ⟨question, hquestion, hmiddle, failure, hfailure, rfl⟩
      refine ends_pure ⟨[question], hmiddle, ?_⟩
      rintro item goesOn ⟨⟩
      exact .unanswered question failure hquestion hfailure
    · rintro middle ⟨question, -, hmiddle, -⟩
      exact ⟨[question], hmiddle, nofun⟩

end Reader

/-! ### Draws one after the other -/

/-- What was drawn, and the calls that were made for it. -/
structure Draw where
  item : Option (Except Error HeldRow)
  records : List CallRecord

namespace Draw

/-- The draw hands out the end of the data as an error. -/
def TellsEnd (draw : Draw) : Prop :=
  ∃ error, draw.item = some (.error error) ∧ error.isEndOfData = true

/-- The backend answered the question whether a row is left with the end of the data. -/
def AsksAtEnd (draw : Draw) (reader : Reader) : Prop :=
  ∃ question, draw.records = [question] ∧ question.call = reader.asking ∧
    question.Throws "NoSuchElementException"

/-- A row was read, and the backend answered with the end of the data. -/
def ReadsAtEnd (draw : Draw) (reader : Reader) : Prop :=
  ∃ read ∈ draw.records, read.call = reader.reading ∧ read.Throws "NoSuchElementException"

end Draw

namespace RowIterator

variable {σ : Type} {backend : Backend σ}

/-- What is drawn, and the iterator that is left. -/
inductive Yields : RowIterator → Draw → RowIterator → Prop
  | step {reader : Reader} {item : Option (Except Error HeldRow)} {goesOn : Bool}
    {records : List CallRecord} (hsteps : reader.Steps item goesOn records) :
    Yields ⟨reader, false⟩ ⟨item, records⟩ ⟨reader, !goesOn⟩
  | past (reader : Reader) : Yields ⟨reader, true⟩ ⟨none, []⟩ ⟨reader, true⟩

/-- Draws from an iterator, each on a connection of its own: between two draws anything may happen
to the backend. A call that breaks off ends the draws. -/
def draws (backend : Backend σ) : List (Connection (Recorded σ)) → RowIterator → List Draw
  | [], _ => []
  | place :: places, iterator =>
    match iterator.next.run backend.recorded place with
    | (.ok (item, iterator), after) =>
      ⟨item, place.state.since after.state⟩ :: draws backend places iterator
    | (.error _, _) => []

theorem ends_next (iterator : RowIterator) (state : Recorded σ) :
    Ends backend.recorded iterator.next state fun result after ↦
      ∀ item left, result = .ok (item, left) →
        iterator.Yields ⟨item, state.since after⟩ left := by
  obtain ⟨reader, ended⟩ := iterator
  unfold next
  cases ended with
  | true =>
    refine ends_pure ?_
    rintro item left ⟨⟩
    rw [Recorded.since_self]
    exact .past reader
  | false =>
    refine (reader.ends_step state).bind ?_ ?_
    · rintro ⟨item, goesOn⟩ after ⟨fresh, hafter, hsteps⟩
      refine ends_pure ?_
      rintro _ left ⟨⟩
      rw [Recorded.since, hafter, List.drop_left]
      exact .step (hsteps item goesOn rfl)
    · rintro failure after - item left ⟨⟩

/-- A sequence of draws is a draw and those from what it leaves. -/
theorem draws_cons_cases (backend : Backend σ) (place : Connection (Recorded σ))
    (places : List (Connection (Recorded σ))) (iterator : RowIterator) :
    draws backend (place :: places) iterator = [] ∨
      ∃ draw left, iterator.Yields draw left ∧
        draws backend (place :: places) iterator = draw :: draws backend places left := by
  have hnext : Ends backend.recorded iterator.next place.state _ :=
    iterator.ends_next place.state
  have hyields := hnext place.log
  rw [draws]
  rcases hrun : iterator.next.run backend.recorded place with ⟨failure | ⟨item, left⟩, after⟩
  · exact .inl rfl
  · rw [hrun] at hyields
    exact .inr ⟨_, left, hyields item left rfl, rfl⟩

/-- Nothing is drawn from an iterator that has ended, and nothing is called. -/
theorem Yields.of_ended {iterator left : RowIterator} {draw : Draw} (h : iterator.Yields draw left)
    (hended : iterator.ended = true) : left = iterator ∧ draw = ⟨none, []⟩ := by
  cases h with
  | step hsteps => cases hended
  | past reader => exact ⟨rfl, rfl⟩

theorem draws_of_ended {iterator : RowIterator} (hended : iterator.ended = true)
    (places : List (Connection (Recorded σ))) :
    ∀ draw ∈ draws backend places iterator, draw = ⟨none, []⟩ := by
  induction places with
  | nil => exact List.forall_mem_nil _
  | cons place places ih =>
    rcases draws_cons_cases backend place places iterator with hnone | ⟨draw, left, hyields, hdraws⟩
    · rw [hnone]
      exact List.forall_mem_nil _
    · obtain ⟨rfl, rfl⟩ := hyields.of_ended hended
      rw [hdraws]
      exact List.forall_mem_cons.mpr ⟨rfl, ih⟩

/-- A draw that hands out nothing ends the iterator, and so does one that tells the end of the
data. -/
theorem Yields.ended {iterator left : RowIterator} {draw : Draw} (h : iterator.Yields draw left)
    (hend : draw.item = none ∨ draw.TellsEnd) : left.ended = true := by
  rcases h with @⟨reader, _, _, _, hsteps⟩ | reader
  · cases hsteps with
    | row question read handle _ _ _ _ => simp [Draw.TellsEnd] at hend
    | unread question read failure _ _ _ hfailure hthrows =>
      have htold := mt (Error.isEndOfData_ofCall_read_iff "readNextCarbonRow" hfailure).mp hthrows
      simp [Draw.TellsEnd, htold] at hend
    | _ => rfl
  · rfl

/-- The end of the data is told as an error if it is the answer to the question whether a row is
left, and for no other reason. -/
theorem Yields.tellsEnd_iff {iterator left : RowIterator} {draw : Draw}
    (h : iterator.Yields draw left) : draw.TellsEnd ↔ draw.AsksAtEnd iterator.reader := by
  rcases h with @⟨reader, _, _, _, hsteps⟩ | reader
  · cases hsteps with
    | refused hclosed => simp [Draw.TellsEnd, Draw.AsksAtEnd, Error.isEndOfData]
    | unanswered question failure hcall hfailure =>
      have htold := Error.isEndOfData_ofCall_read_iff "hasNext" hfailure
      simp [Draw.TellsEnd, Draw.AsksAtEnd, htold, hcall]
    | nothingLeft question hcall houtcome =>
      have hanswered := CallRecord.not_throws_of_returned "NoSuchElementException" houtcome
      simp [Draw.TellsEnd, Draw.AsksAtEnd, hanswered]
    | row question read handle _ _ _ _ => simp [Draw.TellsEnd, Draw.AsksAtEnd]
    | noRow question read _ _ _ _ => simp [Draw.TellsEnd, Draw.AsksAtEnd]
    | unread question read failure _ _ _ hfailure hthrows =>
      have htold := mt (Error.isEndOfData_ofCall_read_iff "readNextCarbonRow" hfailure).mp hthrows
      simp [Draw.TellsEnd, Draw.AsksAtEnd, htold]
  · simp [Draw.TellsEnd, Draw.AsksAtEnd]

/-- A read that finds no row is passed over. -/
theorem Yields.item_eq_none {iterator left : RowIterator} {draw : Draw}
    (h : iterator.Yields draw left) (hreads : draw.ReadsAtEnd iterator.reader) :
    draw.item = none := by
  obtain ⟨last, hlast, hcall, hthrows⟩ := hreads
  rcases h with @⟨reader, _, _, _, hsteps⟩ | reader
  · have hquestion {question : CallRecord} (hasked : question.call = reader.asking) :
        last ≠ question := by
      rintro rfl
      exact reader.asking_ne_reading (hasked.symm.trans hcall)
    cases hsteps with
    | refused hclosed => cases hlast
    | unanswered question failure hasked hfailure =>
      exact absurd (List.mem_singleton.mp hlast) (hquestion hasked)
    | nothingLeft question hasked houtcome => rfl
    | row question read handle hasked _ _ houtcome =>
      rcases List.mem_pair.mp hlast with rfl | rfl
      · exact absurd rfl (hquestion hasked)
      · exact absurd hthrows (CallRecord.not_throws_of_returned _ houtcome)
    | noRow question read _ _ _ _ => rfl
    | unread question read failure hasked _ _ hfailure hresented =>
      rcases List.mem_pair.mp hlast with rfl | rfl
      · exact absurd rfl (hquestion hasked)
      · exact absurd hthrows hresented
  · rfl

theorem Yields.reader_eq {iterator left : RowIterator} {draw : Draw}
    (h : iterator.Yields draw left) : left.reader = iterator.reader := by
  cases h <;> rfl

/-- What holds of every draw holds of all of them. -/
theorem forall_mem_draws {post : Reader → Draw → Prop}
    (hpost : ∀ {iterator draw left}, Yields iterator draw left → post iterator.reader draw)
    (places : List (Connection (Recorded σ))) (iterator : RowIterator) :
    ∀ draw ∈ draws backend places iterator, post iterator.reader draw := by
  induction places generalizing iterator with
  | nil => exact List.forall_mem_nil _
  | cons place places ih =>
    rcases draws_cons_cases backend place places iterator with hnone | ⟨draw, left, hyields, hdraws⟩
    · rw [hnone]
      exact List.forall_mem_nil _
    · rw [hdraws]
      refine List.forall_mem_cons.mpr ⟨hpost hyields, ?_⟩
      rw [← hyields.reader_eq]
      exact ih left

/-- Behind the end nothing is drawn and nothing is called. -/
theorem pairwise_draws (places : List (Connection (Recorded σ))) (iterator : RowIterator) :
    (draws backend places iterator).Pairwise fun earlier later ↦
      earlier.item = none ∨ earlier.TellsEnd → later = ⟨none, []⟩ := by
  induction places generalizing iterator with
  | nil => exact .nil
  | cons place places ih =>
    rcases draws_cons_cases backend place places iterator with hnone | ⟨draw, left, hyields, hdraws⟩
    · rw [hnone]
      exact .nil
    · rw [hdraws]
      refine .cons (fun later hlater hend ↦ ?_) (ih left)
      exact draws_of_ended (hyields.ended hend) places later hlater

/-- Whatever the backend answers, and whatever happens to it between the draws: the end of the data
ends the iteration, and no call is made for a later draw. A read that finds no row hands out
nothing. The end of the data is handed out as an error only if it is the answer to the question
whether a row is left, and then it is. -/
theorem iteration_ends_with_data (backend : Backend σ) (reader : Reader)
    (places : List (Connection (Recorded σ))) :
    (∀ draw ∈ draws backend places reader.iterator,
      (draw.TellsEnd ↔ draw.AsksAtEnd reader) ∧ (draw.ReadsAtEnd reader → draw.item = none)) ∧
    (draws backend places reader.iterator).Pairwise fun earlier later ↦
      earlier.item = none ∨ earlier.TellsEnd → later = ⟨none, []⟩ := by
  refine ⟨?_, pairwise_draws places reader.iterator⟩
  let post (reader : Reader) (draw : Draw) : Prop :=
    (draw.TellsEnd ↔ draw.AsksAtEnd reader) ∧ (draw.ReadsAtEnd reader → draw.item = none)
  have hpost {iterator left : RowIterator} {draw : Draw} (hyields : Yields iterator draw left) :
      post iterator.reader draw := ⟨hyields.tellsEnd_iff, hyields.item_eq_none⟩
  exact forall_mem_draws hpost places reader.iterator

/-- A reader is built over a table with one row, and the question whether a row is left is answered
with the end of the data: the draw hands the end out as an error. -/
theorem end_of_data_handed_out :
    let store := Store.empty.seed "/t" ⟨[.scalar "a" .int]⟩ [[.int 1]]
    let fault : Fault :=
      ⟨"hasNext", none, 0, 1, .fails (.exception "java.util.NoSuchElementException" "x")⟩
    let building : Client (Recorded (Faulty Memory)) Reader :=
      ReaderBuilder.forPath "/t" none >>= ReaderBuilder.build
    ∃ reader place draw,
      building.run Memory.backend.withFaults.recorded ⟨⟨[], [fault], .start store⟩, .empty .debug⟩ =
        (.ok reader, place) ∧
      draws Memory.backend.withFaults [place] reader.iterator = [draw] ∧ draw.TellsEnd := by
  intro store fault building
  exact ⟨_, _, _, rfl, rfl, .exhausted, rfl, rfl⟩

end RowIterator

end ColumnStore
