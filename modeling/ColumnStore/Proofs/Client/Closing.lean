import ColumnStore.Client.Writer
import ColumnStore.Proofs.Client.Lifecycle

/-!
# Closing readers and writers

Readers and writers keep to the protocol of `Lifecycle`: this is shown for every single thing that
can be done with one of them, on a backend that behaves in any way.
-/

set_option autoImplicit false

namespace ColumnStore

/-- Something that is asked of a reader. -/
inductive ReadRequest where
  | hasNext
  | next
  | nextBatch (size : Nat)
  | iterate

/-- The operations that a request asks for. A batch must have a size that a signed number of 32 bits
can hold. -/
def ReadRequest.operations : ReadRequest → List (Operation × List Argument)
  | .hasNext => [(.hasNextRow, [])]
  | .next => [(.readRow, [])]
  | .nextBatch size =>
    if 0 < size ∧ size ≤ greatestBatch then [(.readRows, [.int (Int32.ofNat size)])] else []
  | .iterate => [(.hasNextRow, []), (.readRow, [])]

/-- Makes a request. An error that an iteration comes upon counts as a failure. -/
def ReadRequest.make {σ : Type} (reader : Reader) : ReadRequest → Client σ Unit
  | .hasNext => do
    let _ ← reader.hasNext
  | .next => do
    let _ ← reader.next
  | .nextBatch size => do
    let _ ← reader.nextBatch size
  | .iterate => do
    match ← reader.step with
    | (some (.error error), _) => Client.refuse error
    | _ => pure ()

/-- Readers are read from. -/
def Reader.lifecycle : Lifecycle Reader ReadRequest where
  what := .reader
  handle := Reader.handle
  closed := Reader.closed
  closing := .closeReader
  requests := ReadRequest.operations
  use request reader := do
    request.make reader
    pure reader
  close := Reader.close
  drop := Reader.drop

/-- Writers are given records. -/
def Writer.lifecycle : Lifecycle Writer (List String) where
  what := .writer
  handle := Writer.handle
  closed := Writer.closed
  closing := .closeWriter
  requests record := [(.writeRecord, [.texts record])]
  use record writer := writer.write record
  close := Writer.close
  drop := Writer.drop

variable {σ α : Type} {backend : Backend σ}

namespace Client

/-! ### Calls that return nothing -/

/-- A call for which nothing is to be returned does what it should or fails. -/
theorem exists_error_of_toNothing {found : Except CallError Returned} (method : Method)
    (h : found ≠ .ok .nothing) :
    ∃ error, found.bind (Returned.toNothing method) = .error error := by
  cases found with
  | error error => exact ⟨error, rfl⟩
  | ok returned =>
    cases returned with
    | nothing => exact absurd rfl h
    | _ => exact ⟨_, rfl⟩

/-- An action that goes on with such a call succeeds exactly if it returns as it should. -/
theorem ends_call_nothing {handle : Handle} {operation : Operation} {arguments : List Argument}
    {next : Except CallError Returned → Client (Recorded σ) α} {a : α}
    (hok : ∀ state, Runs backend.recorded (next (.ok .nothing)) state (.ok a) state)
    (hfails : ∀ found, found ≠ .ok .nothing → ∀ state,
      ∃ failure, Runs backend.recorded (next found) state (.error failure) state)
    (state : Recorded σ) :
    Ends backend.recorded (call handle operation arguments >>= next) state fun result after ↦
      let outcome := (backend.call handle operation.method arguments state.inner).outcome
      after = state.answer backend (.onObject handle operation.method arguments) ∧
        (outcome = .returned .nothing → result = .ok a) ∧
        (outcome ≠ .returned .nothing → ∃ failure, result = .error failure) := by
  have hcall : Runs backend.recorded (call handle operation arguments) state
      (backend.call handle operation.method arguments state.inner).outcome.result
      (state.answer backend (.onObject handle operation.method arguments)) := runs_call rfl rfl
  dsimp only
  generalize (backend.call handle operation.method arguments state.inner).outcome = outcome
    at hcall ⊢
  cases outcome with
  | returned returned =>
    by_cases hreturned : returned = .nothing
    · subst hreturned
      exact hcall.bind ((hok _).mono fun _ _ h ↦ ⟨h.2, fun _ ↦ h.1, fun hnot ↦ absurd rfl hnot⟩)
    · have hnot : (Except.ok returned : Except CallError Returned) ≠ .ok .nothing :=
        fun heq ↦ hreturned (Except.ok.inj heq)
      obtain ⟨failure, hruns⟩ := hfails _ hnot
        (state.answer backend (.onObject handle operation.method arguments))
      refine hcall.bind (hruns.mono fun _ _ h ↦ ⟨h.2, ?_, fun _ ↦ ⟨failure, h.1⟩⟩)
      exact fun heq ↦ absurd (Outcome.returned.inj heq) hreturned
  | failed error =>
    obtain ⟨failure, hruns⟩ := hfails (.error error) nofun
      (state.answer backend (.onObject handle operation.method arguments))
    exact hcall.bind (hruns.mono fun _ _ h ↦ ⟨h.2, nofun, fun _ ↦ ⟨failure, h.1⟩⟩)
  | crashed => exact hcall.bind_error.mono fun _ _ h ↦ ⟨h.2, nofun, fun _ ↦ ⟨_, h.1⟩⟩

/-- A close succeeds exactly if its call returns as it should. -/
theorem ends_closing {handle : Handle} {operation : Operation} (name : String) (event : Event)
    (closed : α) (state : Recorded σ) :
    Ends backend.recorded
      (do
        let returned ← call handle operation []
        expect name .other (returned.bind (Returned.toNothing operation.method))
        report event
        pure closed)
      state fun result after ↦
        let outcome := (backend.call handle operation.method [] state.inner).outcome
        after = state.answer backend (.onObject handle operation.method []) ∧
          (outcome = .returned .nothing → result = .ok closed) ∧
          (outcome ≠ .returned .nothing → ∃ failure, result = .error failure) := by
  refine ends_call_nothing ?_ ?_ state
  · intro state
    exact (runs_expect_ok _ _ ()).bind ((runs_report _).bind (runs_pure closed))
  · intro found hfound state
    obtain ⟨error, herror⟩ := exists_error_of_toNothing operation.method hfound
    rw [herror]
    exact ⟨_, (runs_expect_error _ _ _).bind_error⟩

/-- What is closed before it is given up is released however that ends, unless the call to close it
breaks off. -/
theorem ends_releasing {close : Client (Recorded σ) α}
    {next : Except Error α → Client (Recorded σ) Unit} {closing : Call} {handle : Handle}
    (h : Makes backend close [closing])
    (hnext : ∀ ended, Makes backend (next ended) [.release handle]) (state : Recorded σ) :
    Ends backend.recorded (attempt close >>= next) state fun _ after ↦
      ∃ rest, rest <+: [.release handle] ∧ after = state.answerAll backend (closing :: rest) := by
  refine Ends.bind (h.attempt state) ?_ ?_
  · rintro ended after rfl
    exact (hnext ended _).mono fun _ _ hafter ↦ ⟨_, List.prefix_refl _, hafter⟩
  · rintro failure after rfl
    exact ⟨[], List.nil_prefix, rfl⟩

/-- An error may be reported before a handle is given up. -/
theorem makes_report_discard (event : Event) (handle : Handle) :
    Makes backend (report event >>= fun _ ↦ discard handle) [.release handle] :=
  fun state ↦ (runs_report event).bind (makes_discard handle state)

end Client

/-! ### Readers -/

namespace Reader

open Client

variable {reader : Reader}

theorem makes_hasNext (hopen : reader.closed = false) :
    Makes backend reader.hasNext [.onObject reader.handle Operation.hasNextRow.method []] := by
  unfold hasNext whileOpen
  rw [if_neg (by simp [hopen])]
  exact (makes_call _ _ _).bind fun _ ↦ makes_expect _ _ _

theorem makes_next (hopen : reader.closed = false) :
    Makes backend reader.next [.onObject reader.handle Operation.readRow.method []] := by
  unfold next whileOpen
  rw [if_neg (by simp [hopen])]
  exact (makes_call _ _ _).bind fun _ ↦ (makes_expect _ _ _).bind fun _ ↦ makes_pure _

theorem makes_nextBatch (hopen : reader.closed = false) (size : Nat) :
    Makes backend (reader.nextBatch size)
      (Reader.lifecycle.calls reader.handle (.nextBatch size)) := by
  change Makes backend _ ((if 0 < size ∧ size ≤ greatestBatch then
    [(Operation.readRows, [Argument.int (Int32.ofNat size)])] else []).map _)
  unfold nextBatch whileOpen readBatch
  rw [if_neg (by simp [hopen])]
  by_cases hsize : 0 < size ∧ size ≤ greatestBatch
  · rw [if_pos hsize, if_pos hsize]
    exact (makes_call _ _ _).bind fun _ ↦ (makes_expect _ _ _).bind fun _ ↦ makes_pure _
  · rw [if_neg hsize, if_neg hsize]
    exact makes_refuse _

/-- An iteration reads a row only if the backend says that there is one. -/
theorem makesPart_step (hopen : reader.closed = false) :
    MakesPart backend reader.step (Reader.lifecycle.calls reader.handle .iterate) := by
  let first : Call := .onObject reader.handle Operation.hasNextRow.method []
  have hfirst : [first] <+: Reader.lifecycle.calls reader.handle .iterate := ⟨[_], rfl⟩
  intro state
  refine Ends.bind ((makes_hasNext hopen).attempt state) ?_ ?_
  · rintro (error | _ | _) after rfl
    · exact ends_pure ⟨[first], hfirst, fun _ ↦ nofun, rfl⟩
    · exact ends_pure ⟨[first], hfirst, fun _ ↦ nofun, rfl⟩
    · refine Ends.mono (Makes.bind (makes_next hopen).attempt ?_ _) ?_
      · rintro (error | row)
        · show Makes backend (if error.isEndOfData then _ else _) []
          split
          · exact makes_pure _
          · exact makes_pure _
        · exact makes_pure _
      · exact fun _ _ hafter ↦ ⟨_, List.prefix_refl _, fun _ ↦ nofun, hafter⟩
  · rintro failure after rfl
    exact ⟨[first], hfirst, fun _ ↦ nofun, rfl⟩

theorem makesPart_make (hopen : reader.closed = false) (request : ReadRequest) :
    MakesPart backend (request.make reader) (Reader.lifecycle.calls reader.handle request) := by
  cases request with
  | hasNext => exact ((makes_hasNext hopen).bind fun _ ↦ makes_pure ()).part
  | next => exact ((makes_next hopen).bind fun _ ↦ makes_pure ()).part
  | nextBatch size => exact ((makes_nextBatch hopen size).bind fun _ ↦ makes_pure ()).part
  | iterate =>
    refine (makesPart_step hopen).bind ?_
    rintro ⟨_ | error | row, goesOn⟩
    · exact makes_pure ()
    · exact makes_refuse error
    · exact makes_pure ()

/-- A closed reader refuses every request. -/
theorem runs_make_closed (hclosed : reader.closed = true) (request : ReadRequest)
    (state : Recorded σ) :
    Runs backend.recorded (request.make reader) state (.error (.error (.closed .reader)))
      state := by
  have hrefuse : ∀ {β : Type} (action : Client (Recorded σ) β),
      Runs backend.recorded (reader.whileOpen action) state (.error (.error (.closed .reader)))
        state := by
    intro β action
    unfold whileOpen
    rw [if_pos hclosed]
    exact runs_refuse _
  cases request with
  | hasNext => exact (hrefuse _).bind_error
  | next => exact (hrefuse _).bind_error
  | nextBatch size => exact (hrefuse _).bind_error
  | iterate =>
    have hstep : Runs backend.recorded reader.step state
        (.ok (some (.error (.closed .reader)), false)) state :=
      (hrefuse _).attempt_error.bind (runs_pure _)
    exact hstep.bind (runs_refuse _)

/-- Reading is not closing. -/
theorem ne_closeReader (request : ReadRequest) :
    ∀ entry ∈ request.operations, entry.1 ≠ .closeReader := by
  intro entry hentry
  cases request with
  | nextBatch size =>
    change entry ∈ if 0 < size ∧ size ≤ greatestBatch then _ else _ at hentry
    split at hentry
    · cases List.mem_singleton.mp hentry
      nofun
    · cases hentry
  | hasNext =>
    cases List.mem_singleton.mp hentry
    nofun
  | next =>
    cases List.mem_singleton.mp hentry
    nofun
  | iterate =>
    rcases List.mem_cons.mp hentry with rfl | hentry
    · nofun
    · cases List.mem_singleton.mp hentry
      nofun

theorem ends_close (hopen : reader.closed = false) (state : Recorded σ) :
    Ends backend.recorded reader.close state fun result after ↦
      let outcome :=
        (backend.call reader.handle Operation.closeReader.method [] state.inner).outcome
      after = state.answer backend (.onObject reader.handle Operation.closeReader.method []) ∧
        (outcome = .returned .nothing → result = .ok { reader with closed := true }) ∧
        (outcome ≠ .returned .nothing → ∃ failure, result = .error failure) := by
  unfold close
  rw [if_neg (by simp [hopen])]
  exact ends_closing _ _ _ state

theorem runs_close_closed (hclosed : reader.closed = true) (state : Recorded σ) :
    Runs backend.recorded reader.close state (.ok reader) state := by
  unfold close
  rw [if_pos hclosed]
  exact runs_pure reader

theorem ends_drop (hopen : reader.closed = false) (state : Recorded σ) :
    Ends backend.recorded reader.drop state fun _ after ↦
      ∃ rest, rest <+: [.release reader.handle] ∧ after = state.answerAll backend
        (.onObject reader.handle Operation.closeReader.method [] :: rest) := by
  have hclose : Makes backend reader.close
      [.onObject reader.handle Operation.closeReader.method []] :=
    fun state ↦ (ends_close hopen state).mono fun _ _ h ↦ h.1
  unfold drop
  rw [hopen]
  refine (runs_report _).bind (ends_releasing hclose ?_ state)
  rintro (error | _)
  · exact makes_report_discard _ _
  · exact makes_discard _

theorem makes_drop (hclosed : reader.closed = true) :
    Makes backend reader.drop [.release reader.handle] := by
  unfold drop
  rw [hclosed]
  exact makes_discard reader.handle

theorem lawful_lifecycle : Reader.lifecycle.Lawful where
  distinct := ne_closeReader
  useOpen := by
    intro σ backend reader request state hopen
    have hsome : ∀ {made : List Call},
        (Reader.lifecycle.calls reader.handle request ≠ [] → made ≠ []) →
          Reader.lifecycle.requests request ≠ [] → made ≠ [] :=
      fun hmade hrequests ↦ hmade (by simpa [Lifecycle.calls] using hrequests)
    refine Ends.bind (makesPart_make hopen request state) ?_ ?_
    · rintro _ after ⟨made, hbegins, hmade, hafter⟩
      refine ends_pure ⟨?_, made, hbegins, hsome hmade, hafter⟩
      rintro next ⟨⟩
      exact ⟨rfl, hopen⟩
    · rintro failure after ⟨made, hbegins, hmade, hafter⟩
      exact ⟨nofun, made, hbegins, hsome hmade, hafter⟩
  useClosed _ _ request state hclosed := (runs_make_closed hclosed request state).bind_error
  closeOpen _ _ state hopen := (ends_close hopen state).mono
    fun _ _ h ↦ ⟨h.1, fun houtcome ↦ ⟨_, h.2.1 houtcome, rfl, rfl⟩, h.2.2⟩
  closeClosed _ _ state hclosed := runs_close_closed hclosed state
  dropOpen _ _ state hopen := ends_drop hopen state
  dropClosed _ _ hclosed := makes_drop hclosed

end Reader

/-! ### Writers -/

namespace Writer

open Client

variable {writer : Writer} {record : List String}

/-- A record counts as written exactly if its call returns as it should. -/
theorem ends_write (hopen : writer.closed = false) (record : List String) (state : Recorded σ) :
    Ends backend.recorded (writer.write record) state fun result after ↦
      let outcome := (backend.call writer.handle Operation.writeRecord.method [.texts record]
        state.inner).outcome
      after = state.answer backend
          (.onObject writer.handle Operation.writeRecord.method [.texts record]) ∧
        (outcome = .returned .nothing →
          result = .ok { writer with written := writer.written + 1 }) ∧
        (outcome ≠ .returned .nothing → ∃ failure, result = .error failure) := by
  unfold write
  rw [if_neg (by simp [hopen])]
  refine ends_call_nothing ?_ ?_ state
  · intro state
    exact runs_pure _
  · intro found hfound state
    obtain ⟨error, herror⟩ := exists_error_of_toNothing Operation.writeRecord.method hfound
    rw [herror]
    exact ⟨_, runs_refuse _⟩

theorem runs_write_closed (hclosed : writer.closed = true) (record : List String)
    (state : Recorded σ) :
    Runs backend.recorded (writer.write record) state (.error (.error (.closed .writer)))
      state := by
  unfold write
  rw [if_pos hclosed]
  exact runs_refuse _

theorem ends_close (hopen : writer.closed = false) (state : Recorded σ) :
    Ends backend.recorded writer.close state fun result after ↦
      let outcome :=
        (backend.call writer.handle Operation.closeWriter.method [] state.inner).outcome
      after = state.answer backend (.onObject writer.handle Operation.closeWriter.method []) ∧
        (outcome = .returned .nothing → result = .ok { writer with closed := true }) ∧
        (outcome ≠ .returned .nothing → ∃ failure, result = .error failure) := by
  unfold close
  rw [if_neg (by simp [hopen])]
  exact ends_closing _ _ _ state

theorem runs_close_closed (hclosed : writer.closed = true) (state : Recorded σ) :
    Runs backend.recorded writer.close state (.ok writer) state := by
  unfold close
  rw [if_pos hclosed]
  exact runs_pure writer

theorem ends_drop (hopen : writer.closed = false) (state : Recorded σ) :
    Ends backend.recorded writer.drop state fun _ after ↦
      ∃ rest, rest <+: [.release writer.handle] ∧ after = state.answerAll backend
        (.onObject writer.handle Operation.closeWriter.method [] :: rest) := by
  have hclose : Makes backend writer.close
      [.onObject writer.handle Operation.closeWriter.method []] :=
    fun state ↦ (ends_close hopen state).mono fun _ _ h ↦ h.1
  unfold drop
  rw [hopen]
  refine (runs_report _).bind (ends_releasing hclose ?_ state)
  rintro (error | _)
  · exact makes_report_discard _ _
  · exact makes_discard _

theorem makes_drop (hclosed : writer.closed = true) :
    Makes backend writer.drop [.release writer.handle] := by
  unfold drop
  rw [hclosed]
  exact makes_discard writer.handle

theorem lawful_lifecycle : Writer.lifecycle.Lawful where
  distinct record entry hentry := by
    cases List.mem_singleton.mp hentry
    nofun
  useOpen := by
    intro σ backend writer record state hopen
    refine (ends_write hopen record state).mono ?_
    rintro result after ⟨hafter, hok, hfails⟩
    refine ⟨?_, [.onObject writer.handle Operation.writeRecord.method [.texts record]],
      List.prefix_refl _, fun _ ↦ nofun, hafter⟩
    rintro next rfl
    by_cases houtcome : (backend.call writer.handle Operation.writeRecord.method [.texts record]
        state.inner).outcome = .returned .nothing
    · cases hok houtcome
      exact ⟨rfl, hopen⟩
    · obtain ⟨_, ⟨⟩⟩ := hfails houtcome
  useClosed _ _ record state hclosed := runs_write_closed hclosed record state
  closeOpen _ _ state hopen := (ends_close hopen state).mono
    fun _ _ h ↦ ⟨h.1, fun houtcome ↦ ⟨_, h.2.1 houtcome, rfl, rfl⟩, h.2.2⟩
  closeClosed _ _ state hclosed := runs_close_closed hclosed state
  dropOpen _ _ state hopen := ends_drop hopen state
  dropClosed _ _ hclosed := makes_drop hclosed

end Writer

end ColumnStore
