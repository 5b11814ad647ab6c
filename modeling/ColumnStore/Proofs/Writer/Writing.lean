import ColumnStore.Client.Writer
import ColumnStore.Proofs.Memory.Client
import ColumnStore.Proofs.Traversal

/-!
# Writing, closing and giving up

A record stands for a row if it has one cell for each column and every cell reads as a value of its
column. An open writer takes exactly these records; a record that it refuses leaves no trace but a
counted call. Closing a writer commits what it took.
-/

set_option autoImplicit false

namespace ColumnStore

/-- The row that a record stands for, if it has one cell for each column and every cell reads as a
value of its column. -/
def Schema.parsed? (schema : Schema) (record : List String) : Option Row :=
  if record.length = schema.length then
    (record.zip schema.fields).mapM fun entry ↦
      (Value.read entry.1 entry.2.type entry.2.element).toOption
  else none

/-- Sorting loses no row and adds none. -/
theorem Row.sortRows_perm (positions : List Nat) (rows : List Row) :
    (Row.sortRows positions rows).Perm rows := by
  have hfold : ∀ sorted : List Row,
      (rows.foldl (fun sorted row ↦ Row.insertDescending positions row sorted) sorted).Perm
        (rows ++ sorted) := by
    induction rows with
    | nil => exact fun sorted ↦ .refl _
    | cons row rows ih =>
      intro sorted
      refine (ih _).trans ?_
      refine ((Row.insertDescending_perm positions row sorted).append_left rows).trans ?_
      exact List.perm_middle
  have hrows := hfold []
  rw [List.append_nil] at hrows
  exact (List.reverse_perm _).trans hrows

namespace Memory

/-- A writer commits the rows that it took. -/
theorem committed_perm (state : WriterState) :
    (WriterState.committed state).Perm state.newestFirst := by
  have hreverse := List.reverse_perm state.newestFirst
  unfold WriterState.committed
  by_cases hpositions : state.sortPositions.isEmpty
  · rw [if_pos hpositions]
    exact hreverse
  · rw [if_neg hpositions]
    exact (Row.sortRows_perm _ _).trans hreverse

variable {memory : Memory} {writer : Writer} {state : WriterState} {record : List String}

theorem readCell_eq_ok_iff {cell : String} {field : Field} {value : Value} :
    readCell cell field = .ok value ↔
      (Value.read cell field.type field.element).toOption = some value := by
  unfold readCell
  cases Value.read cell field.type field.element <;> simp [Except.toOption]

/-- The backend reads exactly the records that stand for a row. -/
theorem readRecord_eq_ok_iff {schema : Schema} {row : Row} :
    readRecord schema record = .ok row ↔ schema.parsed? record = some row := by
  unfold readRecord Schema.parsed?
  by_cases hlength : record.length = schema.length
  · rw [if_neg (not_not.mpr hlength), if_pos hlength, mapM_eq_ok_iff, mapM_eq_some_iff]
    simp only [readCell_eq_ok_iff]
  · rw [if_pos hlength, if_neg hlength]
    simp

/-- A record that stands for no row is refused. -/
theorem exists_readRecord_eq_error {schema : Schema} (h : schema.parsed? record = none) :
    ∃ error, readRecord schema record = .error error := by
  cases hread : readRecord schema record with
  | error error => exact ⟨error, rfl⟩
  | ok row => simp [readRecord_eq_ok_iff.mp hread] at h

/-! ### Writing a record -/

theorem perform_writeRecord (h : memory.Holds writer.handle (.writer state))
    (hopen : state.closed = false) (record : List String) :
    perform .writeRecord writer.handle [.texts record] memory =
      match readRecord state.schema record with
      | .error error => .failed memory error
      | .ok row => .returned (memory.put writer.handle
          (.writer { state with newestFirst := row :: state.newestFirst })) .nothing := by
  change writeRecord writer.handle [.texts record] memory = _
  have hargument : Argument.textsAt [.texts record] 0 "write" = .ok record := rfl
  simp only [writeRecord, hargument, writer_eq_ok_iff.mpr h.object]
  refine (if_neg (by simp [hopen])).trans ?_
  cases readRecord state.schema record <;> rfl

/-- A record that stands for a row is taken. -/
theorem runs_write {row : Row} (h : memory.Holds writer.handle (.writer state))
    (hopen : state.closed = false) (hwriter : writer.closed = false)
    (hrow : state.schema.parsed? record = some row) :
    Client.Runs backend (writer.write record) memory
      (.ok { writer with written := writer.written + 1 })
      ((memory.counting Operation.writeRecord.method).put writer.handle
        (.writer { state with newestFirst := row :: state.newestFirst })) := by
  have hperform := perform_writeRecord (h.counting Operation.writeRecord.method) hopen record
  rw [readRecord_eq_ok_iff.mpr hrow] at hperform
  unfold Writer.write
  rw [hwriter, if_neg Bool.false_ne_true]
  refine (runs_call h.running rfl (congrArg Reply.outcome hperform)
    (congrArg Reply.state hperform)).bind ?_
  exact Client.runs_pure _

/-- A record that stands for no row is refused, with its number. -/
theorem runs_write_error (h : memory.Holds writer.handle (.writer state))
    (hopen : state.closed = false) (hwriter : writer.closed = false)
    (hrow : state.schema.parsed? record = none) :
    ∃ cause, Client.Runs backend (writer.write record) memory
      (.error (.error (.context ("record " ++ toString writer.written) cause)))
      (memory.counting Operation.writeRecord.method) := by
  obtain ⟨error, hread⟩ := exists_readRecord_eq_error hrow
  have hperform := perform_writeRecord (h.counting Operation.writeRecord.method) hopen record
  rw [hread] at hperform
  refine ⟨.ofCall "write" .other error, ?_⟩
  unfold Writer.write
  rw [hwriter, if_neg Bool.false_ne_true]
  refine (runs_call h.running rfl (congrArg Reply.outcome hperform)
    (congrArg Reply.state hperform)).bind ?_
  exact Client.runs_refuse _

/-- A closed writer takes nothing. -/
theorem runs_write_closed (hwriter : writer.closed = true) (record : List String) :
    Client.Runs backend (writer.write record) memory (.error (.error (.closed .writer)))
      memory := by
  unfold Writer.write
  rw [if_pos hwriter]
  exact Client.runs_refuse _

/-! ### Closing a writer -/

/-- The backend once a writer has been closed: it has committed its records, if it had any. -/
def closing (memory : Memory) (handle : Handle) (state : WriterState) : Memory :=
  let closed := memory.put handle (.writer { state with newestFirst := [], closed := true })
  if state.newestFirst = [] then closed
  else
    { closed with
      store := memory.store.commit state.path state.schema (WriterState.committed state)
        state.writtenBy }

theorem commits_closing {handle : Nat} :
    (memory.closing handle state).store.commits = memory.store.commits ++
      if state.newestFirst = [] then []
      else
        [memory.store.nextCommit state.path state.schema (WriterState.committed state)
          state.writtenBy] := by
  unfold Memory.closing
  split
  · exact (List.append_nil _).symm
  · rfl

theorem perform_closeWriter (h : memory.Holds writer.handle (.writer state))
    (hopen : state.closed = false) :
    (perform .closeWriter writer.handle [] memory).outcome = .returned .nothing ∧
      (perform .closeWriter writer.handle [] memory).state =
        memory.closing writer.handle state := by
  change (closeWriter writer.handle memory).outcome = _ ∧
    (closeWriter writer.handle memory).state = _
  unfold closeWriter closing
  rw [writer_eq_ok_iff.mpr h.object]
  dsimp only
  rw [if_neg (by simp [hopen])]
  by_cases hempty : state.newestFirst = []
  · rw [if_pos hempty, if_pos (by simp [hempty])]
    exact ⟨rfl, rfl⟩
  · rw [if_neg hempty, if_neg (by simp [hempty])]
    exact ⟨rfl, rfl⟩

/-- Closing an open writer succeeds. -/
theorem runs_close (h : memory.Holds writer.handle (.writer state)) (hopen : state.closed = false)
    (hwriter : writer.closed = false) :
    Client.Runs backend writer.close memory (.ok { writer with closed := true })
      ((memory.counting Operation.closeWriter.method).closing writer.handle state) := by
  obtain ⟨houtcome, hstate⟩ :=
    perform_closeWriter (h.counting Operation.closeWriter.method) hopen
  unfold Writer.close
  rw [hwriter, if_neg Bool.false_ne_true]
  refine (runs_call h.running rfl houtcome hstate).bind ?_
  exact (Client.runs_expect_ok _ _ ()).bind ((Client.runs_report _).bind (Client.runs_pure _))

theorem runs_close_closed (hwriter : writer.closed = true) :
    Client.Runs backend writer.close memory (.ok writer) memory := by
  unfold Writer.close
  rw [if_pos hwriter]
  exact Client.runs_pure _

/-- The writer object of a handle after it has been closed. -/
theorem Holds.closing (h : memory.Holds writer.handle (.writer state)) :
    (memory.closing writer.handle state).Holds writer.handle
      (.writer { state with newestFirst := [], closed := true }) := by
  have hput := h.put (.writer { state with newestFirst := [], closed := true })
  unfold Memory.closing
  split
  · exact hput
  · exact ⟨hput.running, hput.object⟩

/-- An open writer that is given up is closed before. -/
theorem runs_drop (h : memory.Holds writer.handle (.writer state)) (hopen : state.closed = false)
    (hwriter : writer.closed = false) :
    Client.Runs backend writer.drop memory (.ok ())
      (((memory.counting Operation.closeWriter.method).closing writer.handle state).vacate
        writer.handle) := by
  have hclosed := (h.counting Operation.closeWriter.method).closing
  unfold Writer.drop
  rw [hwriter]
  refine (Client.runs_report _).bind ?_
  refine ((runs_close h hopen hwriter).attempt).bind ?_
  exact runs_discard hclosed

theorem runs_drop_closed (h : memory.Holds writer.handle (.writer state))
    (hwriter : writer.closed = true) :
    Client.Runs backend writer.drop memory (.ok ()) (memory.vacate writer.handle) := by
  unfold Writer.drop
  rw [hwriter]
  exact runs_discard h

end Memory

end ColumnStore
