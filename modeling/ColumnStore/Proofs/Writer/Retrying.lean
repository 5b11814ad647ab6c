import ColumnStore.Proofs.Client.Closing
import ColumnStore.Proofs.Client.Hindrance
import ColumnStore.Proofs.Writer.Writing

/-!
# Writers whose closing fails

A writer of the in-process backend that could not be closed still has all its rows. However its
calls fail, the rows that were written successfully are committed together and once: by the close
that gets through, be it asked for or made when the writer is given up.
-/

set_option autoImplicit false

namespace ColumnStore

/-- A writer that has taken further rows. -/
def WriterState.taking (state : WriterState) (rows : List Row) : WriterState :=
  { state with newestFirst := rows.reverse ++ state.newestFirst }

/-- The commits by which a writer is closed: none if it has taken no rows. -/
def Memory.batch (memory : Memory) (state : WriterState) : List Commit :=
  if state.newestFirst = [] then []
  else
    [memory.store.nextCommit state.path state.schema (WriterState.committed state) state.writtenBy]

namespace Writer

variable {writer : Writer} {handle : Nat} {state : WriterState} {memory before : Memory}
  {record : List String}

/-- The row that an episode has written, if any. -/
def rowOf {σ : Type} (schema : Schema) (episode : Episode (List String) σ) : Option Row :=
  match episode.act, episode.result with
  | .use record, .ok _ => schema.parsed? record
  | _, _ => none

/-- The rows of the records whose writing succeeded, in the order in which they were written. -/
def rowsWritten {σ : Type} (schema : Schema) (episodes : List (Episode (List String) σ)) :
    List Row :=
  episodes.filterMap (rowOf schema)

/-- The backend keeps further rows for a writer and has committed nothing. -/
structure Buffers (handle : Handle) (state : WriterState) (before : Memory) (rows : List Row)
    (memory : Memory) : Prop where
  holds : memory.Holds handle (.writer (state.taking rows))
  commits : memory.store.commits = before.store.commits

/-- A write that succeeds is of a record that stands for a row. -/
def Takes (schema : Schema) (episode : Episode (List String) (Faulty Memory)) : Prop :=
  ∀ record, episode.act = .use record → episode.result = .ok () →
    ∃ row, schema.parsed? record = some row

variable {rows : List Row} {recorded : Recorded (Faulty Memory)}

theorem rowsWritten_concat {σ : Type} (schema : Schema)
    (episodes : List (Episode (List String) σ)) (episode : Episode (List String) σ) :
    rowsWritten schema (episodes ++ [episode]) =
      rowsWritten schema episodes ++ (rowOf schema episode).toList := by
  unfold rowsWritten
  rw [List.filterMap_append]
  cases hrow : rowOf schema episode <;> simp [hrow]

theorem rowOf_of_refuses {σ : Type} {episode : Episode (List String) σ} (schema : Schema)
    (h : Writer.lifecycle.Refuses episode) : rowOf schema episode = none := by
  obtain ⟨act, result, closed, before, after⟩ := episode
  obtain ⟨-, -, -, hresult⟩ := h
  cases act with
  | use record =>
    cases hresult
    rfl
  | close => rfl

theorem takes_of_refuses {episode : Episode (List String) (Faulty Memory)} (schema : Schema)
    (h : Writer.lifecycle.Refuses episode) : Takes schema episode := by
  intro record hact hok
  have hresult := h.2.2.2
  rw [hact] at hresult
  cases hok.symm.trans hresult

/-! #### Single calls -/

/-- A record that stands for a row is taken, any other one is refused. -/
theorem reply_writeRecord (h : memory.Holds writer.handle (.writer state))
    (hopen : state.closed = false) (record : List String) :
    let reply :=
      memory.reply (.onObject writer.handle Operation.writeRecord.method [.texts record])
    (∃ row, state.schema.parsed? record = some row ∧ reply.outcome = .returned .nothing ∧
        reply.state = (memory.counting Operation.writeRecord.method).put writer.handle
          (.writer { state with newestFirst := row :: state.newestFirst })) ∨
      (∃ error, reply.outcome = .failed error) ∧
        reply.state = memory.counting Operation.writeRecord.method := by
  intro reply
  have houtcome : reply.outcome = _ :=
    Memory.outcome_invoke h.running .writeRecord (some writer.handle) [.texts record]
  have hstate : reply.state = _ :=
    Memory.state_invoke h.running .writeRecord (some writer.handle) [.texts record]
  rw [Option.getD_some, Memory.perform_writeRecord (h.counting _) hopen] at houtcome hstate
  cases hrow : state.schema.parsed? record with
  | some row =>
    rw [Memory.readRecord_eq_ok_iff.mpr hrow] at houtcome hstate
    exact .inl ⟨row, rfl, houtcome, hstate⟩
  | none =>
    obtain ⟨error, hread⟩ := Memory.exists_readRecord_eq_error hrow
    rw [hread] at houtcome hstate
    exact .inr ⟨⟨error, houtcome⟩, hstate⟩

/-- An open writer is closed. -/
theorem reply_closeWriter (h : memory.Holds writer.handle (.writer state))
    (hopen : state.closed = false) :
    let reply := memory.reply (.onObject writer.handle Operation.closeWriter.method [])
    reply.outcome = .returned .nothing ∧
      reply.state =
        (memory.counting Operation.closeWriter.method).closing writer.handle state := by
  obtain ⟨houtcome, hstate⟩ :=
    Memory.perform_closeWriter (h.counting Operation.closeWriter.method) hopen
  constructor
  · exact (Memory.outcome_invoke h.running .closeWriter (some writer.handle) []).trans houtcome
  · exact (Memory.state_invoke h.running .closeWriter (some writer.handle) []).trans hstate

theorem Buffers.counting (h : Buffers handle state before rows memory) (method : Method) :
    Buffers handle state before rows (memory.counting method) :=
  ⟨h.holds.counting method, h.commits⟩

/-- One row more. -/
theorem Buffers.put (h : Buffers handle state before rows memory) (row : Row) :
    Buffers handle state before (rows ++ [row]) (memory.put handle (.writer
      { state.taking rows with newestFirst := row :: (state.taking rows).newestFirst })) := by
  have htaking : state.taking (rows ++ [row]) =
      { state.taking rows with newestFirst := row :: (state.taking rows).newestFirst } := by
    simp [WriterState.taking]
  refine ⟨?_, h.commits⟩
  rw [htaking]
  exact h.holds.put _

/-- By closing, everything is committed that has been kept. -/
theorem Buffers.commits_closing (h : Buffers handle state before rows memory) :
    (memory.closing handle (state.taking rows)).store.commits =
      before.store.commits ++ before.batch (state.taking rows) := by
  rw [Memory.commits_closing, h.commits]
  unfold Memory.batch Store.nextCommit
  rw [h.commits]

/-- A write that succeeds adds its row to those that are kept, and one that fails adds none. -/
theorem ends_write_kept (h : Buffers writer.handle state before rows recorded.memory)
    (hopen : writer.closed = false) (hstate : state.closed = false)
    (hfaults : ∀ fault ∈ recorded.inner.faults, fault.Fails) (record : List String) :
    Client.Ends Memory.backend.withFaults.recorded (writer.write record) recorded
      fun result after ↦ (∀ fault ∈ after.inner.faults, fault.Fails) ∧
        ((∃ row, result = .ok { writer with written := writer.written + 1 } ∧
            state.schema.parsed? record = some row ∧
              Buffers writer.handle state before (rows ++ [row]) after.memory) ∨
          (∃ failure, result = .error failure) ∧
            Buffers writer.handle state before rows after.memory) := by
  obtain ⟨hlater, hcases⟩ := Recorded.answer_cases hfaults writer.handle
    Operation.writeRecord.method [.texts record]
  refine (ends_write hopen record recorded).mono ?_
  rintro result after ⟨rfl, hok, hfails⟩
  refine ⟨hlater, ?_⟩
  rcases hcases with ⟨⟨error, houtcome⟩, hmemory, -⟩ | ⟨houtcome, hmemory, -⟩
  all_goals rw [hmemory]
  · refine .inr ⟨hfails ?_, h⟩
    rw [houtcome]
    nofun
  · rcases reply_writeRecord h.holds hstate record with
      ⟨row, hrow, hreturned, hafter⟩ | ⟨⟨error, hfailed⟩, hafter⟩
    all_goals rw [hafter]
    · exact .inl ⟨row, hok (houtcome.trans hreturned), hrow, (h.counting _).put row⟩
    · refine .inr ⟨hfails ?_, h.counting _⟩
      rw [houtcome, hfailed]
      nofun

/-! #### Whole lives -/

/-- What is known of a writer after some episodes. -/
structure Standing (handle : Handle) (state : WriterState) (before : Memory)
    (episodes : List (Episode (List String) (Faulty Memory))) (writer : Writer)
    (recorded : Recorded (Faulty Memory)) : Prop where
  fits : Writer.lifecycle.Fits handle episodes writer recorded
  faults : ∀ fault ∈ recorded.inner.faults, fault.Fails
  opened : writer.closed = false →
    Buffers handle state before (rowsWritten state.schema episodes) recorded.memory
  closed : writer.closed = true → recorded.memory.store.commits = before.store.commits ++
    before.batch (state.taking (rowsWritten state.schema episodes))

variable {episodes : List (Episode (List String) (Faulty Memory))}
  {connection : Connection (Recorded (Faulty Memory))}

theorem Standing.perform_use (h : Standing handle state before episodes writer connection.state)
    (hopen : writer.closed = false) (hstate : state.closed = false) (record : List String) :
    let step := Writer.lifecycle.perform Memory.backend.withFaults (.use record) writer connection
    Takes state.schema step.1 ∧
      Standing handle state before (episodes ++ [step.1]) step.2.1 step.2.2.state := by
  intro step
  have hfits : Writer.lifecycle.Fits handle (episodes ++ [step.1]) step.2.1 step.2.2.state :=
    lawful_lifecycle.fits_perform (.use record) h.fits
  have hhandle : writer.handle = handle := h.fits.handle
  have hbuffers := h.opened hopen
  rw [← hhandle] at hbuffers
  rcases Writer.lifecycle.perform_cases (.use record)
      (ends_write_kept hbuffers hopen hstate h.faults record) with
    ⟨next, later, ⟨hfaults, hended⟩, hperform⟩ | ⟨failure, later, ⟨hfaults, hended⟩, hperform⟩
  all_goals
    have hstep : step = _ := hperform
    rw [hstep] at hfits ⊢
  · rcases hended with ⟨row, ⟨⟩, hrow, hkept⟩ | ⟨⟨_, ⟨⟩⟩, -⟩
    refine ⟨?_, hfits, hfaults, fun _ ↦ ?_, ?_⟩
    · rintro _ ⟨⟩ -
      exact ⟨row, hrow⟩
    · have hrowOf : rowOf state.schema (step.1) = some row := by
        rw [hstep]
        exact hrow
      rw [hstep] at hrowOf
      rw [rowsWritten_concat, hrowOf, ← hhandle]
      exact hkept
    · intro hclosed
      cases hopen.symm.trans hclosed
  · rcases hended with ⟨row, ⟨⟩, -, -⟩ | ⟨-, hkept⟩
    refine ⟨?_, hfits, hfaults, fun _ ↦ ?_, ?_⟩
    · rintro _ - ⟨⟩
    · rw [rowsWritten_concat, ← hhandle]
      exact (List.append_nil (rowsWritten state.schema episodes)).symm ▸ hkept
    · intro hclosed
      cases hopen.symm.trans hclosed

theorem Standing.perform_close (h : Standing handle state before episodes writer connection.state)
    (hopen : writer.closed = false) (hstate : state.closed = false) :
    let step := Writer.lifecycle.perform Memory.backend.withFaults .close writer connection
    step.1.LeavesMemory ∧
      Standing handle state before (episodes ++ [step.1]) step.2.1 step.2.2.state := by
  intro step
  have hfits : Writer.lifecycle.Fits handle (episodes ++ [step.1]) step.2.1 step.2.2.state :=
    lawful_lifecycle.fits_perform .close h.fits
  have hhandle : writer.handle = handle := h.fits.handle
  have hbuffers := h.opened hopen
  have hrowOf : rowOf state.schema step.1 = none := by
    have hact : step.1.act = .close := Lifecycle.act_perform _ _ _
    unfold rowOf
    rw [hact]
  subst hhandle
  obtain ⟨hreply, hclosing⟩ := reply_closeWriter hbuffers.holds hstate
  obtain ⟨hfaults, hcases⟩ := lawful_lifecycle.close_cases hopen h.faults hreply
  refine ⟨lawful_lifecycle.leavesMemory_close hopen h.faults hreply, hfits, hfaults, ?_, ?_⟩
  all_goals
    intro hended
    rw [rowsWritten_concat, hrowOf, Option.toList_none, List.append_nil]
    rcases hcases with ⟨hdone, -, hmemory⟩ | ⟨hobject, -, hmemory, -⟩
  · cases hdone.symm.trans hended
  · rw [hmemory]
    exact hbuffers
  · rw [hmemory]
    exact (congrArg (·.store.commits) hclosing).trans (hbuffers.counting _).commits_closing
  · rw [hobject, hopen] at hended
    cases hended

theorem Standing.perform (hstate : state.closed = false) (act : Act (List String))
    (h : Standing handle state before episodes writer connection.state) :
    let step := Writer.lifecycle.perform Memory.backend.withFaults act writer connection
    (Takes state.schema step.1 ∧ step.1.LeavesMemory) ∧
      Standing handle state before (episodes ++ [step.1]) step.2.1 step.2.2.state := by
  intro step
  by_cases hclosed : writer.closed = true
  · have hfits : Writer.lifecycle.Fits handle (episodes ++ [step.1]) step.2.1 step.2.2.state :=
      lawful_lifecycle.fits_perform act h.fits
    obtain ⟨hrefuses, hobject, hafter⟩ :=
      lawful_lifecycle.perform_closed Memory.backend.withFaults hclosed act connection
    have hstill : step.2.1 = writer := hobject
    refine ⟨⟨takes_of_refuses _ hrefuses, hrefuses.leavesMemory⟩, hfits, ?_, ?_, ?_⟩
    · rw [hafter]
      exact h.faults
    · intro hopen
      rw [hstill, hclosed] at hopen
      cases hopen
    · intro _
      rw [hafter, rowsWritten_concat, rowOf_of_refuses _ hrefuses, Option.toList_none,
        List.append_nil]
      exact h.closed hclosed
  · have hopen := Bool.eq_false_iff.mpr hclosed
    cases act with
    | use record =>
      obtain ⟨htakes, hlater⟩ := h.perform_use hopen hstate record
      exact ⟨⟨htakes, Lifecycle.leavesMemory_use _ _ _⟩, hlater⟩
    | close =>
      obtain ⟨hleaves, hlater⟩ := h.perform_close hopen hstate
      refine ⟨⟨?_, hleaves⟩, hlater⟩
      intro record hact _
      cases (Lifecycle.act_perform _ _ _).symm.trans hact

/-- Giving up an open writer commits what it has kept if the call that closes it is answered. -/
theorem Standing.drop (h : Standing handle state before episodes writer connection.state)
    (hstate : state.closed = false) :
    let batch := before.batch (state.taking (rowsWritten state.schema episodes))
    let final := (writer.drop.run Memory.backend.withFaults.recorded connection).2.state
    (Writer.lifecycle.closings final = 1 →
        final.memory.store.commits = before.store.commits ++ batch) ∧
      (Writer.lifecycle.closings final = 0 →
        final.memory.store.commits = before.store.commits) := by
  intro batch final
  have hcount := h.fits.closings
  by_cases hclosed : writer.closed = true
  · obtain ⟨hfinal, hclosings⟩ :=
      lawful_lifecycle.drop_closed Memory.backend.withFaults hclosed connection
    have hone : Writer.lifecycle.closings final = 1 := by
      exact hclosings.trans (hcount.trans (if_pos hclosed))
    have hcommits := Faulty.commits_answerAll_release h.faults
      (List.prefix_refl [Call.release writer.handle])
    refine ⟨fun _ ↦ ?_, fun hzero ↦ ?_⟩
    · exact (congrArg (Recorded.memory · |>.store.commits) hfinal).trans
        (hcommits.trans (h.closed hclosed))
    · cases hzero.symm.trans hone
  · have hopen : writer.closed = false := Bool.eq_false_iff.mpr hclosed
    have hhandle : writer.handle = handle := h.fits.handle
    have hbuffers := h.opened hopen
    subst hhandle
    obtain ⟨hreply, hclosing⟩ := reply_closeWriter hbuffers.holds hstate
    obtain ⟨hfaults, hcases⟩ :=
      Recorded.answer_cases h.faults writer.handle Operation.closeWriter.method []
    obtain ⟨⟨rest, hbegins, hfinal⟩, hclosings⟩ :=
      lawful_lifecycle.drop_open Memory.backend.withFaults hopen connection
    have hcommits : final.memory.store.commits = _ :=
      (congrArg (Recorded.memory · |>.store.commits) hfinal).trans
        (Faulty.commits_answerAll_release hfaults hbegins)
    have hzero : Writer.lifecycle.closings connection.state = 0 := hcount.trans (if_neg hclosed)
    rw [hzero, Nat.zero_add] at hclosings
    rcases hcases with ⟨⟨error, houtcome⟩, hmemory, -⟩ | ⟨houtcome, hmemory, -⟩
    · have hnot : (Memory.backend.withFaults.call writer.handle Operation.closeWriter.method []
          connection.state.inner).outcome ≠ .returned .nothing := by
        rw [houtcome]
        nofun
      have hnone : Writer.lifecycle.closings final = 0 := hclosings.trans (if_neg hnot)
      refine ⟨fun hone ↦ ?_, fun _ ↦ ?_⟩
      · cases hone.symm.trans hnone
      · rw [hcommits, hmemory]
        exact hbuffers.commits
    · have hone : Writer.lifecycle.closings final = 1 :=
        hclosings.trans (if_pos (houtcome.trans hreply))
      refine ⟨fun _ ↦ ?_, fun hnone ↦ ?_⟩
      · rw [hcommits, hmemory]
        exact (congrArg (·.store.commits) hclosing).trans (hbuffers.counting _).commits_closing
      · cases hone.symm.trans hnone

end Writer

end ColumnStore
