import ColumnStore.Proofs.Client.Closing
import ColumnStore.Proofs.Client.Hindrance

/-!
# Readers whose closing fails

A reader of the in-process backend that could not be closed goes on where it stood. However its
calls fail, it hands out its rows in their order and each of them once until it is closed.
-/

set_option autoImplicit false

namespace ColumnStore

namespace Reader

open Memory (rowObjects)

variable {reader : Reader} {handle : Nat} {schema : Schema} {rest : List Row}
  {state : Recorded (Faulty Memory)}

/-- The handles returned so far are those of the first of the rows, and the reader stands before the
others. -/
structure ReadsFrom (handle : Handle) (schema : Schema) (rest : List Row)
    (state : Recorded (Faulty Memory)) : Prop where
  stands : state.memory.StandsBefore handle schema (rest.drop state.handles.length)
  given : state.handles.map state.memory.object? =
    rowObjects schema (rest.take state.handles.length)

/-- A handle that a reader has returned keeps its row during further calls on the reader. -/
theorem ReadsFrom.object?_reply (h : ReadsFrom handle schema rest state) {other : Handle}
    (hother : other ∈ state.handles) (method : Method) (arguments : List Argument) :
    (state.memory.reply (.onObject handle method arguments)).state.object? other =
      state.memory.object? other := by
  have hrow : state.memory.object? other ∈
      rowObjects schema (rest.take state.handles.length) := by
    rw [← h.given]
    exact List.mem_map_of_mem hother
  obtain ⟨row, -, hobject⟩ := List.mem_map.mp hrow
  refine Memory.object?_invoke_of_ne .onObject (some handle) ?_
    (Memory.lt_nextHandle_of_object? hobject.symm)
  rintro rfl
  cases hobject.trans h.stands.object

theorem ReadsFrom.answer (h : ReadsFrom handle schema rest state)
    (hfaults : ∀ fault ∈ state.inner.faults, fault.Fails) {method : Method}
    (hmethod : method ≠ Operation.closeReader.method) (arguments : List Argument) :
    ReadsFrom handle schema rest
      (state.answer Memory.backend.withFaults (.onObject handle method arguments)) := by
  let call : Call := .onObject handle method arguments
  rcases (Recorded.answer_cases hfaults handle method arguments).2 with
    ⟨-, hmemory, hhandles⟩ | ⟨-, hmemory, hhandles⟩
  · constructor
    · rw [hmemory, hhandles]
      exact h.stands
    · rw [hmemory, hhandles]
      exact h.given
  · obtain ⟨count, hstands, hhanded⟩ := h.stands.reply call fun _ ↦ hmethod
    rw [Memory.handedOutBy, if_pos rfl, Memory.behind_eq] at hhanded
    -- the call returns as many handles as rows are taken
    generalize (state.memory.reply call).outcome.handles = fresh at hhandles hhanded
    have hlength := congrArg List.length hhanded
    rw [List.length_map, rowObjects, List.length_map, List.length_take] at hlength
    have hcount : min count (rest.drop state.handles.length).length =
        min fresh.length (rest.drop state.handles.length).length := by omega
    rw [List.take_eq_take_iff.mpr hcount] at hhanded
    rw [List.drop_eq_drop_iff.mpr hcount, List.drop_drop] at hstands
    constructor
    · rw [hmemory, hhandles, List.length_append]
      exact hstands
    · rw [hmemory, hhandles, List.length_append, List.map_append, hhanded, List.take_add,
        Memory.rowObjects_append, ← h.given]
      congr 1
      exact List.map_congr_left fun other hother ↦ h.object?_reply hother method arguments

/-- Calls on a reader other than closing it. -/
theorem ReadsFrom.answerAll {calls : List Call} (h : ReadsFrom handle schema rest state)
    (hfaults : ∀ fault ∈ state.inner.faults, fault.Fails)
    (hcalls : ∀ call ∈ calls, ∃ method arguments, call = .onObject handle method arguments ∧
      method ≠ Operation.closeReader.method) :
    (∀ fault ∈ (state.answerAll Memory.backend.withFaults calls).inner.faults, fault.Fails) ∧
      ReadsFrom handle schema rest (state.answerAll Memory.backend.withFaults calls) := by
  induction calls generalizing state with
  | nil => exact ⟨hfaults, h⟩
  | cons call calls ih =>
    obtain ⟨hcall, hrest⟩ := List.forall_mem_cons.mp hcalls
    obtain ⟨method, arguments, rfl, hmethod⟩ := hcall
    exact ih (h.answer hfaults hmethod arguments)
      (Recorded.answer_cases hfaults handle method arguments).1 hrest

theorem outcome_closeReader {memory : Memory} (h : memory.StandsBefore handle schema rest) :
    (memory.reply (.onObject handle Operation.closeReader.method [])).outcome =
      .returned .nothing := by
  refine (Memory.outcome_invoke h.running .closeReader (some handle) []).trans ?_
  show (Memory.closeReader handle (memory.counting _)).outcome = _
  unfold Memory.closeReader
  rw [Memory.reader_eq_ok_iff.mpr (h.counting _).object]
  rfl

/-- What is known of a reader after some episodes. -/
structure Standing (handle : Handle) (schema : Schema) (rest : List Row)
    (episodes : List (Episode ReadRequest (Faulty Memory))) (reader : Reader)
    (state : Recorded (Faulty Memory)) : Prop where
  fits : Reader.lifecycle.Fits handle episodes reader state
  faults : ∀ fault ∈ state.inner.faults, fault.Fails
  reads : reader.closed = false → ReadsFrom handle schema rest state

variable {episodes : List (Episode ReadRequest (Faulty Memory))}
  {connection : Connection (Recorded (Faulty Memory))}

theorem Standing.perform_use (h : Standing handle schema rest episodes reader connection.state)
    (hopen : reader.closed = false) (request : ReadRequest) :
    let step := Reader.lifecycle.perform Memory.backend.withFaults (.use request) reader connection
    Standing handle schema rest (episodes ++ [step.1]) step.2.1 step.2.2.state := by
  obtain ⟨-, made, hbegins, -, hstate⟩ :=
    lawful_lifecycle.perform_use Memory.backend.withFaults hopen request connection
  rw [h.fits.handle] at hbegins
  obtain ⟨hfaults, hreads⟩ := (h.reads hopen).answerAll h.faults
    fun _ hmem ↦ lawful_lifecycle.exists_of_mem_calls hbegins hmem
  rw [← hstate] at hfaults hreads
  exact ⟨lawful_lifecycle.fits_perform (.use request) h.fits, hfaults, fun _ ↦ hreads⟩

theorem Standing.perform_close (h : Standing handle schema rest episodes reader connection.state)
    (hopen : reader.closed = false) :
    let step := Reader.lifecycle.perform Memory.backend.withFaults .close reader connection
    step.1.LeavesMemory ∧
      Standing handle schema rest (episodes ++ [step.1]) step.2.1 step.2.2.state := by
  have hreads := h.reads hopen
  have hreply := outcome_closeReader hreads.stands
  rw [← h.fits.handle] at hreply
  obtain ⟨hfaults, hcases⟩ := lawful_lifecycle.close_cases hopen h.faults hreply
  refine ⟨lawful_lifecycle.leavesMemory_close hopen h.faults hreply,
    lawful_lifecycle.fits_perform .close h.fits, hfaults, ?_⟩
  intro hstill
  rcases hcases with ⟨hclosed, -, -⟩ | ⟨-, -, hmemory, hhandles⟩
  · cases hclosed.symm.trans hstill
  · constructor
    · rw [hmemory, hhandles]
      exact hreads.stands
    · rw [hmemory, hhandles]
      exact hreads.given

theorem Standing.perform (act : Act ReadRequest)
    (h : Standing handle schema rest episodes reader connection.state) :
    let step := Reader.lifecycle.perform Memory.backend.withFaults act reader connection
    step.1.LeavesMemory ∧
      Standing handle schema rest (episodes ++ [step.1]) step.2.1 step.2.2.state := by
  intro step
  by_cases hclosed : reader.closed = true
  · obtain ⟨hrefuses, hobject, hstate⟩ :=
      lawful_lifecycle.perform_closed Memory.backend.withFaults hclosed act connection
    refine ⟨hrefuses.leavesMemory, lawful_lifecycle.fits_perform act h.fits, ?_, ?_⟩
    · rw [hstate]
      exact h.faults
    · intro hopen
      have hstill : step.2.1 = reader := hobject
      rw [hstill, hclosed] at hopen
      cases hopen
  · have hopen : reader.closed = false := Bool.eq_false_iff.mpr hclosed
    cases act with
    | use request => exact ⟨Lifecycle.leavesMemory_use _ _ _, h.perform_use hopen request⟩
    | close => exact h.perform_close hopen

end Reader

end ColumnStore
