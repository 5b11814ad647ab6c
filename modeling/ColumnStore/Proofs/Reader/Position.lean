import ColumnStore.Proofs.Memory.Call
import Mathlib.Algebra.GroupWithZero.Nat

/-!
# Where a reader stands

A reader stands before the rows that it has not handed out yet. No call moves it but a read on the
reader itself, and a read hands out the rows that it moves past: this is shown for every effect that
a call can have and from that for every sequence of calls. What a reader answers depends on nothing
but where it stands.
-/

set_option autoImplicit false

namespace ColumnStore

/-- The call neither closes nor gives up the reader, and it does not shut the backend down. -/
def Call.leavesOpen (reader : Handle) : Call → Prop
  | .construct _ _ | .onClass _ _ => True
  | .onObject handle method _ => handle = reader → method ≠ Operation.closeReader.method
  | .release handle => handle ≠ reader
  | .shutdown => False

/-- A read on a reader, of one row or of several rows at a time. -/
def Call.read (reader : Handle) : Option Int32 → Call
  | none => .onObject reader Operation.readRow.method []
  | some size => .onObject reader Operation.readRows.method [.int size]

namespace Memory

/-- The reader is open, the backend is running, and the rows `rest` have not been handed out. -/
structure StandsBefore (memory : Memory) (reader : Handle) (schema : Schema) (rest : List Row) :
    Prop where
  running : memory.isShutDown = false
  object : memory.object? reader = some (.reader ⟨schema, rest, false⟩)

/-- The objects behind the handles that a call returned. -/
def behind (memory : Memory) : Outcome Returned → List (Option ManagedObject)
  | .returned result => result.handles.map memory.object?
  | _ => []

/-- The objects that a call on a reader hands out, as they are when the call returns. -/
def handedOutBy (memory : Memory) (reader : Handle) (call : Call) : List (Option ManagedObject) :=
  match call with
  | .onObject handle _ _ =>
    if handle = reader then (memory.reply call).state.behind (memory.reply call).outcome else []
  | _ => []

/-- The objects that calls on a reader hand out, among other calls. -/
def handedOut (memory : Memory) (reader : Handle) : List Call → List (Option ManagedObject)
  | [] => []
  | call :: calls =>
    memory.handedOutBy reader call ++ handedOut (memory.reply call).state reader calls

/-- Rows as they are handed out. -/
def rowObjects (schema : Schema) (rows : List Row) : List (Option ManagedObject) :=
  rows.map fun row ↦ some (.row ⟨schema, row⟩)

/-- How many rows a read asks for. -/
def asked : Option Int32 → Nat
  | none => 1
  | some size => size.toInt.toNat

variable {memory before after : Memory} {reader : Nat} {schema : Schema} {rest : List Row}
  {operation : Operation} {outcome : Outcome Returned}

theorem rowObjects_append (schema : Schema) (rows more : List Row) :
    rowObjects schema (rows ++ more) = rowObjects schema rows ++ rowObjects schema more :=
  List.map_append

/-! ### Moving on -/

/-- An operation on a reader other than closing it hands out the rows that the reader moves past. -/
theorem StandsBefore.effect (h : before.StandsBefore reader schema rest)
    (heffect : Effect operation reader before outcome after)
    (hkind : operation.method.kind = .onObject) (hclose : operation ≠ .closeReader) :
    ∃ count, after.StandsBefore reader schema (rest.drop count) ∧
      after.behind outcome = rowObjects schema (rest.take count) := by
  have hrunning : after.isShutDown = false := heffect.isShutDown_eq.trans h.running
  have hlt := lt_nextHandle_of_object? h.object
  have hfound : ∀ {object : ManagedObject}, before.object? reader = some object →
      object = .reader ⟨schema, rest, false⟩ :=
    fun hobject ↦ Option.some.inj (hobject.symm.trans h.object)
  -- the effects on an object of another class cannot be the effect of a call on the reader
  cases heffect with
  | refused error => exact ⟨0, ⟨hrunning, h.object⟩, rfl⟩
  | answered result hresult =>
    refine ⟨0, ⟨hrunning, h.object⟩, ?_⟩
    rw [behind, hresult]
    rfl
  | made object hnot => exact absurd hkind hnot
  | described target object htarget hpart =>
    rw [hfound htarget] at hpart
    simp [ManagedObject.holdsRows] at hpart
  | describedAll target objects htarget hpart =>
    rw [hfound htarget] at hpart
    simp [ManagedObject.holdsRows] at hpart
  | settled old new hold hclass hrows =>
    rw [hfound hold] at hrows
    simp [ManagedObject.holdsRows] at hrows
  | unbuilt plan hplan => cases hfound hplan
  | broken plan hplan => cases hfound hplan
  | opened plan hplan => cases hfound hplan
  | tookRow state hstate hopen row more hrows =>
    cases hfound hstate
    have hobject : ∀ new, ((before.put reader new).pin
        (.row ⟨schema, row⟩)).object? reader = some new := by
      intro new
      rw [object?_pin_of_lt (by simpa using hlt)]
      exact object?_put_self (by simp [h.object]) new
    refine ⟨1, ⟨hrunning, ?_⟩, ?_⟩
    · rw [hobject, show rest = row :: more from hrows]
      rfl
    · rw [show rest = row :: more from hrows]
      have hnew := object?_pin_new (before.put reader (.reader ⟨schema, more, false⟩))
        (.row ⟨schema, row⟩)
      rw [nextHandle_put] at hnew
      simpa [behind, Returned.handles, rowObjects] using hnew
  | tookRows state hstate hopen count =>
    cases hfound hstate
    refine ⟨count, ⟨hrunning, ?_⟩, ?_⟩
    · rw [object?_pinAll_of_lt (by simpa using hlt)]
      exact object?_put_self (by simp [h.object]) _
    · have hnew := map_object?_pinAll
        (before.put reader (.reader ⟨schema, rest.drop count, false⟩))
        ((rest.take count).map fun row ↦ .row ⟨schema, row⟩)
      rw [nextHandle_put, List.length_map, List.map_map] at hnew
      exact hnew
  | closedReader hoperation => exact absurd hoperation hclose
  | began plan hplan => cases hfound hplan
  | wrote writer hwriter => cases hfound hwriter
  | closedEmpty writer hwriter => cases hfound hwriter
  | committed writer hwriter => cases hfound hwriter

/-- A call that is not made on the reader leaves it where it stands. -/
theorem StandsBefore.of_object?_eq (h : before.StandsBefore reader schema rest)
    (hrunning : after.isShutDown = before.isShutDown)
    (hobject : after.object? reader = before.object? reader) :
    after.StandsBefore reader schema rest :=
  ⟨hrunning.trans h.running, hobject.trans h.object⟩

theorem StandsBefore.invoke_of_ne (h : memory.StandsBefore reader schema rest) (kind : MethodKind)
    (target : Option Handle) (method : Method) (arguments : List Argument)
    (hne : reader ≠ target.getD 0) :
    (memory.invoke kind target method arguments).state.StandsBefore reader schema rest :=
  h.of_object?_eq (isShutDown_invoke kind target)
    (object?_invoke_of_ne kind target hne (lt_nextHandle_of_object? h.object))

theorem StandsBefore.invoke_self (h : memory.StandsBefore reader schema rest) (method : Method)
    (arguments : List Argument) (hclose : method ≠ Operation.closeReader.method) :
    ∃ count,
      (memory.invoke .onObject (some reader) method arguments).state.StandsBefore reader schema
        (rest.drop count) ∧
      (memory.invoke .onObject (some reader) method arguments).state.behind
          (memory.invoke .onObject (some reader) method arguments).outcome =
        rowObjects schema (rest.take count) := by
  rcases invoke_cases .onObject (some reader) method arguments memory with
    ⟨error, houtcome, hstate⟩ | ⟨operation, hmethod, hkind, heffect⟩
  · refine ⟨0, ?_, ?_⟩
    · rw [hstate]
      exact h
    · rw [houtcome]
      rfl
  · have hcounting : (memory.counting method).StandsBefore reader schema rest :=
      ⟨h.running, h.object⟩
    refine hcounting.effect heffect hkind ?_
    rintro rfl
    exact hclose hmethod.symm

theorem StandsBefore.release {handle : Nat} (h : memory.StandsBefore reader schema rest)
    (hne : handle ≠ reader) :
    (Memory.release handle memory).state.StandsBefore reader schema rest := by
  unfold Memory.release
  rw [if_neg (by simp [h.running])]
  split
  · rename_i hused
    obtain ⟨object, hobject⟩ := Option.isSome_iff_exists.mp hused
    exact ⟨h.running,
      (object?_vacate_of_ne (ne_zero_of_object? hobject) (Ne.symm hne)).trans h.object⟩
  · exact h

/-- A call after which the reader is still open hands out the rows that the reader moves past. -/
theorem StandsBefore.reply (h : memory.StandsBefore reader schema rest) (call : Call)
    (hcall : call.leavesOpen reader) :
    ∃ count, (memory.reply call).state.StandsBefore reader schema (rest.drop count) ∧
      memory.handedOutBy reader call = rowObjects schema (rest.take count) := by
  have hzero := ne_zero_of_object? h.object
  cases call with
  | construct method arguments =>
    refine ⟨0, ?_, rfl⟩
    rw [Memory.reply, Reply.state_andThen, backend, Reply.state_andThen]
    exact h.invoke_of_ne .constructor none method arguments hzero
  | onClass method arguments =>
    exact ⟨0, h.invoke_of_ne .onClass none method arguments hzero, rfl⟩
  | onObject handle method arguments =>
    by_cases hhandle : handle = reader
    · subst hhandle
      obtain ⟨count, hstands, hbehind⟩ := h.invoke_self method arguments (hcall rfl)
      refine ⟨count, hstands, ?_⟩
      rw [handedOutBy, if_pos rfl]
      exact hbehind
    · refine ⟨0, h.invoke_of_ne .onObject (some handle) method arguments (Ne.symm hhandle), ?_⟩
      rw [handedOutBy, if_neg hhandle]
      rfl
  | release handle =>
    refine ⟨0, ?_, rfl⟩
    rw [Memory.reply, Reply.state_andThen]
    exact h.release hcall
  | shutdown => exact hcall.elim

/-- Among any calls, a reader that stays open hands out the rows that it moves past. -/
theorem StandsBefore.handedOut (h : memory.StandsBefore reader schema rest) {calls : List Call}
    (hcalls : ∀ call ∈ calls, call.leavesOpen reader) :
    ∃ count, (memory.after calls).StandsBefore reader schema (rest.drop count) ∧
      memory.handedOut reader calls = rowObjects schema (rest.take count) := by
  induction calls generalizing memory rest with
  | nil => exact ⟨0, h, rfl⟩
  | cons call calls ih =>
    obtain ⟨first, hfirst, hhanded⟩ := h.reply call (hcalls call List.mem_cons_self)
    obtain ⟨more, hmore, hrest⟩ :=
      ih hfirst fun call hmem ↦ hcalls call (List.mem_cons_of_mem _ hmem)
    refine ⟨first + more, ?_, ?_⟩
    · rw [List.drop_drop] at hmore
      exact hmore
    · rw [Memory.handedOut, hhanded, hrest, List.take_add, rowObjects_append]

/-! ### What a reader answers -/

theorem StandsBefore.openReaderOf (h : memory.StandsBefore reader schema rest) (method : String) :
    memory.openReaderOf reader method = .ok ⟨schema, rest, false⟩ :=
  openReaderOf_eq_ok_iff.mpr ⟨h.object, rfl⟩

theorem StandsBefore.counting (h : memory.StandsBefore reader schema rest) (method : Method) :
    (memory.counting method).StandsBefore reader schema rest :=
  ⟨h.running, h.object⟩

/-- A reader says whether a row is left, and nothing changes by it but the count of calls. -/
theorem StandsBefore.hasNextRow (h : memory.StandsBefore reader schema rest)
    (arguments : List Argument) :
    (memory.reply (.onObject reader Operation.hasNextRow.method arguments)).outcome =
        .returned (.boolean !rest.isEmpty) ∧
      (memory.reply (.onObject reader Operation.hasNextRow.method arguments)).state =
        memory.counting Operation.hasNextRow.method := by
  have hreader := (h.counting Operation.hasNextRow.method).openReaderOf "hasNext"
  have hperform : perform .hasNextRow reader arguments
      (memory.counting Operation.hasNextRow.method) =
        .returned (memory.counting Operation.hasNextRow.method) (.boolean !rest.isEmpty) := by
    change Memory.hasNextRow reader (memory.counting Operation.hasNextRow.method) = _
    rw [Memory.hasNextRow, hreader]
    rfl
  have houtcome := outcome_invoke h.running .hasNextRow (some reader) arguments
  have hstate := state_invoke h.running .hasNextRow (some reader) arguments
  rw [Option.getD_some, hperform] at houtcome hstate
  exact ⟨houtcome, hstate⟩

/-- Reading a row fails if there is none and hands out a new object otherwise. -/
theorem StandsBefore.readRow (h : memory.StandsBefore reader schema rest)
    (arguments : List Argument) :
    (memory.reply (.onObject reader Operation.readRow.method arguments)).outcome =
      if rest = [] then .failed .noMoreRows
      else .returned (.object (some memory.nextHandle)) := by
  have hreader := (h.counting Operation.readRow.method).openReaderOf "readNextCarbonRow"
  have houtcome := outcome_invoke h.running .readRow (some reader) arguments
  rw [Option.getD_some] at houtcome
  refine houtcome.trans ?_
  change (Memory.readRow reader (memory.counting Operation.readRow.method)).outcome = _
  rw [Memory.readRow, hreader]
  cases rest with
  | nil => rfl
  | cons row rest => simp [returnNew, Reply.returned]

/-- Reading rows fails if there are none and hands out as many as asked for and left otherwise. -/
theorem StandsBefore.readRows (h : memory.StandsBefore reader schema rest) {size : Int32}
    (hsize : 0 < size) (more : List Argument) :
    (memory.reply (.onObject reader Operation.readRows.method (.int size :: more))).outcome =
      if rest = [] then .failed .noMoreRows
      else
        .returned (.objects
          (List.range' memory.nextHandle (min size.toInt.toNat rest.length))) := by
  have hreader := (h.counting Operation.readRows.method).openReaderOf "readNextBatchRow"
  have hnot : ¬ size ≤ 0 := Int32.not_le.mpr hsize
  have houtcome := outcome_invoke h.running .readRows (some reader) (.int size :: more)
  rw [Option.getD_some] at houtcome
  refine houtcome.trans ?_
  change (Memory.readRows reader (.int size :: more)
    (memory.counting Operation.readRows.method)).outcome = _
  rw [Memory.readRows]
  change (if size ≤ 0 then _ else _ : Reply Memory Returned).outcome = _
  rw [if_neg hnot, hreader]
  cases rest with
  | nil => rfl
  | cons row rest =>
    simp [returnAll, Reply.returned]

/-- A read hands out exactly as many rows as it asks for, unless fewer are left. -/
theorem StandsBefore.read (h : memory.StandsBefore reader schema rest) {call : Call}
    (hcall : call.leavesOpen reader) {count : Nat}
    (hlength : (memory.handedOutBy reader call).length = min count rest.length) :
    (memory.reply call).state.StandsBefore reader schema (rest.drop count) ∧
      memory.handedOutBy reader call = rowObjects schema (rest.take count) := by
  obtain ⟨moved, hstands, hhanded⟩ := h.reply call hcall
  rw [hhanded, rowObjects, List.length_map, List.length_take] at hlength
  rw [List.take_eq_take_iff.mpr hlength] at hhanded
  rw [List.drop_eq_drop_iff.mpr hlength] at hstands
  exact ⟨hstands, hhanded⟩

theorem StandsBefore.read_one (h : memory.StandsBefore reader schema rest)
    (arguments : List Argument) :
    (memory.reply (.onObject reader Operation.readRow.method arguments)).state.StandsBefore reader
        schema (rest.drop 1) ∧
      memory.handedOutBy reader (.onObject reader Operation.readRow.method arguments) =
        rowObjects schema (rest.take 1) := by
  have hopen : (Call.onObject reader Operation.readRow.method arguments).leavesOpen reader :=
    fun _ ↦ by decide
  refine h.read hopen ?_
  rw [handedOutBy, if_pos rfl, h.readRow]
  cases rest with
  | nil => rfl
  | cons row rest => simp [behind, Returned.handles]

theorem StandsBefore.read_many (h : memory.StandsBefore reader schema rest) {size : Int32}
    (hsize : 0 < size) (more : List Argument) :
    (memory.reply (.onObject reader Operation.readRows.method
        (.int size :: more))).state.StandsBefore reader schema (rest.drop size.toInt.toNat) ∧
      memory.handedOutBy reader (.onObject reader Operation.readRows.method (.int size :: more)) =
        rowObjects schema (rest.take size.toInt.toNat) := by
  have hopen : (Call.onObject reader Operation.readRows.method (.int size :: more)).leavesOpen
      reader := fun _ ↦ by decide
  refine h.read hopen ?_
  rw [handedOutBy, if_pos rfl, h.readRows hsize]
  cases rest with
  | nil => simp [behind]
  | cons row rest => simp [behind, Returned.handles]

/-- Reads of one row and of several rows at a time hand out the same rows, in order. -/
theorem StandsBefore.reads (h : memory.StandsBefore reader schema rest)
    {requests : List (Option Int32)} (hrequests : ∀ size, some size ∈ requests → 0 < size) :
    memory.handedOut reader (requests.map (Call.read reader)) =
      rowObjects schema (rest.take (requests.map asked).sum) := by
  induction requests generalizing memory rest with
  | nil => rfl
  | cons request requests ih =>
    have hread : (memory.reply (Call.read reader request)).state.StandsBefore reader schema
          (rest.drop (asked request)) ∧
        memory.handedOutBy reader (Call.read reader request) =
          rowObjects schema (rest.take (asked request)) := by
      cases request with
      | none => exact h.read_one []
      | some size => exact h.read_many (hrequests size List.mem_cons_self) []
    have hrest := ih hread.1 fun size hmem ↦ hrequests size (List.mem_cons_of_mem _ hmem)
    rw [List.map_cons, Memory.handedOut, hread.2, hrest, List.map_cons, List.sum_cons,
      List.take_add, rowObjects_append]

end Memory

end ColumnStore
