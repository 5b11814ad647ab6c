import ColumnStore.Client.Reader
import ColumnStore.Proofs.Client.Run
import ColumnStore.Proofs.Reader.Position
import ColumnStore.Proofs.Store.Folder
import ColumnStore.Proofs.Traversal

/-!
# Readers deliver snapshots

A reader is built over the rows that its table holds at that moment, cut down to the chosen columns.
Whatever is called afterwards, commits to the same table among it, a reader that stays open hands
out these rows in order, each of them once, however they are read.
-/

set_option autoImplicit false

namespace ColumnStore

/-- The chosen ones of a schema's columns, in the order in which they were chosen. -/
def Schema.chosen (schema : Schema) : Option (List String) → Option Schema
  | none => some schema
  | some columns =>
    (columns.mapM fun column ↦ (schema.indexOf? column).bind schema.field?).map Schema.mk

/-- The cells of a row in the chosen columns. -/
def Schema.chosenCells (schema : Schema) (row : Row) : Option (List String) → Option Row
  | none => some row
  | some columns => columns.mapM fun column ↦ (schema.indexOf? column).bind fun position ↦
      row[position]?

/-- The table at a path, cut down to the chosen columns. -/
def Store.chosen? (store : Store) (path : String) (columns : Option (List String)) :
    Option (Schema × List Row) := do
  let first ← store.firstCommit? path
  let schema ← first.schema.chosen columns
  let rows ← (store.rows path).mapM fun row ↦ first.schema.chosenCells row columns
  pure (schema, rows)

namespace Memory

variable {memory : Memory} {reader : Nat} {schema : Schema} {rest : List Row}

/-! ### Building a reader -/

theorem bind_field?_indexOf? (schema : Schema) (column : String) :
    (schema.indexOf? column).bind schema.field? =
      schema.fields.find? fun field ↦ Text.sameIgnoringCase field.name column := by
  unfold Schema.indexOf? Schema.field?
  induction schema.fields with
  | nil => rfl
  | cons field fields ih =>
    rw [List.findIdx?_cons, List.find?_cons]
    cases Text.sameIgnoringCase field.name column with
    | true => rfl
    | false =>
      rw [← ih]
      cases fields.findIdx? fun field ↦ Text.sameIgnoringCase field.name column <;> rfl

theorem find_eq_ok_iff {column : String} {field : Field} :
    schema.find column = .ok field ↔ (schema.indexOf? column).bind schema.field? = some field := by
  rw [bind_field?_indexOf?, Schema.find]
  cases schema.fields.find? fun field ↦ Text.sameIgnoringCase field.name column <;> simp

/-- Columns that can be projected on are columns that can be chosen. -/
theorem chosen_of_project {columns : List String} {projected : Schema}
    (h : schema.project columns = .ok projected) :
    schema.chosen (some columns) = some projected ∧
      ∀ row, project (positionsOf schema columns) row = schema.chosenCells row (some columns) := by
  unfold Schema.project at h
  cases hfields : columns.mapM schema.find with
  | error error => simp [hfields, Except.map] at h
  | ok fields =>
    simp only [hfields, Except.map, Except.ok.injEq] at h
    have hfound := (mapM_eq_ok_iff.mp hfields).imp fun column field ↦ find_eq_ok_iff.mp
    constructor
    · rw [Schema.chosen, mapM_eq_some_iff.mpr hfound, ← h]
      rfl
    · intro row
      change (columns.filterMap schema.indexOf?).mapM (fun position ↦ row[position]?) =
        columns.mapM fun column ↦ (schema.indexOf? column).bind fun position ↦ row[position]?
      clear hfields h
      induction hfound with
      | nil => rfl
      | cons hcolumn _ ih =>
        obtain ⟨position, hposition, -⟩ := Option.bind_eq_some_iff.mp hcolumn
        rw [List.filterMap_cons_some hposition, List.mapM_cons, List.mapM_cons, ih, hposition]
        rfl

/-- What a builder makes a reader over is the chosen part of the table. -/
theorem chosen?_eq {store : Store} {path : String} {columns : Option (List String)}
    {first : Commit} (hfirst : store.firstCommit? path = some first)
    (hschema : first.schema.chosen columns = some schema)
    (hrows : (store.rows path).mapM (fun row ↦ first.schema.chosenCells row columns) =
      some rest) :
    store.chosen? path columns = some (schema, rest) := by
  simp [Store.chosen?, hfirst, hschema, hrows]

/-- A builder whose reader is handed out has made it over the chosen part of the table. -/
theorem object?_buildReader {builder reader : Nat} {plan : ReaderPlan}
    (hplan : memory.object? builder = some (.readerBuilder plan))
    (hbuild : (buildReader builder memory).outcome = .returned (.object (some reader))) :
    ∃ schema rows, memory.store.chosen? plan.path plan.columns = some (schema, rows) ∧
      (buildReader builder memory).state.object? reader = some (.reader ⟨schema, rows, false⟩) := by
  have hopened : ∀ {schema rows} {memory : Memory},
      (openReader plan schema rows memory).outcome = .returned (.object (some reader)) →
        (openReader plan schema rows memory).state.object? reader =
          some (.reader ⟨schema, rows, false⟩) := by
    rintro schema rows memory ⟨⟩
    exact object?_pin_new _ _
  have htable : (memory.store.receive plan.path plan.options.entries).table? plan.path =
      (memory.store.firstCommit? plan.path).map fun first ↦
        (first.schema, memory.store.rows plan.path) := Store.table?_eq memory.store plan.path
  unfold buildReader at hbuild ⊢
  rw [readerBuilder_eq_ok_iff.mpr hplan] at hbuild ⊢
  dsimp only at hbuild ⊢
  split at hbuild
  · cases hbuild
  · rename_i hlocal
    rw [if_neg hlocal]
    rw [htable] at hbuild ⊢
    cases hfirst : memory.store.firstCommit? plan.path with
    | none => simp [hfirst, Reply.failed] at hbuild
    | some first =>
      simp only [hfirst, Option.map_some] at hbuild ⊢
      cases hcolumns : plan.columns with
      | none =>
        simp only [hcolumns] at hbuild
        refine ⟨_, _, chosen?_eq hfirst rfl ?_, hopened hbuild⟩
        exact mapM_eq_some_iff.mpr (List.forall₂_same.mpr fun row _ ↦ rfl)
      | some columns =>
        simp only [hcolumns] at hbuild
        unfold openProjected at hbuild ⊢
        split at hbuild
        · cases hbuild
        · cases hbuild
        · rename_i projected hproject
          obtain ⟨hschema, hcells⟩ := chosen_of_project hproject
          simp only [hproject]
          cases hrows : (memory.store.rows plan.path).mapM
              (project (positionsOf first.schema columns)) with
          | none => simp [hrows] at hbuild
          | some rows =>
            simp only [hrows] at hbuild ⊢
            refine ⟨_, _, chosen?_eq hfirst hschema ?_, hopened hbuild⟩
            rw [← hrows]
            exact congrArg (List.mapM · _) (funext fun row ↦ (hcells row).symm)

/-- A reader that a builder hands out stands before the chosen part of the table. -/
theorem standsBefore_of_buildReader {builder reader : Nat} {plan : ReaderPlan}
    {arguments : List Argument} (hplan : memory.object? builder = some (.readerBuilder plan))
    (hbuild : (memory.reply (.onObject builder Operation.buildReader.method arguments)).outcome =
      .returned (.object (some reader))) :
    ∃ schema rows, memory.store.chosen? plan.path plan.columns = some (schema, rows) ∧
      (memory.reply (.onObject builder Operation.buildReader.method arguments)).state.StandsBefore
        reader schema rows := by
  have hrunning : memory.isShutDown = false := by
    by_contra hshut
    have hfailed : memory.reply (.onObject builder Operation.buildReader.method arguments) =
        .failed memory .shutDown := if_pos (by simpa using hshut)
    rw [hfailed] at hbuild
    cases hbuild
  have houtcome := outcome_invoke hrunning .buildReader (some builder) arguments
  have hstate := state_invoke hrunning .buildReader (some builder) arguments
  have hcounted : (memory.counting Operation.buildReader.method).object? builder =
      some (.readerBuilder plan) := hplan
  obtain ⟨schema, rows, hchosen, hobject⟩ :=
    object?_buildReader hcounted (houtcome.symm.trans hbuild)
  refine ⟨schema, rows, hchosen, ?_, ?_⟩
  · exact (isShutDown_invoke .onObject (some builder)).trans hrunning
  · rw [← hobject]
    exact congrArg (fun memory ↦ memory.object? reader) hstate

/-! ### Iterating over the rows -/

variable {client : Reader}

theorem runs_hasNext (h : memory.StandsBefore client.handle schema rest)
    (hopen : client.closed = false) :
    Client.Runs backend client.hasNext memory (.ok !rest.isEmpty)
      (memory.counting Operation.hasNextRow.method) := by
  obtain ⟨houtcome, hstate⟩ := h.hasNextRow []
  unfold Reader.hasNext Reader.whileOpen
  rw [hopen, if_neg Bool.false_ne_true]
  exact (Client.runs_call houtcome hstate).bind (Client.runs_expect_ok _ _ _)

theorem runs_next_cons {row : Row} (h : memory.StandsBefore client.handle schema (row :: rest))
    (hopen : client.closed = false) :
    Client.Runs backend client.next memory (.ok ⟨memory.nextHandle⟩)
      (memory.reply (.onObject client.handle Operation.readRow.method [])).state := by
  unfold Reader.next Reader.whileOpen
  rw [hopen, if_neg Bool.false_ne_true]
  exact (Client.runs_call (h.readRow []) rfl).bind
    ((Client.runs_expect_ok _ _ _).bind (Client.runs_pure _))

/-- An iteration ends without a word where no row is left. -/
theorem runs_step_nil (h : memory.StandsBefore client.handle schema [])
    (hopen : client.closed = false) :
    Client.Runs backend client.step memory (.ok (none, false))
      (memory.counting Operation.hasNextRow.method) :=
  (runs_hasNext h hopen).attempt.bind (Client.runs_pure _)

/-- An iteration goes on with the next row while there is one. -/
theorem ends_step_cons {row : Row} (h : memory.StandsBefore client.handle schema (row :: rest))
    (hopen : client.closed = false) :
    Client.Ends backend client.step memory fun result state ↦
      result = .ok (some (.ok ⟨memory.nextHandle⟩), true) ∧
        state.StandsBefore client.handle schema rest ∧
        state.object? memory.nextHandle = some (.row ⟨schema, row⟩) ∧
        memory.nextHandle < state.nextHandle ∧
        ∀ other < memory.nextHandle, other ≠ client.handle →
          state.object? other = memory.object? other := by
  have hcounted := h.counting Operation.hasNextRow.method
  have hruns : Client.Runs backend client.step memory
      (.ok (some (.ok ⟨memory.nextHandle⟩), true))
      ((memory.counting Operation.hasNextRow.method).reply
        (.onObject client.handle Operation.readRow.method [])).state :=
    (runs_hasNext h hopen).attempt.bind
      ((runs_next_cons hcounted hopen).attempt.bind (Client.runs_pure _))
  refine hruns.mono ?_
  rintro result state ⟨rfl, rfl⟩
  obtain ⟨hstands, hhanded⟩ := hcounted.read_one []
  rw [handedOutBy, if_pos rfl, hcounted.readRow] at hhanded
  have hobject : ((memory.counting Operation.hasNextRow.method).reply
      (.onObject client.handle Operation.readRow.method [])).state.object? memory.nextHandle =
        some (.row ⟨schema, row⟩) := by
    simpa [behind, Returned.handles, rowObjects] using hhanded
  refine ⟨rfl, hstands, hobject, lt_nextHandle_of_object? hobject, ?_⟩
  intro other hlt hne
  exact object?_invoke_of_ne .onObject (some client.handle) hne hlt

/-- Collecting the rows that are left delivers them in order. -/
theorem ends_collect (h : memory.StandsBefore client.handle schema rest)
    (hopen : client.closed = false) (limit : Nat) (results : List (Except Error HeldRow)) :
    Client.Ends backend (client.collect pure limit results) memory fun result state ↦
      ∃ rows : List HeldRow, result = .ok ((rows.map Except.ok).reverse ++ results) ∧
        rows.map (fun row ↦ state.object? row.handle) = rowObjects schema (rest.take limit) ∧
        ∀ other < memory.nextHandle, other ≠ client.handle →
          state.object? other = memory.object? other := by
  induction limit generalizing memory rest results with
  | zero => exact Client.ends_pure ⟨[], rfl, rfl, fun _ _ _ ↦ rfl⟩
  | succ limit ih =>
    cases rest with
    | nil =>
      refine (runs_step_nil h hopen).bind (Client.ends_pure ?_)
      exact ⟨[], rfl, rfl, fun _ _ _ ↦ rfl⟩
    | cons row rest =>
      refine (ends_step_cons h hopen).bind ?_ ?_
      · rintro a state ⟨⟨⟩, hstands, hobject, hlt, hframe⟩
        have hne : memory.nextHandle ≠ client.handle :=
          Nat.ne_of_gt (lt_nextHandle_of_object? h.object)
        refine (Client.runs_pure _).bind ((ih hstands (.ok ⟨memory.nextHandle⟩ :: results)).mono ?_)
        rintro result final ⟨rows, rfl, hrows, hkept⟩
        refine ⟨⟨memory.nextHandle⟩ :: rows, ?_, ?_, ?_⟩
        · simp
        · rw [List.map_cons, hrows, hkept memory.nextHandle hlt hne, hobject]
          rfl
        · intro other hother hnot
          rw [hkept other (Nat.lt_trans hother hlt) hnot, hframe other hother hnot]
      · rintro failure state ⟨⟨⟩, -⟩

/-! ### The snapshot -/

/-- What a reader over `rows` answers when it has handed out the first `count` of them: whether a
row is left, single rows and several rows at a time, any mixture of reads, and an iteration. -/
structure Serves (memory : Memory) (reader : Handle) (schema : Schema) (rows : List Row)
    (count : Nat) : Prop where
  hasNext : ∀ arguments,
    (memory.reply (.onObject reader Operation.hasNextRow.method arguments)).outcome =
        .returned (.boolean (decide (count < rows.length))) ∧
      (memory.reply (.onObject reader Operation.hasNextRow.method arguments)).state =
        memory.counting Operation.hasNextRow.method
  row : ∀ arguments, count < rows.length → ∃ handle,
    (memory.reply (.onObject reader Operation.readRow.method arguments)).outcome =
        .returned (.object (some handle)) ∧
      [(memory.reply (.onObject reader Operation.readRow.method arguments)).state.object? handle] =
        rowObjects schema ((rows.drop count).take 1)
  batch : ∀ (size : Int32) (more : List Argument), 0 < size → count < rows.length → ∃ handles,
    (memory.reply (.onObject reader Operation.readRows.method (.int size :: more))).outcome =
        .returned (.objects handles) ∧
      handles.length = min size.toInt.toNat (rows.length - count) ∧
      handles.map (memory.reply (.onObject reader Operation.readRows.method
          (.int size :: more))).state.object? =
        rowObjects schema ((rows.drop count).take size.toInt.toNat)
  noRow : ∀ arguments,
    (memory.reply (.onObject reader Operation.readRow.method arguments)).outcome =
      .failed .noMoreRows ↔ count = rows.length
  noBatch : ∀ (size : Int32) (more : List Argument), 0 < size →
    ((memory.reply (.onObject reader Operation.readRows.method (.int size :: more))).outcome =
      .failed .noMoreRows ↔ count = rows.length)
  reads : ∀ requests : List (Option Int32), (∀ size, some size ∈ requests → 0 < size) →
    memory.handedOut reader (requests.map (Call.read reader)) =
      rowObjects schema ((rows.drop count).take (requests.map asked).sum)
  iteration : ∀ client : Reader, client.handle = reader → client.closed = false → ∀ limit,
    Client.Ends backend (client.forRows limit pure) memory fun result state ↦
      ∃ delivered : List HeldRow, result = .ok (delivered.map Except.ok) ∧
        delivered.map (fun row ↦ state.object? row.handle) =
          rowObjects schema ((rows.drop count).take limit)

/-- What a reader answers is settled by where it stands. -/
theorem StandsBefore.serves {rows : List Row} {count : Nat}
    (h : memory.StandsBefore reader schema (rows.drop count)) (hcount : count ≤ rows.length) :
    memory.Serves reader schema rows count := by
  have hempty : rows.drop count = [] ↔ count = rows.length := by
    rw [List.drop_eq_nil_iff]
    omega
  have hleft : (!(rows.drop count).isEmpty) = decide (count < rows.length) := by
    rw [Bool.eq_iff_iff, decide_eq_true_iff, Bool.not_eq_true', List.isEmpty_eq_false_iff, ne_eq,
      hempty]
    omega
  constructor
  · intro arguments
    rw [← hleft]
    exact h.hasNextRow arguments
  · intro arguments hlt
    have hrest : ¬ rows.drop count = [] := by
      rw [hempty]
      omega
    have houtcome := h.readRow arguments
    have hhanded := (h.read_one arguments).2
    rw [if_neg hrest] at houtcome
    rw [handedOutBy, if_pos rfl, houtcome] at hhanded
    exact ⟨memory.nextHandle, houtcome, hhanded⟩
  · intro size more hsize hlt
    have hrest : ¬ rows.drop count = [] := by
      rw [hempty]
      omega
    have houtcome := h.readRows hsize more
    have hhanded := (h.read_many hsize more).2
    rw [if_neg hrest] at houtcome
    rw [handedOutBy, if_pos rfl, houtcome] at hhanded
    refine ⟨_, houtcome, ?_, hhanded⟩
    rw [List.length_range', List.length_drop]
  · intro arguments
    rw [h.readRow arguments, ← hempty]
    by_cases hrest : rows.drop count = []
    · rw [if_pos hrest]
      exact iff_of_true rfl hrest
    · rw [if_neg hrest]
      exact iff_of_false (by rintro ⟨⟩) hrest
  · intro size more hsize
    rw [h.readRows hsize more, ← hempty]
    by_cases hrest : rows.drop count = []
    · rw [if_pos hrest]
      exact iff_of_true rfl hrest
    · rw [if_neg hrest]
      exact iff_of_false (by rintro ⟨⟩) hrest
  · intro requests hrequests
    exact h.reads hrequests
  · rintro client rfl hopen limit
    refine (ends_collect h hopen limit []).bind ?_ ?_
    · rintro results state ⟨delivered, hresults, hdelivered, -⟩
      refine Client.ends_pure ⟨delivered, ?_, hdelivered⟩
      cases hresults
      simp
    · rintro failure state ⟨delivered, ⟨⟩, -⟩

/-- Whatever is called after a reader was built, as long as the reader stays open: the rows that it
hands out are those of the chosen part of the table at the time of the build, in order and each of
them once, and what it answers depends on nothing but how many it has handed out. -/
theorem reader_delivers_snapshot {memory : Memory} {builder reader : Handle} {plan : ReaderPlan}
    {arguments : List Argument} (hplan : memory.object? builder = some (.readerBuilder plan))
    (hbuild : (memory.reply (.onObject builder Operation.buildReader.method arguments)).outcome =
      .returned (.object (some reader)))
    {calls : List Call} (hcalls : ∀ call ∈ calls, call.leavesOpen reader) :
    let built := (memory.reply (.onObject builder Operation.buildReader.method arguments)).state
    ∃ schema rows, memory.store.chosen? plan.path plan.columns = some (schema, rows) ∧
      ∃ count ≤ rows.length,
        built.handedOut reader calls = rowObjects schema (rows.take count) ∧
          (built.after calls).Serves reader schema rows count := by
  intro built
  obtain ⟨schema, rows, hchosen, hstands⟩ := standsBefore_of_buildReader hplan hbuild
  obtain ⟨moved, hmoved, hhanded⟩ := hstands.handedOut hcalls
  have hmin : min moved rows.length = min (min moved rows.length) rows.length := by omega
  rw [List.take_eq_take_iff.mpr hmin] at hhanded
  rw [List.drop_eq_drop_iff.mpr hmin] at hmoved
  exact ⟨schema, rows, hchosen, min moved rows.length, Nat.min_le_right _ _, hhanded,
    hmoved.serves (Nat.min_le_right _ _)⟩

/-- A reader of one column, with a writer that commits to the table in the middle of the reads. -/
theorem reader_delivers_snapshot_beside_commit :
    let memory : Memory :=
      ⟨⟨[⟨"t", "1", ⟨[.scalar "a" .int, .scalar "b" .int]⟩, [[.int 1, .int 2], [.int 3, .int 4]],
          "w"⟩], [], []⟩,
        #[some (.readerBuilder ⟨"t", "_temp", some ["b"], .empty, none⟩),
          some (.writer ⟨"t", ⟨[.scalar "a" .int, .scalar "b" .int]⟩, [[.int 5, .int 6]], "w", [],
            false⟩)], false⟩
    let calls : List Call :=
      [.read 3 none, .onObject 2 Operation.closeWriter.method [], .release 1, .read 3 (some 7)]
    let built := (memory.reply (.onObject 1 Operation.buildReader.method [])).state
    (memory.reply (.onObject 1 Operation.buildReader.method [])).outcome =
        .returned (.object (some 3)) ∧
      (∀ call ∈ calls, call.leavesOpen 3) ∧
      ∃ schema rows, memory.store.chosen? "t" (some ["b"]) = some (schema, rows) ∧
        ∃ count ≤ rows.length,
          built.handedOut 3 calls = rowObjects schema (rows.take count) ∧
            (built.after calls).Serves 3 schema rows count := by
  intro memory calls built
  have hplan : memory.object? 1 =
      some (.readerBuilder ⟨"t", "_temp", some ["b"], .empty, none⟩) := rfl
  have hbuild : (memory.reply (.onObject 1 Operation.buildReader.method [])).outcome =
      .returned (.object (some 3)) := (outcome_invoke rfl .buildReader (some 1) []).trans rfl
  have hcalls : ∀ call ∈ calls, call.leavesOpen 3 := by
    simp [calls, Call.read, Call.leavesOpen, Operation.method]
  exact ⟨hbuild, hcalls, reader_delivers_snapshot hplan hbuild hcalls⟩

end Memory

end ColumnStore
