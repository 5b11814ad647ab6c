import ColumnStore.Proofs.Reader.Telling
import ColumnStore.Proofs.Schema.RoundTrip
import ColumnStore.Proofs.Writer.Building

/-!
# Written rows are read back

Batches of rows are written to a folder, each with a writer of its own, and a reader over the folder
delivers them. On the way a row becomes a record of cells, a row of the backend, a commit, a row
that is handed out and a row of values again; the schema becomes a text, a plan, the schema of a
table and the types that an accessor tells.
-/

set_option autoImplicit false

namespace ColumnStore

/-- Writes rows to a folder with a writer of their own. -/
def Writer.writeBatch {σ : Type} (path : String) (schema : Schema) (rows : List Row) :
    Client σ Unit := do
  let writer ← Writer.building [.outputPath path, .schema schema]
  let writer ← rows.foldlM Writer.writeValues writer
  let writer ← writer.close
  writer.drop

namespace Memory

variable {memory before middle after : Memory} {path : String} {schema : Schema} {rows : List Row}

/-! ### Building the writer -/

/-- A step of building ends with a builder whose plan the backend holds, and the commits are the
given ones. -/
def Settled (commits : List Commit) (builder : WriterBuilder) (plan : WriterPlan)
    (result : Except Failure WriterBuilder) (after : Memory) : Prop :=
  result = .ok builder ∧ after.Holds builder.handle (.writerBuilder plan) ∧
    after.store.commits = commits

variable {commits : List Commit} {builder : WriterBuilder} {plan : WriterPlan}

/-- A step that changes the plan settles the changed one. -/
theorem ends_settle {action : Client Memory WriterBuilder} {result : WriterBuilder}
    {new : WriterPlan} {method : Method} (h : memory.Holds builder.handle (.writerBuilder plan))
    (hrun : Client.Runs backend action memory (.ok result)
      ((memory.counting method).put builder.handle (.writerBuilder new)))
    (hhandle : result.handle = builder.handle) :
    Client.Ends backend action memory (Settled memory.store.commits result new) := by
  refine hrun.mono ?_
  rintro _ after ⟨rfl, rfl⟩
  refine ⟨rfl, ?_, rfl⟩
  rw [hhandle]
  exact (h.counting method).put _

theorem ends_bind_settled {α : Type} {action : Client Memory WriterBuilder}
    {next : WriterBuilder → Client Memory α} {last : Except Failure α → Memory → Prop}
    (h : Client.Ends backend action memory (Settled commits builder plan))
    (hnext : ∀ state : Memory, state.Holds builder.handle (.writerBuilder plan) →
      state.store.commits = commits → Client.Ends backend (next builder) state last) :
    Client.Ends backend (action >>= next) memory last := by
  refine Client.Ends.bind_of_ok h ?_
  rintro _ state ⟨rfl, hholds, hcommits⟩
  exact ⟨builder, rfl, hnext state hholds hcommits⟩

/-- A well-formed schema is settled as it is. -/
theorem ends_schemaOf (h : memory.Holds builder.handle (.writerBuilder plan))
    (hschema : schema.IsWellFormed) :
    Client.Ends backend (builder.schemaOf schema) memory
      (Settled memory.store.commits { builder with schema := some schema }
        { plan with schema := some schema }) := by
  have hcolumns : ¬ schema.isEmpty = true := by
    simpa [Schema.isEmpty] using hschema.1
  unfold WriterBuilder.schemaOf
  rw [if_neg hcolumns]
  exact ends_settle h (runs_schemaText h hschema.read_text) rfl

/-- The writer over a folder with a schema and no sort columns. -/
def plainWriter (path : String) (schema : Schema) (newestFirst : List Row) : WriterState :=
  ⟨path, schema, newestFirst, WriterBuilder.defaultName, [], false⟩

/-- A writer has taken rows and is open, and the commits are the given ones. -/
def Wrote (commits : List Commit) (path : String) (schema : Schema) (newestFirst : List Row)
    (result : Except Failure Writer) (after : Memory) : Prop :=
  ∃ writer, result = .ok writer ∧ writer.closed = false ∧
    after.Holds writer.handle (.writer (plainWriter path schema newestFirst)) ∧
    after.store.commits = commits

/-- A plan with a folder and a schema can be finished. -/
theorem ends_build_plain
    (h : memory.Holds builder.handle
      (.writerBuilder { WriterPlan.empty with path := some path, schema := some schema }))
    (hnamed : builder.named = false) :
    Client.Ends backend builder.build memory (Wrote memory.store.commits path schema []) := by
  rw [WriterBuilder.build_eq, hnamed, if_neg Bool.false_ne_true]
  refine ends_bind_settled (ends_settle h (runs_writtenBy h WriterBuilder.defaultName) rfl)
    fun state hholds hcommits ↦ ?_
  refine (@runs_finish _ _ _ (plainWriter path schema []) hholds rfl).mono ?_
  rintro result after ⟨rfl, rfl⟩
  refine ⟨_, rfl, rfl, ⟨hholds.running, ?_⟩, hcommits⟩
  have hne : state.nextHandle ≠ builder.handle :=
    Nat.ne_of_gt (lt_nextHandle_of_object? hholds.object)
  exact (object?_vacate_of_ne (ne_zero_of_object? hholds.object) hne).trans
    (object?_pin_new _ _)

/-- A writer over any folder can be built with a well-formed schema. -/
theorem ends_building_plain (hrunning : memory.isShutDown = false) (hschema : schema.IsWellFormed)
    (path : String) :
    Client.Ends backend (Writer.building [.outputPath path, .schema schema]) memory
      (Wrote memory.store.commits path schema []) := by
  refine (runs_createWriterBuilder hrunning).bind ?_
  have hnew : ((memory.counting Operation.newWriterBuilder.method).pin
      (.writerBuilder .empty)).Holds memory.nextHandle (.writerBuilder .empty) :=
    @holds_pin (memory.counting Operation.newWriterBuilder.method) hrunning _
  have hsteps : Client.Ends backend
      ([WriterStep.outputPath path, .schema schema].foldlM WriterStep.take
        ⟨memory.nextHandle, none, none, false⟩)
      ((memory.counting Operation.newWriterBuilder.method).pin (.writerBuilder .empty))
      (Settled memory.store.commits ⟨memory.nextHandle, some path, some schema, false⟩
        { WriterPlan.empty with path := some path, schema := some schema }) := by
    rw [List.foldlM_cons]
    refine ends_bind_settled (ends_settle hnew (runs_outputPath hnew path) rfl)
      fun state hpath hcommits ↦ ?_
    rw [List.foldlM_cons]
    refine ends_bind_settled (ends_schemaOf hpath hschema) fun last hplan hlast ↦ ?_
    exact Client.ends_pure ⟨rfl, hplan, hlast.trans hcommits⟩
  refine ends_bind_settled hsteps fun state hholds hcommits ↦ ?_
  rw [← hcommits]
  exact ends_build_plain hholds rfl

/-! ### Writing the rows -/

/-- A row is taken as the row that its cells stand for. -/
theorem ends_writeValues {writer : Writer} {taken : List Row} {row stored : Row}
    (h : memory.Holds writer.handle (.writer (plainWriter path schema taken)))
    (hopen : writer.closed = false) (hrow : schema.parsed? (Value.cells row) = some stored) :
    Client.Ends backend (writer.writeValues row) memory
      (Wrote memory.store.commits path schema (stored :: taken)) := by
  refine (runs_write h rfl hopen hrow).mono ?_
  rintro _ after ⟨rfl, rfl⟩
  exact ⟨_, rfl, hopen, (h.counting Operation.writeRecord.method).put _, rfl⟩

theorem ends_writeAll {writer : Writer} {taken stored : List Row}
    (h : memory.Holds writer.handle (.writer (plainWriter path schema taken)))
    (hopen : writer.closed = false)
    (hrows : List.Forall₂ (fun row stored ↦ schema.parsed? (Value.cells row) = some stored)
      rows stored) :
    Client.Ends backend (rows.foldlM Writer.writeValues writer) memory
      (Wrote memory.store.commits path schema (stored.reverse ++ taken)) := by
  induction hrows generalizing memory writer taken with
  | nil => exact Client.ends_pure ⟨writer, rfl, hopen, h, rfl⟩
  | cons hrow _ ih =>
    rw [List.foldlM_cons, List.reverse_cons, List.append_assoc, List.singleton_append]
    refine (ends_writeValues h hopen hrow).bind_of_ok ?_
    rintro _ state ⟨next, rfl, hnext, hholds, hcommits⟩
    rw [← hcommits]
    exact ⟨next, rfl, ih hholds hnext⟩

/-- Rows have been filed: the new commits are to the folder, have the schema, and hold the rows one
behind the other. -/
def Filed (commits : List Commit) (path : String) (schema : Schema) (rows : List Row)
    (result : Except Failure Unit) (after : Memory) : Prop :=
  result = .ok () ∧ after.isShutDown = false ∧
    ∃ files, after.store.commits = commits ++ files ∧
      (∀ file ∈ files, file.folder = Store.folderOf path ∧ file.schema = schema) ∧
      (files.map Commit.rows).flatten = rows

/-- A writer that is closed and given up has filed its rows. -/
theorem ends_finishBatch {writer : Writer}
    (h : memory.Holds writer.handle (.writer (plainWriter path schema rows.reverse)))
    (hopen : writer.closed = false) :
    Client.Ends backend (writer.close >>= Writer.drop) memory
      (Filed memory.store.commits path schema rows) := by
  have hcounted := h.counting Operation.closeWriter.method
  have hdrop := @runs_drop_closed _ { writer with closed := true } _ hcounted.closing rfl
  refine (runs_close h rfl hopen).bind (hdrop.mono ?_)
  rintro result after ⟨rfl, rfl⟩
  have hcommits : (((memory.counting Operation.closeWriter.method).closing writer.handle
      (plainWriter path schema rows.reverse)).vacate writer.handle).store.commits = _ :=
    commits_closing
  refine ⟨rfl, hcounted.closing.running, _, hcommits, ?_⟩
  have hrows : WriterState.committed (plainWriter path schema rows.reverse) = rows :=
    List.reverse_reverse rows
  by_cases hempty : rows = []
  · subst hempty
    exact ⟨List.forall_mem_nil _, rfl⟩
  · rw [if_neg (by simpa [plainWriter] using hempty), hrows]
    refine ⟨?_, List.append_nil rows⟩
    intro file hfile
    rw [List.mem_singleton.mp hfile]
    exact ⟨rfl, rfl⟩

/-- A batch of rows is filed as the rows that their cells stand for. -/
theorem ends_writeBatch {stored : List Row} (hrunning : memory.isShutDown = false)
    (hschema : schema.IsWellFormed)
    (hrows : List.Forall₂ (fun row stored ↦ schema.parsed? (Value.cells row) = some stored)
      rows stored) :
    Client.Ends backend (Writer.writeBatch path schema rows) memory
      (Filed memory.store.commits path schema stored) := by
  refine (ends_building_plain hrunning hschema path).bind_of_ok ?_
  rintro _ state ⟨writer, rfl, hopen, hholds, hbuilt⟩
  refine ⟨writer, rfl, (ends_writeAll hholds hopen hrows).bind_of_ok ?_⟩
  rintro _ last ⟨written, rfl, hwritten, hlast, hcommits⟩
  rw [List.append_nil] at hlast
  rw [← hbuilt, ← hcommits]
  exact ⟨written, rfl, ends_finishBatch hlast hwritten⟩

/-- Batches are filed one behind the other. -/
theorem ends_writeBatches {batches : List (List Row)} (hrunning : memory.isShutDown = false)
    (hschema : schema.IsWellFormed) (hrows : ∀ row ∈ batches.flatten, schema.Carries row) :
    Client.Ends backend (batches.forM (Writer.writeBatch path schema)) memory
      (Filed memory.store.commits path schema batches.flatten) := by
  induction batches generalizing memory with
  | nil => exact Client.ends_pure ⟨rfl, hrunning, [], (List.append_nil _).symm, nofun, rfl⟩
  | cons rows batches ih =>
    rw [List.flatten_cons] at hrows ⊢
    have hfirst : List.Forall₂
        (fun row stored ↦ schema.parsed? (Value.cells row) = some stored) rows rows :=
      List.forall₂_same.mpr fun row hmem ↦ (hrows row (List.mem_append_left _ hmem)).parsed?
    refine (ends_writeBatch hrunning hschema hfirst).bind_of_ok ?_
    rintro _ state ⟨rfl, hstate, files, hcommits, hfiles, hfiled⟩
    have hrest := ih hstate fun row hmem ↦ hrows row (List.mem_append_right _ hmem)
    refine ⟨(), rfl, hrest.mono ?_⟩
    rintro result after ⟨hresult, hafter, more, hall, hmore, hlast⟩
    refine ⟨hresult, hafter, files ++ more, ?_, ?_, ?_⟩
    · rw [hall, hcommits, List.append_assoc]
    · exact List.forall_mem_append.mpr ⟨hfiles, hmore⟩
    · rw [List.map_append, List.flatten_append, hfiled, hlast]

/-- Rows that were filed in a folder without commits are the table of the folder. -/
theorem Filed.table?_eq {result : Except Failure Unit}
    (h : Filed memory.store.commits path schema rows result after)
    (hfree : memory.store.commitsTo path = []) (hsome : rows ≠ []) :
    after.store.table? path = some (schema, rows) := by
  obtain ⟨-, -, files, hcommits, hfiles, hfiled⟩ := h
  have hnone :
      memory.store.commits.filter (fun commit ↦ commit.folder == Store.folderOf path) = [] := hfree
  have hall : files.filter (fun commit ↦ commit.folder == Store.folderOf path) = files :=
    List.filter_eq_self.mpr fun file hfile ↦ by simp [(hfiles file hfile).1]
  have hto : after.store.commitsTo path = files := by
    unfold Store.commitsTo
    rw [hcommits, List.filter_append, hnone, hall, List.nil_append]
  rw [Store.table?_eq, Store.firstCommit?, Store.rows_eq, hto, hfiled]
  cases files with
  | nil => exact absurd hfiled.symm hsome
  | cons first files =>
    rw [List.head?_cons, Option.map_some, (hfiles first List.mem_cons_self).2]

/-- Batches of rows that the columns carry, at least one row in all, are written to a local folder
without files, each batch with a writer of its own, and all of this succeeds. Afterwards the folder
holds the rows of all batches in order, and a reader tells them just so, with the kinds of the
columns of the schema, as long as the backend can count the columns. -/
theorem written_rows_are_read {memory : Memory} {path : String} {schema : Schema}
    {batches : List (List Row)} (hrunning : memory.isShutDown = false)
    (hlocal : isRemote path = false) (hfree : memory.store.commitsTo path = [])
    (hschema : schema.IsWellFormed) (hrows : ∀ row ∈ batches.flatten, schema.Carries row)
    (hsome : batches.flatten ≠ []) :
    Client.Ends backend (batches.forM (Writer.writeBatch path schema)) memory fun result after ↦
      result = .ok () ∧ after.store.table? path = some (schema, batches.flatten) ∧
        ∀ limit, schema.length ≤ Accessor.greatestOrdinal →
          Client.Ends backend (Reader.readAll path limit) after fun told _ ↦
            told = .ok ((batches.flatten.take limit).map fun row ↦ (row, schema.kinds)) := by
  refine (ends_writeBatches hrunning hschema hrows).mono ?_
  intro result after hfiled
  have htable := hfiled.table?_eq hfree hsome
  refine ⟨hfiled.1, htable, fun limit hwidth ↦ ?_⟩
  exact ends_readAll hfiled.2.1 hlocal htable hschema.2.2 hrows hwidth limit

/-- Two batches with an array, an empty array and nulls, and an empty batch between them. -/
theorem written_arrays_and_nulls_are_read :
    let schema : Schema := ⟨[.scalar "a" .int, .array "b" .string]⟩
    let batches : List (List Row) :=
      [[[.int 1, .array [.string " x", .null]], [.null, .array []]], [], [[.int (-2), .null]]]
    let memory : Memory := .start .empty
    (memory.isShutDown = false ∧ isRemote "t" = false ∧ memory.store.commitsTo "t" = [] ∧
      schema.IsWellFormed ∧ (∀ row ∈ batches.flatten, schema.Carries row) ∧
      batches.flatten ≠ []) ∧
    Client.Ends backend (batches.forM (Writer.writeBatch "t" schema)) memory fun result after ↦
      result = .ok () ∧ after.store.table? "t" = some (schema, batches.flatten) ∧
        ∀ limit, schema.length ≤ Accessor.greatestOrdinal →
          Client.Ends backend (Reader.readAll "t" limit) after fun told _ ↦
            told = .ok ((batches.flatten.take limit).map fun row ↦ (row, schema.kinds)) := by
  intro schema batches memory
  have hschema : schema.IsWellFormed := by
    refine ⟨by simp [schema], by simp [schema]; decide, ?_⟩
    intro field hfield
    rcases List.mem_cons.mp hfield with rfl | hfield
    · rfl
    · rw [List.mem_singleton.mp hfield]
      exact ⟨.string, rfl, by decide⟩
  have hrows : ∀ row ∈ batches.flatten, schema.Carries row := by
    simp only [batches, List.flatten_cons, List.flatten_nil, List.cons_append, List.nil_append,
      List.forall_mem_cons]
    refine ⟨.cons rfl (.cons rfl .nil), .cons rfl (.cons rfl .nil), .cons rfl (.cons rfl .nil),
      List.forall_mem_nil _⟩
  have hsome : batches.flatten ≠ [] := List.cons_ne_nil _ _
  exact ⟨⟨rfl, rfl, rfl, hschema, hrows, hsome⟩,
    written_rows_are_read rfl rfl rfl hschema hrows hsome⟩

end Memory

end ColumnStore
