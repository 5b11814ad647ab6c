import ColumnStore.Proofs.Reader.Handover
import ColumnStore.Proofs.Scenario.Run
import ColumnStore.Proofs.Schema.Exactness
import ColumnStore.Proofs.Store.RoundTrip
import ColumnStore.Scenario.Import

/-!
# What an import adds to its table

The records of an imported file are written one after the other. The first one that cannot be read,
or that the schema does not take, ends the import, but the writer is closed as it is given up, and
that commits the records before. So an import that ends with an error may leave a part of the file
in the table, or all of it if the error came afterwards, when the table was read back.
-/

set_option autoImplicit false

namespace ColumnStore

/-- The rows that records stand for, up to the first record that cannot be read or stands for no
row. -/
def Schema.taken (schema : Schema) : List (Except Csv.Error (List String)) → List Row
  | [] => []
  | record :: rest =>
    match record.toOption.bind schema.parsed? with
    | some row => row :: schema.taken rest
    | none => []

namespace Scenario

/-- The schema that the records under a header are written with, if it comes to that. -/
def importSchema? (header : List String) (schemaText : Option String) : Option Schema := do
  let schema ← (schemaFor header schemaText).toOption
  if schema.length = header.length then (Schema.read schema.text).toOption else none

/-- The rows that an import adds to its table. -/
def importedRows (input : InputFile) (schemaText : Option String) : List Row :=
  match readCsv input with
  | .error _ => []
  | .ok table =>
    match importSchema? table.header schemaText with
    | none => []
    | some schema => schema.taken table.records

variable {m : Type → Type} [Monad m] {σ : Type}

/-- Reads the table of an import back and counts its rows. -/
def readBack (path : String) (options : Options) (written : Nat) : Scenario m σ Nat := do
  let reader ← act (openReader path options)
  reading reader (countFrom reader Reader.everyRow 0) fun count ↦ do
    line ("wrote " ++ toString written ++ " rows to " ++ path ++ ", read back " ++ toString count)
    pure count

/-- What is left of an import once all records have been written. -/
def finishImport (writer : Writer) (path : String) (options : Options) : Scenario m σ Nat := do
  let writer ← cleaning writer.drop (act writer.close)
  afterwards writer.drop (readBack path options writer.written)

/-- What is left of an import once there is a schema: writing the records and reading them back. -/
def importRecords (records : List (Except Csv.Error (List String))) (path : String)
    (schema : Schema) (options : Options) : Scenario m σ Nat := do
  let writer ← act (openWriter path schema options)
  let writer ← writeRecords writer records
  finishImport writer path options

/-- An import reads its file, settles the schema and goes on if that fits the header. -/
theorem importCsv_eq {τ : Type} (input : InputFile) (path : String) (schemaText : Option String)
    (options : Options) :
    (importCsv input path schemaText options : Scenario (StateM τ) σ Nat) =
      match readCsv input with
      | .error error => refuse (.csv error)
      | .ok table =>
        match schemaFor table.header schemaText with
        | .error error => refuse (.library error)
        | .ok schema =>
          if schema.length ≠ table.header.length then
            refuse (.library (.schema ("schema has " ++ toString schema.length ++ " columns, "
              ++ input.name ++ " has " ++ toString table.header.length)))
          else importRecords table.records path schema options := by
  unfold importCsv
  cases readCsv input with
  | error error => rfl
  | ok table =>
    rw [ofCsv, pure_bind]
    dsimp only
    cases schemaFor table.header schemaText with
    | error error => rfl
    | ok schema =>
      dsimp only
      rw [pure_bind]
      rfl

end Scenario

namespace Memory

variable {memory before after : Memory} {path : String} {schema : Schema} {rows taken : List Row}

/-! ### Rows added to a folder -/

/-- The commits are those from before and behind them some to the folder, none of them empty, which
hold the rows. -/
def Adds (before after : Memory) (path : String) (rows : List Row) : Prop :=
  ∃ files, after.commits = before.commits ++ files ∧
    (∀ file ∈ files, file.folder = Store.folderOf path ∧ file.rows ≠ []) ∧
    (files.map Commit.rows).flatten = rows

theorem adds_nil (h : after.commits = before.commits) (path : String) :
    Adds before after path [] :=
  ⟨[], h.trans (List.append_nil _).symm, List.forall_mem_nil _, rfl⟩

theorem Adds.congr {first last : Memory} (h : Adds before after path rows)
    (hfirst : first.commits = before.commits) (hlast : last.commits = after.commits) :
    Adds first last path rows := by
  obtain ⟨files, hcommits, hfiles⟩ := h
  exact ⟨files, by rw [hlast, hcommits, hfirst], hfiles⟩

/-- The commits to the folder. -/
theorem Adds.commitsTo (h : Adds before after path rows) (other : String) :
    ∃ files, after.store.commitsTo other = before.store.commitsTo other ++ files ∧
      (files.map Commit.rows).flatten =
        if Store.folderOf other = Store.folderOf path then rows else [] := by
  obtain ⟨files, hcommits, hfolder, hrows⟩ := h
  refine ⟨files.filter fun commit ↦ commit.folder == Store.folderOf other, ?_, ?_⟩
  · change after.commits.filter _ = before.commits.filter _ ++ _
    rw [hcommits, List.filter_append]
  · by_cases hsame : Store.folderOf other = Store.folderOf path
    · have hall : files.filter (fun commit ↦ commit.folder == Store.folderOf other) = files :=
        List.filter_eq_self.mpr fun file hfile ↦ by simp [(hfolder file hfile).1, hsame]
      rw [hall, hrows, if_pos hsame]
    · have hnone : files.filter (fun commit ↦ commit.folder == Store.folderOf other) = [] :=
        List.filter_eq_nil_iff.mpr fun file hfile ↦ by
          simp [(hfolder file hfile).1, Ne.symm hsame]
      rw [hnone, if_neg hsame]
      rfl

/-- The table of the folder grows by the rows, and no other table changes. -/
theorem Adds.rows_eq (h : Adds before after path rows) (other : String) :
    after.store.rows other = before.store.rows other ++
      if Store.folderOf other = Store.folderOf path then rows else [] := by
  obtain ⟨files, hcommits, hrows⟩ := h.commitsTo other
  rw [Store.rows_eq, Store.rows_eq, hcommits, List.map_append, List.flatten_append, hrows]

/-- Without rows there is no commit. -/
theorem Adds.commits_eq (h : Adds before after path []) : after.commits = before.commits := by
  obtain ⟨files, hcommits, hfiles, hrows⟩ := h
  cases files with
  | nil => exact hcommits.trans (List.append_nil _)
  | cons first files =>
    have hfirst : first.rows = [] :=
      List.flatten_eq_nil_iff.mp hrows first.rows (List.mem_map_of_mem List.mem_cons_self)
    exact absurd hfirst (hfiles first List.mem_cons_self).2

/-- Rows added to a folder without a table are its table. -/
theorem Adds.exists_table? (h : Adds before after path rows)
    (hfree : before.store.commitsTo path = []) (hsome : rows ≠ []) :
    ∃ schema, after.store.table? path = some (schema, rows) := by
  obtain ⟨files, hcommits, hrows⟩ := h.commitsTo path
  rw [hfree, List.nil_append] at hcommits
  rw [if_pos rfl] at hrows
  rw [Store.table?_eq, Store.firstCommit?, Store.rows_eq, hcommits, hrows]
  cases files with
  | nil => exact absurd hrows.symm hsome
  | cons first files => exact ⟨first.schema, rfl⟩

/-! ### The writer of an import -/

/-- The writer of an import that has taken rows and is open. -/
def importWriter (path : String) (schema : Schema) (newestFirst : List Row) : WriterState :=
  ⟨path, schema, newestFirst, "carbonr-cli", [], false⟩

theorem ends_writerOptions {builder : WriterBuilder} {plan : WriterPlan}
    (h : memory.Holds builder.handle (.writerBuilder plan)) (options : Options) :
    Client.Ends backend (builder.options options) memory fun result after ↦ ∃ settled,
      Settled memory.store.commits builder { plan with options := settled } result after := by
  unfold WriterBuilder.options
  induction options.entries generalizing memory plan with
  | nil => exact Client.ends_pure ⟨plan.options, rfl, h, rfl⟩
  | cons entry entries ih =>
    rw [List.foldlM_cons]
    have hset : Client.Runs backend (builder.option entry.1 entry.2) memory (.ok builder)
        ((memory.counting Operation.setWriterOption.method).put builder.handle
          (.writerBuilder { plan with options := plan.options.set entry.1 entry.2 })) :=
      runs_writerStep (@runs_writerChain _ _ _ _ _ _ _
        (fun plan ↦ { plan with options := plan.options.set entry.1 entry.2 }) h rfl rfl)
    refine ends_bind_settled (ends_settle h hset rfl) fun state hstate hcommits ↦ ?_
    rw [← hcommits]
    have hrest := ih hstate
    exact hrest

/-- A schema whose text can be read has a column. -/
theorem isEmpty_eq_false_of_read_text {read : Schema} (h : Schema.read schema.text = .ok read) :
    schema.isEmpty = false := by
  cases hempty : schema.isEmpty with
  | false => rfl
  | true =>
    have hfields : schema.fields = [] := List.isEmpty_iff.mp hempty
    unfold Schema.read at h
    rw [Schema.pairs_text, hfields] at h
    cases h

/-- The first steps of building the writer of an import: a folder, and a schema if its text can be
read. -/
theorem ends_openWriter (hrunning : memory.isShutDown = false) {read : Schema}
    (hread : Schema.read schema.text = .ok read) (path : String) (options : Options) :
    Client.Ends backend (Scenario.openWriter path schema options) memory fun result after ↦
      ∃ writer, result = .ok writer ∧ writer.closed = false ∧
        after.Holds writer.handle (.writer (importWriter path read [])) ∧
        after.commits = memory.commits := by
  have hnew : ((memory.counting Operation.newWriterBuilder.method).pin
      (.writerBuilder .empty)).Holds memory.nextHandle (.writerBuilder .empty) :=
    @holds_pin (memory.counting Operation.newWriterBuilder.method) hrunning _
  refine (runs_createWriterBuilder hrunning).bind ?_
  refine ends_bind_settled (ends_settle hnew (runs_outputPath hnew path) rfl)
    fun placed hplaced hcommits ↦ ?_
  have hschema : Client.Ends backend (WriterBuilder.schemaOf
      ⟨memory.nextHandle, some path, none, false⟩ schema) placed
      (Settled placed.store.commits ⟨memory.nextHandle, some path, some read, false⟩
        { WriterPlan.empty with path := some path, schema := some read }) := by
    unfold WriterBuilder.schemaOf
    rw [isEmpty_eq_false_of_read_text hread, if_neg Bool.false_ne_true]
    exact ends_settle hplaced (runs_schemaText hplaced hread) rfl
  refine ends_bind_settled hschema fun shaped hshaped hsame ↦ ?_
  refine Client.Ends.bind (ends_writerOptions hshaped options) ?_ ?_
  · rintro _ told ⟨settled, ⟨⟩, hsettled, hkept⟩
    refine ends_bind_settled (ends_settle hsettled (runs_writtenBy hsettled "carbonr-cli") rfl)
      fun named hnamed hlast ↦ ?_
    rw [WriterBuilder.build_eq, if_pos rfl]
    refine (@runs_finish _ _ _ (importWriter path read []) hnamed rfl).mono ?_
    rintro _ after ⟨rfl, rfl⟩
    refine ⟨_, rfl, rfl, ⟨hnamed.running, ?_⟩, ?_⟩
    · have hne : named.nextHandle ≠ memory.nextHandle :=
        Nat.ne_of_gt (lt_nextHandle_of_object? hnamed.object)
      exact (object?_vacate_of_ne (ne_zero_of_object? hnamed.object) hne).trans
        (object?_pin_new _ _)
    · exact hlast.trans (hkept.trans (hsame.trans hcommits))
  · rintro failure state ⟨settled, ⟨⟩, -⟩

/-- If the backend is shut down or the schema does not survive its text, there is no writer. -/
theorem ends_openWriter_error (h : memory.isShutDown = false →
      ∃ error, Schema.read schema.text = .error error) (path : String) (options : Options) :
    Client.Ends backend (Scenario.openWriter path schema options) memory fun result after ↦
      (∃ error, result = .error (.error error)) ∧ after.commits = memory.commits := by
  cases hrunning : memory.isShutDown with
  | true =>
    refine (runs_createWriterBuilder_shutDown hrunning).bind_error.mono ?_
    rintro _ after ⟨rfl, rfl⟩
    exact ⟨⟨_, rfl⟩, rfl⟩
  | false =>
    obtain ⟨error, hread⟩ := h hrunning
    have hnew : ((memory.counting Operation.newWriterBuilder.method).pin
        (.writerBuilder .empty)).Holds memory.nextHandle (.writerBuilder .empty) :=
      @holds_pin (memory.counting Operation.newWriterBuilder.method) hrunning _
    refine (runs_createWriterBuilder hrunning).bind ?_
    refine ends_bind_settled (ends_settle hnew (runs_outputPath hnew path) rfl)
      fun placed hplaced hcommits ↦ ?_
    have hschema : ∃ error, WriterBuilder.schemaOf
        ⟨memory.nextHandle, some path, none, false⟩ schema =
          WriterBuilder.step ⟨memory.nextHandle, some path, none, false⟩
            (Client.refuse error : Client Memory Unit) := by
      unfold WriterBuilder.schemaOf WriterBuilder.schemaText
      rw [hread]
      split
      · exact ⟨_, rfl⟩
      · exact ⟨_, rfl⟩
    obtain ⟨cause, hschema⟩ := hschema
    rw [hschema]
    refine (runs_writerStep_refuse hplaced).bind_error.mono ?_
    rintro _ after ⟨rfl, rfl⟩
    exact ⟨⟨cause, rfl⟩, hcommits⟩

/-! ### The records -/

variable {writer : Writer}

/-- Closing the writer of an import files what it has taken. -/
theorem adds_closing {handle : Nat} (hmemory : memory.commits = before.commits)
    (path : String) (schema : Schema) (taken : List Row) :
    Adds before (memory.closing handle (importWriter path schema taken)) path taken.reverse := by
  have hcommits := @commits_closing memory (importWriter path schema taken) handle
  refine ⟨_, hcommits.trans (congrArg (· ++ _) hmemory), ?_⟩
  by_cases htaken : (importWriter path schema taken).newestFirst = []
  · obtain rfl : taken = [] := htaken
    exact ⟨List.forall_mem_nil _, rfl⟩
  · rw [if_neg htaken]
    refine ⟨fun file hfile ↦ ?_, List.append_nil _⟩
    rw [List.mem_singleton.mp hfile]
    exact ⟨rfl, mt List.reverse_eq_nil_iff.mp htaken⟩

/-- So does giving it up. -/
theorem ends_dropImport (h : memory.Holds writer.handle (.writer (importWriter path schema taken)))
    (hopen : writer.closed = false) :
    Client.Ends backend writer.drop memory fun result after ↦
      result = .ok () ∧ Adds memory after path taken.reverse := by
  refine (runs_drop h rfl hopen).mono ?_
  rintro _ after ⟨rfl, rfl⟩
  exact ⟨rfl, adds_closing rfl path schema taken⟩

variable {τ : Type} {surroundings : Surroundings (StateM τ)}

/-- A record is taken if it can be read and stands for a row. -/
theorem ends_writeRecord
    (h : memory.Holds writer.handle (.writer (importWriter path schema taken)))
    (hopen : writer.closed = false) (record : Except Csv.Error (List String)) :
    Scenario.Ends backend surroundings (do
      let record ← Scenario.ofCsv record
      Scenario.act (writer.write record)) memory fun result after ↦
        after.commits = memory.commits ∧
        match record.toOption.bind schema.parsed? with
        | some row => ∃ next, result = .ok next ∧ next.closed = false ∧
            after.Holds next.handle (.writer (importWriter path schema (row :: taken)))
        | none => (∃ stop, result = .error stop) ∧
            after.Holds writer.handle (.writer (importWriter path schema taken)) := by
  cases record with
  | error error => exact Scenario.ends_refuse ⟨rfl, ⟨_, rfl⟩, h⟩
  | ok cells =>
    change Scenario.Ends backend surroundings (Scenario.act (writer.write cells)) memory
      fun result after ↦ after.commits = memory.commits ∧ match schema.parsed? cells with
        | some row => _
        | none => _
    cases hrow : schema.parsed? cells with
    | some row =>
      have hwritten : (importWriter path schema taken).schema.parsed? cells = some row := hrow
      refine Scenario.ends_act_of_runs (runs_write h rfl hopen hwritten) ?_
      exact ⟨rfl, _, rfl, hopen, (h.counting Operation.writeRecord.method).put _⟩
    | none =>
      have hrefused : (importWriter path schema taken).schema.parsed? cells = none := hrow
      obtain ⟨cause, hruns⟩ := runs_write_error h rfl hopen hrefused
      exact Scenario.ends_act_of_runs hruns ⟨rfl, ⟨_, rfl⟩, h.counting _⟩

/-- Where a record is not taken, the writer is given up before the error is handed on, and that
files what it has taken before. -/
theorem ends_writeNext
    (h : memory.Holds writer.handle (.writer (importWriter path schema taken)))
    (hopen : writer.closed = false) (record : Except Csv.Error (List String)) :
    Scenario.Ends backend surroundings (Scenario.cleaning writer.drop do
      let record ← Scenario.ofCsv record
      Scenario.act (writer.write record)) memory fun result after ↦
        match record.toOption.bind schema.parsed? with
        | some row => ∃ next, result = .ok next ∧ next.closed = false ∧
            after.commits = memory.commits ∧
            after.Holds next.handle (.writer (importWriter path schema (row :: taken)))
        | none => (∃ stop, result = .error stop) ∧ Adds memory after path taken.reverse := by
  have hwrite := @ends_writeRecord _ _ _ _ writer τ surroundings h hopen record
  cases hrow : record.toOption.bind schema.parsed? with
  | some row =>
    simp only [hrow] at hwrite
    refine hwrite.cleaning ?_ ?_
    · rintro next after ⟨hcommits, _, ⟨⟩, hnext, hholds⟩
      exact ⟨next, rfl, hnext, hcommits, hholds⟩
    · rintro stop after ⟨-, next, ⟨⟩, -⟩
  | none =>
    simp only [hrow] at hwrite
    refine hwrite.cleaning ?_ ?_
    · rintro next after ⟨-, ⟨stop, ⟨⟩⟩, -⟩
    · rintro stop state ⟨hcommits, -, hholds⟩
      refine (ends_dropImport hholds hopen).mono ?_
      rintro result after ⟨hresult, hadds⟩
      exact ⟨hresult, ⟨stop, rfl⟩, hadds.congr hcommits.symm rfl⟩

/-- What is left once records have been written: an open writer that has taken them all, or the rows
up to the first record that could not be written. -/
theorem ends_writeRecords (records : List (Except Csv.Error (List String)))
    (h : memory.Holds writer.handle (.writer (importWriter path schema taken)))
    (hopen : writer.closed = false) :
    Scenario.Ends backend surroundings (Scenario.writeRecords writer records) memory
      fun result after ↦ match result with
        | .ok next => next.closed = false ∧ after.commits = memory.commits ∧
            after.Holds next.handle
              (.writer (importWriter path schema ((schema.taken records).reverse ++ taken)))
        | .error _ => (schema.taken records).length < records.length ∧
            Adds memory after path (taken.reverse ++ schema.taken records) := by
  induction records generalizing memory writer taken with
  | nil => exact Scenario.ends_pure ⟨hopen, rfl, h⟩
  | cons record rest ih =>
    have hfirst := @ends_writeNext _ _ _ _ writer τ surroundings h hopen record
    unfold Schema.taken Scenario.writeRecords
    cases hrow : record.toOption.bind schema.parsed? with
    | some row =>
      simp only [hrow] at hfirst
      refine hfirst.bind ?_ ?_
      · rintro _ state ⟨next, ⟨⟩, hnext, hcommits, hholds⟩
        refine (ih hholds hnext).mono fun result after hafter ↦ ?_
        cases result with
        | ok last =>
          obtain ⟨hlast, hkept, hheld⟩ := hafter
          refine ⟨hlast, hkept.trans hcommits, ?_⟩
          rw [List.reverse_cons, List.append_assoc]
          exact hheld
        | error stop =>
          obtain ⟨hfewer, hadds⟩ := hafter
          rw [List.reverse_cons, List.append_assoc] at hadds
          exact ⟨Nat.succ_lt_succ hfewer, hadds.congr hcommits.symm rfl⟩
      · rintro stop state ⟨next, ⟨⟩, -⟩
    | none =>
      simp only [hrow] at hfirst
      refine hfirst.bind ?_ ?_
      · rintro next state ⟨⟨stop, ⟨⟩⟩, -⟩
      · rintro stop state ⟨-, hadds⟩
        rw [List.append_nil]
        exact ⟨Nat.succ_pos _, hadds⟩

/-! ### The whole import -/

/-- Reading the table back files nothing. -/
theorem fixes_countFrom (reader : Reader) (limit count : Nat) :
    Scenario.Fixes backend surroundings commits (Scenario.countFrom reader limit count) := by
  induction limit generalizing count with
  | zero => exact Scenario.fixes_pure count
  | succ limit ih =>
    refine (Scenario.fixes_act (filesNothing_step reader)).bind fun step ↦ ?_
    rcases step with ⟨_ | error | row, goesOn⟩
    · exact Scenario.fixes_pure count
    · exact Scenario.fixes_throw _
    · exact (Scenario.fixes_act (filesNothing_discard _)).bind fun _ ↦ ih (count + 1)

theorem fixes_readBack (path : String) (options : Options) (written : Nat) :
    Scenario.Fixes backend surroundings commits (Scenario.readBack path options written) := by
  have hopen : FilesNothing (Scenario.openReader path options) :=
    (filesNothing_forPath path none).bind fun builder ↦
      (filesNothing_options builder options).bind fun told ↦ filesNothing_build told
  refine (Scenario.fixes_act hopen).bind fun reader ↦ ?_
  refine Scenario.fixes_reading (fixes_countFrom reader _ 0) (filesNothing_closeReader reader)
    filesNothing_dropReader fun count ↦ ?_
  exact (Scenario.fixes_line _).bind fun _ ↦ Scenario.fixes_pure count

/-- Giving up a handle never fails. -/
theorem ends_discard_ok (handle : Handle) :
    Client.Ends backend (Client.discard handle) memory fun result after ↦
      result = .ok () ∧ after.commits = memory.commits := by
  refine (Client.ends_discard handle memory).mono ?_
  rintro result after ⟨hresult, rfl⟩
  exact ⟨hresult.resolve_right (release_keeps_store handle memory).2,
    commits_release handle memory⟩

/-- The writer of an import is closed, and what it has taken is filed. -/
theorem ends_closeImport
    (h : memory.Holds writer.handle (.writer (importWriter path schema taken)))
    (hopen : writer.closed = false) :
    Scenario.Ends backend surroundings
      (Scenario.cleaning writer.drop (Scenario.act writer.close)) memory fun result after ↦
        result = .ok { writer with closed := true } ∧ after.isShutDown = false ∧
          Adds memory after path taken.reverse := by
  have hclose : Scenario.Ends backend surroundings (Scenario.act writer.close) memory
      fun result after ↦ result = .ok { writer with closed := true } ∧
        after.isShutDown = false ∧ Adds memory after path taken.reverse := by
    have hclosed := (h.counting Operation.closeWriter.method).closing
    refine Scenario.ends_act_of_runs (runs_close h rfl hopen) ?_
    exact ⟨rfl, hclosed.running, adds_closing rfl path schema taken⟩
  refine hclose.cleaning (fun _ _ hafter ↦ hafter) ?_
  rintro stop after ⟨⟨⟩, -⟩

/-- However the table is read back, its rows have been filed. -/
theorem ends_finishImport
    (h : memory.Holds writer.handle (.writer (importWriter path schema taken)))
    (hopen : writer.closed = false) (options : Options) :
    Scenario.Ends backend surroundings (Scenario.finishImport writer path options) memory
      fun _ after ↦ Adds memory after path taken.reverse := by
  refine (ends_closeImport h hopen).bind ?_ ?_
  · rintro _ closed ⟨⟨⟩, -, hadds⟩
    refine (Scenario.Fixes.afterwards (fixes_readBack path options _) ?_ closed).mono ?_
    · exact filesNothing_discard writer.handle
    · exact fun _ after hafter ↦ hadds.congr rfl hafter
  · rintro stop closed ⟨⟨⟩, -⟩

/-- An import with a schema files the rows of the records up to the first one that is refused. -/
theorem ends_importRecords (hrunning : memory.isShutDown = false) {read : Schema}
    (hread : Schema.read schema.text = .ok read)
    (records : List (Except Csv.Error (List String))) (path : String) (options : Options) :
    Scenario.Ends backend surroundings (Scenario.importRecords records path schema options) memory
      fun _ after ↦ Adds memory after path (read.taken records) := by
  refine Scenario.ends_act_bind (ends_openWriter hrunning hread path options) ?_ ?_
  · rintro writer opened ⟨_, ⟨⟩, hwriter, hholds, hcommits⟩
    refine (ends_writeRecords records hholds hwriter).bind ?_ ?_
    · rintro last written ⟨hlast, hkept, hheld⟩
      refine (ends_finishImport hheld hlast options).mono fun _ after hafter ↦ ?_
      rw [List.append_nil, List.reverse_reverse] at hafter
      exact hafter.congr (hkept.trans hcommits).symm rfl
    · exact fun _ _ hrefused ↦ hrefused.2.congr hcommits.symm rfl
  · rintro failure opened ⟨writer, ⟨⟩, -⟩

/-- An import that gets no writer files nothing. -/
theorem ends_importRecords_error
    (h : memory.isShutDown = false → ∃ error, Schema.read schema.text = .error error)
    (records : List (Except Csv.Error (List String))) (path : String) (options : Options) :
    Scenario.Ends backend surroundings (Scenario.importRecords records path schema options) memory
      fun _ after ↦ after.commits = memory.commits := by
  refine Scenario.ends_act_bind (ends_openWriter_error h path options) ?_ ?_
  · rintro writer opened ⟨⟨error, ⟨⟩⟩, -⟩
  · exact fun failure opened hopened ↦ hopened.2

/-- Whatever file is imported and whatever comes of it: the table of the output folder grows by the
rows of the records in front of the first one that cannot be read or written, and no other table
changes. Nothing is added if there is no writer: if the file, its header or the schema cannot be
read, if the schema does not fit the header or does not survive its text, or if the backend is shut
down. What goes wrong after the writing takes nothing back. -/
theorem import_adds_records_before_first_refused (input : InputFile) (path : String)
    (schemaText : Option String) (options : Options) (memory : Memory) :
    Scenario.Ends backend surroundings (Scenario.importCsv input path schemaText options) memory
      fun _ after ↦ ∀ other, after.store.rows other = memory.store.rows other ++
        if memory.isShutDown = false ∧ Store.folderOf other = Store.folderOf path then
          Scenario.importedRows input schemaText
        else [] := by
  have hnothing : ∀ {after : Memory}, after.commits = memory.commits → ∀ other,
      after.store.rows other = memory.store.rows other ++
        if memory.isShutDown = false ∧ Store.folderOf other = Store.folderOf path then []
        else [] := by
    intro after hcommits other
    rw [(adds_nil hcommits path).rows_eq, ite_self, ite_self]
  rw [Scenario.importCsv_eq]
  unfold Scenario.importedRows Scenario.importSchema?
  cases Scenario.readCsv input with
  | error error => exact Scenario.ends_refuse (hnothing rfl)
  | ok table =>
    dsimp only
    cases Scenario.schemaFor table.header schemaText with
    | error error => exact Scenario.ends_refuse (hnothing rfl)
    | ok schema =>
      simp only [Except.toOption, Option.bind_eq_bind, Option.bind_some]
      by_cases hlength : schema.length = table.header.length
      · rw [if_neg (not_not.mpr hlength), if_pos hlength]
        cases hread : Schema.read schema.text with
        | error error =>
          exact (ends_importRecords_error (fun _ ↦ ⟨error, hread⟩) _ path options).mono
            fun _ _ hafter ↦ hnothing hafter
        | ok read =>
          cases hrunning : memory.isShutDown with
          | true =>
            have hshut : memory.isShutDown = false →
                ∃ error, Schema.read schema.text = .error error :=
              fun hfalse ↦ by simp [hrunning] at hfalse
            refine (ends_importRecords_error hshut _ path options).mono
              fun _ after hafter other ↦ ?_
            rw [(adds_nil hafter path).rows_eq, ite_self, if_neg (by simp)]
          | false =>
            refine (ends_importRecords hrunning hread _ path options).mono fun _ _ hadds other ↦ ?_
            simp only [true_and]
            exact hadds.rows_eq other
      · rw [if_pos hlength, if_neg hlength]
        exact Scenario.ends_refuse (hnothing rfl)

/-- An import of two records, of which the second is no number, ends with an error and leaves the
first one in the table. -/
theorem import_error_leaves_records :
    let input : InputFile := ⟨"in.csv", .ok [0x61, 0x0A, 0x31, 0x0A, 0x78, 0x0A]⟩
    let memory : Memory := ⟨.empty, #[], false⟩
    let ended := (Scenario.importCsv input "/o" (some "[\x7ba:int\x7d]") .empty).tryOut backend
      ⟨memory, .empty .debug⟩ none
    ended.1.toOption = none ∧ memory.store.rows "/o" = [] ∧
      (ended.2.1.state.store.rows "/o").map Value.cells = [["1"]] := by
  intro input memory ended
  refine ⟨?_, rfl, ?_⟩
  · decide +kernel
  · decide +kernel

end Memory

end ColumnStore
