import ColumnStore.Proofs.Reader.Opening
import ColumnStore.Proofs.Scenario.Import

/-!
# Importing columns of text

Without a schema the columns of an import have the names in the header and hold text. If no name is
there twice, every record of the file is taken: each field is stored as it is, and the null marker
as null. A local table that did not exist before is then read back and its rows are counted, but
only if there is a record: without one nothing is committed, so there is no table to read back.
-/

set_option autoImplicit false

namespace ColumnStore

/-- The value of a field in a column of text. -/
def Value.ofField (field : String) : Value :=
  if field = nullMarker then .null else .string field

/-- The schema of text columns under a header. -/
def Schema.ofHeader (header : List String) : Schema :=
  ⟨header.map fun name ↦ .scalar name .string⟩

variable {header record : List String}

theorem Value.read_ofField (field : String) :
    (Value.read field .string none).toOption = some (ofField field) := by
  unfold Value.read Value.readSimple ofField
  rw [if_pos (by decide)]
  by_cases hnull : field = nullMarker
  · rw [if_pos hnull, if_pos hnull]
    rfl
  · rw [if_neg hnull, if_neg hnull]
    simp [blankIsNull, readScalar?, Except.toOption]

/-- Columns of text take every record that has a field for each of them. -/
theorem Schema.parsed?_ofHeader (h : record.length = header.length) :
    (ofHeader header).parsed? record = some (record.map Value.ofField) := by
  have hlength : record.length = (ofHeader header).length := by
    simpa [ofHeader, Schema.length] using h
  unfold parsed?
  rw [if_pos hlength, mapM_eq_some_iff]
  clear hlength
  induction record generalizing header with
  | nil => exact .nil
  | cons field record ih =>
    cases header with
    | nil => simp at h
    | cons name header =>
      exact .cons (Value.read_ofField field) (ih (Nat.succ.inj h))

theorem Schema.taken_ofHeader {records : List (List String)}
    (h : ∀ record ∈ records, record.length = header.length) :
    (ofHeader header).taken (records.map .ok) =
      records.map fun record ↦ record.map Value.ofField := by
  induction records with
  | nil => rfl
  | cons record records ih =>
    obtain ⟨hrecord, hrest⟩ := List.forall_mem_cons.mp h
    have hrow := parsed?_ofHeader hrecord
    simp only [List.map_cons, taken, Except.toOption, Option.bind_some, hrow, ih hrest]

/-- Columns of text are well formed if there is one and no two share a name. -/
theorem Schema.isWellFormed_ofHeader (hsome : header ≠ [])
    (hdistinct : header.Pairwise fun first second ↦ ¬ Text.sameIgnoringCase first second) :
    (ofHeader header).IsWellFormed := by
  refine ⟨by simpa [ofHeader] using hsome, ?_, ?_⟩
  · unfold ofHeader
    rw [List.pairwise_map]
    exact hdistinct
  · intro field hfield
    obtain ⟨name, -, rfl⟩ := List.mem_map.mp hfield
    rfl

/-- Decoding loses no field. -/
theorem Csv.length_eq_of_decodeFields {start : Position} {number : Nat}
    {fields : List (List UInt8)} (h : decodeFields start number fields = .ok record) :
    record.length = fields.length := by
  induction fields generalizing number record with
  | nil =>
    cases h
    rfl
  | cons field rest ih =>
    unfold decodeFields at h
    split at h
    · cases h
    · cases hrest : decodeFields start (number + 1) rest with
      | error error => simp [hrest, Except.map] at h
      | ok texts =>
        simp only [hrest, Except.map, Except.ok.injEq] at h
        rw [← h, List.length_cons, List.length_cons, ih hrest]

/-- A record that is read from a file has a field for each name in the header. -/
theorem CsvTable.length_eq_of_read {bytes : List UInt8} {table : CsvTable}
    (hread : CsvTable.read bytes = .ok table) (hmem : .ok record ∈ table.records) :
    record.length = table.header.length := by
  unfold CsvTable.read at hread
  split at hread
  · cases hread
    cases hmem
  · obtain ⟨names, -, h⟩ := bind_eq_ok_iff.mp hread
    cases h
    obtain ⟨raw, -, hraw⟩ := List.mem_map.mp hmem
    unfold Csv.RawRecord.textsOf at hraw
    split at hraw
    · rename_i hlength
      exact (Csv.length_eq_of_decodeFields hraw).trans hlength
    · cases hraw

namespace Memory

variable {memory : Memory} {path : String} {schema : Schema} {rows rest : List Row}
  {reader : Reader} {τ : Type} {surroundings : Surroundings (StateM τ)}

/-! ### Reading the table back -/

/-- The rows that are left are counted. -/
theorem ends_countFrom (h : memory.StandsBefore reader.handle schema rest)
    (hopen : reader.closed = false) (limit count : Nat) :
    Scenario.Ends backend surroundings (Scenario.countFrom reader limit count) memory
      fun result after ↦ result = .ok (count + min rest.length limit) ∧
        ∃ left, after.StandsBefore reader.handle schema left := by
  induction limit generalizing memory rest count with
  | zero => exact Scenario.ends_pure ⟨by simp, rest, h⟩
  | succ limit ih =>
    cases rest with
    | nil =>
      refine Scenario.ends_act_bind_of_runs (runs_step_nil h hopen) ?_
      exact Scenario.ends_pure ⟨by simp, [], h.counting _⟩
    | cons row rest =>
      have hne : memory.nextHandle ≠ reader.handle :=
        Nat.ne_of_gt (lt_nextHandle_of_object? h.object)
      refine Scenario.ends_act_bind (ends_step_cons h hopen) ?_ ?_
      · rintro _ state ⟨⟨⟩, hstands, hrow, -, -⟩
        have hheld : state.Holds memory.nextHandle (.row ⟨schema, row⟩) := ⟨hstands.running, hrow⟩
        have hzero := ne_zero_of_object? hrow
        have hleft := hstands.vacate_recounts (.refl state) hzero hne
        refine Scenario.ends_act_bind_of_runs (runs_discard hheld) ((ih hleft (count + 1)).mono ?_)
        rintro result last ⟨rfl, hlast⟩
        refine ⟨congrArg Except.ok ?_, hlast⟩
        rw [List.length_cons]
        omega
      · rintro failure state ⟨⟨⟩, -⟩

/-- What a reader stands before is counted, and the reader is closed and given up. -/
theorem ends_reading (h : memory.StandsBefore reader.handle schema rest)
    (hopen : reader.closed = false) {next : Nat → Scenario (StateM τ) Memory Nat}
    {last : Nat → Except Stop Nat → Prop}
    (hnext : ∀ count state, Scenario.Ends backend surroundings (next count) state
      fun result _ ↦ last count result) (limit : Nat) :
    Scenario.Ends backend surroundings
      (Scenario.reading reader (Scenario.countFrom reader limit 0) next) memory
      fun result _ ↦ last (min rest.length limit) result := by
  have hread : Scenario.Ends backend surroundings (do
      let count ← Scenario.countFrom reader limit 0
      pure (count, ← Scenario.act reader.close)) memory fun result _ ↦
        result = .ok (min rest.length limit, { reader with closed := true }) := by
    refine (ends_countFrom h hopen limit 0).bind ?_ ?_
    · rintro _ counted ⟨⟨⟩, left, hleft⟩
      refine Scenario.ends_act_bind_of_runs (runs_closeReader hleft hopen) ?_
      exact Scenario.ends_pure (by rw [Nat.zero_add])
    · rintro stop counted ⟨⟨⟩, -⟩
  have hcleaned : Scenario.Ends backend surroundings (Scenario.cleaning reader.drop do
      let count ← Scenario.countFrom reader limit 0
      pure (count, ← Scenario.act reader.close)) memory fun result _ ↦
        result = .ok (min rest.length limit, { reader with closed := true }) := by
    refine hread.cleaning (fun _ _ hresult ↦ hresult) ?_
    rintro stop after ⟨⟩
  refine hcleaned.bind ?_ ?_
  · rintro _ closed ⟨⟩
    refine (hnext (min rest.length limit) closed).afterwards fun result after hresult ↦ ?_
    exact (ends_discard_ok reader.handle).mono fun _ _ hdropped ↦ ⟨hdropped.1, hresult⟩
  · rintro stop closed ⟨⟩

/-- Reading a local table back counts its rows. -/
theorem ends_readBack (hrunning : memory.isShutDown = false) (hlocal : isRemote path = false)
    (htable : memory.store.table? path = some (schema, rows)) (options : Options) (written : Nat) :
    Scenario.Ends backend surroundings (Scenario.readBack path options written) memory
      fun result _ ↦ surroundings.Writes → result = .ok (min rows.length Reader.everyRow) := by
  refine Scenario.ends_act_bind (ends_openReader hrunning hlocal htable options) ?_ ?_
  · rintro reader opened ⟨_, ⟨⟩, hreader, hlent⟩
    have hnext : ∀ (count : Nat) (state : Memory), Scenario.Ends backend surroundings (do
        Scenario.line ("wrote " ++ toString written ++ " rows to " ++ path ++ ", read back "
          ++ toString count)
        pure count) state fun result _ ↦ surroundings.Writes → result = .ok count := by
      intro count state
      refine (Scenario.ends_write _).bind ?_ ?_
      · exact fun _ after _ ↦ Scenario.ends_pure fun _ ↦ rfl
      · rintro stop after ⟨-, hwritten⟩ hwrites
        cases hwritten hwrites
    exact ends_reading hlent.standsBefore hreader hnext Reader.everyRow
  · rintro failure opened ⟨reader, ⟨⟩, -⟩

/-- Where there is no local table, there is nothing to read back. -/
theorem ends_readBack_none (hrunning : memory.isShutDown = false) (hlocal : isRemote path = false)
    (htable : memory.store.table? path = none) (options : Options) (written : Nat) :
    Scenario.Ends backend surroundings (Scenario.readBack path options written) memory
      fun result _ ↦ result = .error (.error (.library (.build path
        ("FileNotFoundException: " ++ (path ++ " (no carbondata files found)"))))) := by
  refine Scenario.ends_act_bind (ends_openReader_none hrunning hlocal htable options) ?_ ?_
  · rintro reader opened ⟨⟩
  · rintro _ opened ⟨⟩
    rfl

/-! ### The whole import -/

/-- How the import of some records into a new local table ends: with their count, if it can be
written down, or, if there are none, with the error that there is no table to read. -/
def EndsImport (surroundings : Surroundings (StateM τ)) (path : String) (count : Nat)
    (result : Except Stop Nat) : Prop :=
  (count ≠ 0 → surroundings.Writes → result = .ok (min count Reader.everyRow)) ∧
    (count = 0 → result = .error (.error (.library (.build path
      ("FileNotFoundException: " ++ (path ++ " (no carbondata files found)"))))))

theorem ends_finishImport_new {writer : Writer} {taken : List Row}
    (h : memory.Holds writer.handle (.writer (importWriter path schema taken)))
    (hopen : writer.closed = false) (hlocal : isRemote path = false)
    (hfree : memory.store.commitsTo path = []) (options : Options) :
    Scenario.Ends backend surroundings (Scenario.finishImport writer path options) memory
      fun result _ ↦ EndsImport surroundings path taken.length result := by
  refine (ends_closeImport h hopen).bind ?_ ?_
  · rintro _ closed ⟨⟨⟩, hrunning, hadds⟩
    have hback : Scenario.Ends backend surroundings
        (Scenario.readBack path options writer.written) closed fun result _ ↦
          EndsImport surroundings path taken.length result := by
      by_cases htaken : taken = []
      · subst htaken
        have hnone : closed.store.table? path = none := by
          rw [table?_congr hadds.commits_eq, Store.table?_eq, Store.firstCommit?, hfree]
          rfl
        refine (ends_readBack_none hrunning hlocal hnone options writer.written).mono ?_
        exact fun result _ hresult ↦ ⟨fun hcount ↦ absurd rfl hcount, fun _ ↦ hresult⟩
      · obtain ⟨found, htable⟩ := hadds.exists_table? hfree (by simpa using htaken)
        refine (ends_readBack hrunning hlocal htable options writer.written).mono ?_
        intro result _ hresult
        rw [List.length_reverse] at hresult
        exact ⟨fun _ ↦ hresult, fun hcount ↦ absurd (List.length_eq_zero_iff.mp hcount) htaken⟩
    refine hback.afterwards fun result after hresult ↦ ?_
    exact (ends_discard_ok writer.handle).mono fun _ _ hdropped ↦ ⟨hdropped.1, hresult⟩
  · rintro stop closed ⟨⟨⟩, -⟩

/-- All records of text columns are written. -/
theorem ends_importRecords_text {header : List String} {records : List (List String)}
    (hrunning : memory.isShutDown = false) (hsome : header ≠ [])
    (hdistinct : header.Pairwise fun first second ↦ ¬ Text.sameIgnoringCase first second)
    (hlengths : ∀ record ∈ records, record.length = header.length)
    (hlocal : isRemote path = false) (hfree : memory.store.commitsTo path = [])
    (options : Options) :
    Scenario.Ends backend surroundings
      (Scenario.importRecords (records.map .ok) path (.ofHeader header) options) memory
      fun result _ ↦ EndsImport surroundings path records.length result := by
  have hread := (Schema.isWellFormed_ofHeader hsome hdistinct).read_text
  have htaken := Schema.taken_ofHeader hlengths
  refine Scenario.ends_act_bind (ends_openWriter hrunning hread path options) ?_ ?_
  · rintro writer opened ⟨_, ⟨⟩, hwriter, hholds, hcommits⟩
    refine (ends_writeRecords (records.map .ok) hholds hwriter).bind ?_ ?_
    · rintro last written ⟨hlast, hkept, hheld⟩
      have hstill : written.store.commitsTo path = [] :=
        (commitsTo_congr (hkept.trans hcommits) path).trans hfree
      have hend := @ends_finishImport_new _ _ _ τ surroundings _ _ hheld hlast hlocal hstill options
      rw [htaken, List.append_nil, List.length_reverse, List.length_map] at hend
      exact hend
    · rintro stop refused ⟨hfewer, -⟩
      rw [htaken, List.length_map, List.length_map] at hfewer
      exact absurd hfewer (Nat.lt_irrefl _)
  · rintro failure opened ⟨writer, ⟨⟩, -⟩

/-- A file whose header has a name and no name twice is imported without a schema into a local table
that does not exist yet. Every record of the file becomes a row, in order, with each field as it
stands and the null marker as null. If there is a record, the import ends with their count; if there
is none, it ends with an error, because without a record there is no table to read back. -/
theorem text_import_stores_every_record {input : InputFile} {header : List String}
    {records : List (List String)} (hrunning : memory.isShutDown = false)
    (hread : Scenario.readCsv input = .ok ⟨header, records.map .ok⟩) (hsome : header ≠ [])
    (hdistinct : header.Pairwise fun first second ↦ ¬ Text.sameIgnoringCase first second)
    (hlocal : isRemote path = false) (hfree : memory.store.commitsTo path = [])
    (options : Options) :
    Scenario.Ends backend surroundings (Scenario.importCsv input path none options) memory
      fun result after ↦
        after.store.rows path = records.map (fun record ↦ record.map Value.ofField) ∧
        (records ≠ [] → surroundings.Writes → result = .ok (min records.length Reader.everyRow)) ∧
        (records = [] → result = .error (.error (.library (.build path
          ("FileNotFoundException: " ++ (path ++ " (no carbondata files found)")))))) := by
  have hlengths : ∀ record ∈ records, record.length = header.length := by
    intro record hrecord
    unfold Scenario.readCsv at hread
    split at hread
    · exact CsvTable.length_eq_of_read hread (List.mem_map_of_mem hrecord)
    · cases hread
  have hschema := (Schema.isWellFormed_ofHeader hsome hdistinct).read_text
  have hlength : (Schema.ofHeader header).length = header.length := List.length_map _
  rw [Scenario.importCsv_eq, hread]
  dsimp only [Scenario.schemaFor]
  change Scenario.Ends backend surroundings (if (Schema.ofHeader header).length ≠ header.length
    then _ else Scenario.importRecords (records.map .ok) path (.ofHeader header) options) memory _
  rw [if_neg (not_not.mpr hlength)]
  have hadds : Scenario.Ends backend surroundings
      (Scenario.importRecords (records.map .ok) path (.ofHeader header) options) memory _ :=
    ends_importRecords hrunning hschema (records.map .ok) path options
  refine (hadds.and (ends_importRecords_text hrunning hsome hdistinct hlengths hlocal hfree
    options)).mono ?_
  rintro result after ⟨hadded, hcounted, hnone⟩
  rw [Schema.taken_ofHeader hlengths] at hadded
  refine ⟨?_, fun hrecords ↦ ?_, fun hrecords ↦ ?_⟩
  · rw [hadded.rows_eq, Store.rows_eq, hfree, if_pos rfl]
    rfl
  · exact hcounted (mt List.length_eq_zero_iff.mp hrecords)
  · exact hnone (List.length_eq_zero_iff.mpr hrecords)

/-- Two columns, and a record with a null. -/
theorem text_import_stores_every_record_on_sample :
    Scenario.readCsv ⟨"in.csv", .ok [0x61, 0x2C, 0x62, 0x0A, 0x78, 0x2C, 0x5C, 0x4E, 0x0A]⟩ =
      .ok ⟨["a", "b"], [["x", "\\N"]].map .ok⟩ ∧
    Scenario.Ends backend Sheet.endless
      (Scenario.importCsv
        ⟨"in.csv", .ok [0x61, 0x2C, 0x62, 0x0A, 0x78, 0x2C, 0x5C, 0x4E, 0x0A]⟩ "/o" none .empty)
      ⟨.empty, #[], false⟩ fun result after ↦
        after.store.rows "/o" = [[.string "x", .null]] ∧ result = .ok 1 := by
  have hread : Scenario.readCsv
      ⟨"in.csv", .ok [0x61, 0x2C, 0x62, 0x0A, 0x78, 0x2C, 0x5C, 0x4E, 0x0A]⟩ =
        .ok ⟨["a", "b"], [["x", "\\N"]].map .ok⟩ := rfl
  refine ⟨hread, ?_⟩
  refine (text_import_stores_every_record rfl hread (by decide) (by decide) (by decide) rfl
    .empty).mono ?_
  rintro result after ⟨hrows, hcounted, -⟩
  exact ⟨hrows, hcounted (by decide) Sheet.writes_endless⟩

/-- A file with a header and no records is not imported: the import ends with an error and counts
nothing. -/
theorem import_of_no_records_fails :
    let input : InputFile := ⟨"in.csv", .ok [0x61, 0x2C, 0x62, 0x0A]⟩
    let ended := (Scenario.importCsv input "/o" none .empty).tryOut backend
      ⟨⟨.empty, #[], false⟩, .empty .debug⟩ none
    ended.1 = .error (.error (.library (.build "/o"
      "FileNotFoundException: /o (no carbondata files found)"))) ∧
      ended.2.1.state.store.contains "/o" = false := by
  intro input ended
  refine ⟨?_, ?_⟩
  · decide +kernel
  · decide +kernel

end Memory

end ColumnStore
