import ColumnStore.Proofs.Client.Fixing
import ColumnStore.Proofs.Reader.Fields
import ColumnStore.Proofs.Reader.Snapshot

/-!
# Reading a whole table

A reader over a local folder is built, its rows are handed out one by one, and an accessor tells the
values of each row and the kinds of its columns before the row is given up. What is told are the
rows of the table and the kinds of the columns of its schema.
-/

set_option autoImplicit false

namespace ColumnStore

/-- The type of a column, and the type of its items if it holds arrays. -/
def Accessor.kind {σ : Type} (accessor : Accessor) (ordinal : Nat) :
    Client σ (DataType × Option DataType) := do
  let type ← accessor.type ordinal
  if type = .array then
    let element ← accessor.elementType ordinal
    pure (type, some element)
  else pure (type, none)

/-- The kinds of all columns. -/
def Accessor.kinds {σ : Type} (accessor : Accessor) :
    Client σ (List (DataType × Option DataType)) := do
  (List.range (← accessor.length)).mapM accessor.kind

/-- What an accessor tells of a row, which is given up afterwards. -/
def HeldRow.tell {σ : Type} (row : HeldRow) :
    Client σ (Row × List (DataType × Option DataType)) := do
  let values ← row.accessor.values
  let kinds ← row.accessor.kinds
  row.drop
  pure (values, kinds)

/-- Builds a reader of all columns over a folder and tells its rows, at most `limit` of them. -/
def Reader.readAll {σ : Type} (path : String) (limit : Nat) :
    Client σ (List (Row × List (DataType × Option DataType))) := do
  let builder ← ReaderBuilder.forPath path none
  let reader ← builder.build
  let told ← reader.forRows limit fun
    | .ok row => row.tell
    | .error error => Client.refuse error
  let reader ← reader.close
  reader.drop
  pure told

namespace Memory

variable {memory : Memory} {handle ordinal : Nat} {field : Field} {value : Value}
  {schema : Schema} {values : Row} {rows : List Row}

/-! ### Telling a row -/

theorem looks_kind (h : memory.Shows handle ordinal field value) :
    Looks (Accessor.kind ⟨some handle⟩ ordinal) memory (.ok field.kind) := by
  refine (looks_type h).bind fun after hafter ↦ ?_
  unfold Field.kind
  by_cases harray : field.type = .array
  · rw [if_pos harray, if_pos harray]
    exact (looks_elementType (hafter.shows h) harray).bind fun _ _ ↦ looks_pure _
  · rw [if_neg harray, if_neg harray]
    exact looks_pure _

/-- An accessor of a row that can be told tells the kinds of all columns. -/
theorem looks_kinds {told : Row} (h : memory.Holds handle (.row ⟨schema, values⟩))
    (hlength : schema.fields.length = values.length) (hretells : schema.Retells values told)
    (hwidth : values.length ≤ Accessor.greatestOrdinal) :
    Looks (Accessor.kinds ⟨some handle⟩) memory (.ok schema.kinds) := by
  refine (looks_length h hwidth).bind fun after hafter ↦ ?_
  refine looks_mapM ?_ after (.refl after)
  rw [List.forall₂_iff_get]
  refine ⟨by simp [Schema.kinds, hlength], fun ordinal hlt hkind state hstate ↦ ?_⟩
  have hvalue := List.getElem?_eq_getElem (List.length_range ▸ hlt)
  obtain ⟨field, -, hcolumn, -, -, hshows⟩ :=
    shows_of_retells ((hafter.trans hstate).holds h) hretells hwidth hvalue
  have hget : schema.kinds.get ⟨ordinal, hkind⟩ = field.kind := by
    obtain ⟨_, rfl⟩ := List.getElem?_eq_some_iff.mp hcolumn
    simp [Schema.kinds]
  rw [hget, List.get_eq_getElem, List.getElem_range]
  exact looks_kind hshows

/-- A row whose items are carried is told and given up. -/
theorem ends_tell {row : HeldRow} (h : memory.Holds row.handle (.row ⟨schema, values⟩))
    (hwell : ∀ field ∈ schema.fields, field.IsWellFormed) (hcarries : schema.CarriesItems values)
    (hwidth : values.length ≤ Accessor.greatestOrdinal) :
    Client.Ends backend row.tell memory fun result after ↦
      result = .ok (values, schema.kinds) ∧
        ∃ looked, memory.Recounts looked ∧ after = looked.vacate row.handle := by
  have hretells := hcarries.retells hwell
  refine Client.Ends.bind_of_ok (looks_values h hretells hwidth) ?_
  rintro _ state ⟨rfl, hstate⟩
  have hkinds := looks_kinds (hstate.holds h) hcarries.length_eq hretells hwidth
  refine ⟨values, rfl, Client.Ends.bind_of_ok hkinds ?_⟩
  rintro _ looked ⟨rfl, hlooked⟩
  have hall := hstate.trans hlooked
  refine ⟨schema.kinds, rfl, (runs_discard (hall.holds h)).bind ?_⟩
  exact Client.ends_pure ⟨rfl, looked, hall, rfl⟩

/-! ### Telling the rows -/

variable {client : Reader} {rest : List Row}

/-- Telling a row leaves the reader where it stands. -/
theorem StandsBefore.vacate_recounts {looked : Memory}
    (h : memory.StandsBefore handle schema rest) (hlooked : memory.Recounts looked) {row : Nat}
    (hrow : row ≠ 0) (hne : row ≠ handle) :
    (looked.vacate row).StandsBefore handle schema rest := by
  obtain ⟨calls, rfl⟩ := hlooked
  exact ⟨h.running, (object?_vacate_of_ne hrow hne.symm).trans h.object⟩

/-- The rows that are left are told in order. -/
theorem ends_collect_tell (h : memory.StandsBefore client.handle schema rest)
    (hopen : client.closed = false) (hwell : ∀ field ∈ schema.fields, field.IsWellFormed)
    (hcarries : ∀ row ∈ rest, schema.CarriesItems row)
    (hwidth : schema.length ≤ Accessor.greatestOrdinal) (limit : Nat)
    (told : List (Row × List (DataType × Option DataType))) :
    Client.Ends backend
      (client.collect (fun
        | .ok row => row.tell
        | .error error => Client.refuse error) limit told) memory fun result after ↦
          result = .ok (((rest.take limit).map fun row ↦ (row, schema.kinds)).reverse ++ told) ∧
            (∃ left, after.StandsBefore client.handle schema left) ∧
            after.commits = memory.commits := by
  induction limit generalizing memory rest told with
  | zero => exact Client.ends_pure ⟨rfl, ⟨rest, h⟩, rfl⟩
  | succ limit ih =>
    cases rest with
    | nil =>
      refine (runs_step_nil h hopen).bind (Client.ends_pure ⟨rfl, ⟨[], ?_⟩, rfl⟩)
      exact h.counting _
    | cons row rest =>
      have hrow := hcarries row List.mem_cons_self
      have hcells : row.length ≤ Accessor.greatestOrdinal := by
        rw [← hrow.length_eq]
        exact hwidth
      refine ((ends_step_cons h hopen).and (filesNothing_step client memory)).bind_of_ok ?_
      rintro _ state ⟨⟨rfl, hstands, hobject, hlt, -⟩, hstep⟩
      have hne : memory.nextHandle ≠ client.handle :=
        Nat.ne_of_gt (lt_nextHandle_of_object? h.object)
      refine ⟨_, rfl, (@ends_tell _ _ _ ⟨memory.nextHandle⟩ ⟨hstands.running, hobject⟩ hwell hrow
        hcells).bind_of_ok ?_⟩
      rintro _ after ⟨rfl, looked, hlooked, rfl⟩
      have hleft := hstands.vacate_recounts hlooked (ne_zero_of_object? hobject) hne
      have htold : (looked.vacate memory.nextHandle).commits = memory.commits := by
        obtain ⟨calls, rfl⟩ := hlooked
        exact hstep
      refine ⟨_, rfl, (ih hleft (fun row hmem ↦ hcarries row (List.mem_cons_of_mem _ hmem))
        ((row, schema.kinds) :: told)).mono ?_⟩
      rintro result after ⟨rfl, hafter, hcommits⟩
      refine ⟨?_, hafter, hcommits.trans htold⟩
      simp

/-! ### The reader -/

theorem runs_forPath (hrunning : memory.isShutDown = false) (path : String) :
    Client.Runs backend (ReaderBuilder.forPath path none) memory
      (.ok ⟨memory.nextHandle, path, none⟩)
      ((memory.counting Operation.newReaderBuilder.method).pin
        (.readerBuilder ⟨path, defaultTable, none, .empty, none⟩)) := by
  refine (runs_callStatic hrunning rfl rfl rfl).bind ?_
  refine (Client.runs_expect_ok _ _ memory.nextHandle).bind ?_
  exact (Client.runs_report _).bind (Client.runs_pure _)

/-- If the backend opens a reader over rows, the builder is given up for it. -/
theorem runs_build_of_opens {builder : ReaderBuilder} {plan : ReaderPlan}
    (h : memory.Holds builder.handle (.readerBuilder plan))
    (hperform : perform .buildReader builder.handle []
      (memory.counting Operation.buildReader.method) =
        openReader plan schema rows ((memory.counting Operation.buildReader.method).receiving
          plan.path plan.options.entries)) :
    Client.Runs backend builder.build memory
      (.ok ⟨memory.nextHandle, builder.path, builder.batch, false⟩)
      ((((memory.counting Operation.buildReader.method).receiving plan.path
        plan.options.entries).pin (.reader ⟨schema, rows, false⟩)).vacate builder.handle) := by
  have hcounted := h.counting Operation.buildReader.method
  have hcall := runs_call h.running rfl (congrArg Reply.outcome hperform)
    (congrArg Reply.state hperform)
  have hheld := (hcounted.receiving plan.path plan.options.entries).pin
    (.reader ⟨schema, rows, false⟩)
  refine Client.Runs.holding (hcall.bind ?_) (runs_discard hheld)
  refine (Client.runs_expect_ok _ _ memory.nextHandle).bind ?_
  exact (Client.runs_report _).bind (Client.runs_pure _)

/-- If the backend opens a reader over rows, the reader that is built stands before them. -/
theorem ends_build_of_opens {builder : ReaderBuilder} {plan : ReaderPlan}
    (h : memory.Holds builder.handle (.readerBuilder plan))
    (hperform : perform .buildReader builder.handle []
      (memory.counting Operation.buildReader.method) =
        openReader plan schema rows ((memory.counting Operation.buildReader.method).receiving
          plan.path plan.options.entries)) :
    Client.Ends backend builder.build memory fun result after ↦
      ∃ reader, result = .ok reader ∧ reader.closed = false ∧
        after.StandsBefore reader.handle schema rows := by
  refine (runs_build_of_opens h hperform).mono ?_
  rintro result after ⟨rfl, rfl⟩
  have hne : memory.nextHandle ≠ builder.handle :=
    Nat.ne_of_gt (lt_nextHandle_of_object? h.object)
  refine ⟨_, rfl, rfl, h.running, ?_⟩
  exact (object?_vacate_of_ne (ne_zero_of_object? h.object) hne).trans (object?_pin_new _ _)

theorem commitsTo_congr {after : Memory} (h : after.commits = memory.commits) (path : String) :
    after.store.commitsTo path = memory.store.commitsTo path :=
  congrArg (List.filter fun commit : Commit ↦ commit.folder == Store.folderOf path) h

/-- Tables are made of commits and of nothing else. -/
theorem table?_congr {after : Memory} (h : after.commits = memory.commits) (path : String) :
    after.store.table? path = memory.store.table? path := by
  rw [Store.table?_eq, Store.table?_eq, Store.firstCommit?, Store.firstCommit?, Store.rows_eq,
    Store.rows_eq, commitsTo_congr h]

/-- The build of the plan is refused for want of an access key. -/
def LacksKey (plan : ReaderPlan) : Prop :=
  isRemote plan.path = true ∧ holdsAccessKey plan.options = false

theorem not_lacksKey_of_local {plan : ReaderPlan} (h : isRemote plan.path = false) :
    ¬ LacksKey plan := by
  rintro ⟨hremote, -⟩
  rw [h] at hremote
  cases hremote

/-- What becomes of a build over a table: a reader of all columns or of the chosen ones. -/
theorem perform_buildReader {builder : ReaderBuilder} {plan : ReaderPlan}
    (h : memory.Holds builder.handle (.readerBuilder plan)) (hkey : ¬ LacksKey plan)
    (htable : memory.store.table? plan.path = some (schema, rows)) :
    perform .buildReader builder.handle [] memory =
      match plan.columns with
      | none => openReader plan schema rows (memory.receiving plan.path plan.options.entries)
      | some columns =>
        openProjected plan columns schema rows
          (memory.receiving plan.path plan.options.entries) := by
  have hstored : (memory.store.receive plan.path plan.options.entries).table? plan.path =
      some (schema, rows) := htable
  have hallowed : ¬ (isRemote plan.path && !holdsAccessKey plan.options) = true := by
    simpa [LacksKey] using hkey
  change buildReader builder.handle _ = _
  unfold buildReader
  rw [readerBuilder_eq_ok_iff.mpr h.object]
  dsimp only
  rw [if_neg hallowed, hstored]
  rfl

/-- A reader over all columns of a local folder with a table can be built. -/
theorem ends_buildReader {builder : ReaderBuilder} {plan : ReaderPlan}
    (h : memory.Holds builder.handle (.readerBuilder plan)) (hcolumns : plan.columns = none)
    (hlocal : isRemote plan.path = false)
    (htable : memory.store.table? plan.path = some (schema, rows)) :
    Client.Ends backend builder.build memory fun result after ↦
      ∃ reader, result = .ok reader ∧ reader.closed = false ∧
        after.StandsBefore reader.handle schema rows := by
  have hperform := perform_buildReader (h.counting Operation.buildReader.method)
    (not_lacksKey_of_local hlocal) htable
  rw [hcolumns] at hperform
  exact ends_build_of_opens h hperform

/-- Closing a reader that stands before rows. -/
theorem runs_closeReader (h : memory.StandsBefore client.handle schema rest)
    (hopen : client.closed = false) :
    Client.Runs backend client.close memory (.ok { client with closed := true })
      ((memory.counting Operation.closeReader.method).put client.handle
        (.reader ⟨schema, [], true⟩)) := by
  have hcounted := h.counting Operation.closeReader.method
  have hperform : perform .closeReader client.handle []
      (memory.counting Operation.closeReader.method) =
        .returned ((memory.counting Operation.closeReader.method).put client.handle
          (.reader ⟨schema, [], true⟩)) .nothing := by
    change closeReader client.handle _ = _
    unfold closeReader
    rw [reader_eq_ok_iff.mpr hcounted.object]
  have hcall := runs_call h.running rfl (congrArg Reply.outcome hperform)
    (congrArg Reply.state hperform)
  unfold Reader.close
  rw [hopen, if_neg Bool.false_ne_true]
  refine hcall.bind ((Client.runs_expect_ok _ _ ()).bind ?_)
  exact (Client.runs_report _).bind (Client.runs_pure _)

/-- A reader that stands before rows is closed and given up. -/
theorem ends_finishReader {α : Type} (h : memory.StandsBefore client.handle schema rest)
    (hopen : client.closed = false) (told : α) :
    Client.Ends backend (do
      let reader ← client.close
      reader.drop
      pure told) memory fun result after ↦
        result = .ok told ∧ after.isShutDown = false ∧ after.commits = memory.commits := by
  have hholds : memory.Holds client.handle (.reader ⟨schema, rest, false⟩) :=
    ⟨h.running, h.object⟩
  have hcounted := hholds.counting Operation.closeReader.method
  exact (runs_closeReader h hopen).bind
    ((runs_discard (hcounted.put _)).bind (Client.ends_pure ⟨rfl, h.running, rfl⟩))

/-- A reader over a local folder tells the rows of the table and the kinds of its columns, if the
columns carry the items of the rows, and files nothing. -/
theorem ends_readAll_of_items {path : String} (hrunning : memory.isShutDown = false)
    (hlocal : isRemote path = false) (htable : memory.store.table? path = some (schema, rows))
    (hwell : ∀ field ∈ schema.fields, field.IsWellFormed)
    (hcarries : ∀ row ∈ rows, schema.CarriesItems row)
    (hwidth : schema.length ≤ Accessor.greatestOrdinal) (limit : Nat) :
    Client.Ends backend (Reader.readAll path limit) memory fun result after ↦
      result = .ok ((rows.take limit).map fun row ↦ (row, schema.kinds)) ∧
        after.isShutDown = false ∧ after.commits = memory.commits := by
  have hnew : ((memory.counting Operation.newReaderBuilder.method).pin
      (.readerBuilder ⟨path, defaultTable, none, .empty, none⟩)).Holds memory.nextHandle
        (.readerBuilder ⟨path, defaultTable, none, .empty, none⟩) :=
    @holds_pin (memory.counting Operation.newReaderBuilder.method) hrunning _
  have hbuild := @ends_buildReader _ schema rows ⟨memory.nextHandle, path, none⟩ _ hnew rfl hlocal
    htable
  refine (runs_forPath hrunning path).bind ?_
  refine (hbuild.and (filesNothing_build _ _)).bind_of_ok ?_
  rintro _ state ⟨⟨reader, rfl, hopen, hstands⟩, hbuilt⟩
  have htold : Client.Ends backend (reader.forRows limit fun
      | .ok row => row.tell
      | .error error => Client.refuse error) state fun result after ↦
        result = .ok ((rows.take limit).map fun row ↦ (row, schema.kinds)) ∧
          (∃ left, after.StandsBefore reader.handle schema left) ∧
          after.commits = state.commits := by
    refine (ends_collect_tell hstands hopen hwell hcarries hwidth limit []).bind_of_ok ?_
    rintro _ after ⟨rfl, hleft⟩
    exact ⟨_, rfl, Client.ends_pure ⟨by simp, hleft⟩⟩
  refine ⟨reader, rfl, htold.bind_of_ok ?_⟩
  rintro _ after ⟨rfl, ⟨left, hleft⟩, hcommits⟩
  refine ⟨_, rfl, (ends_finishReader hleft hopen _).mono ?_⟩
  rintro result last ⟨rfl, hlast, hfinished⟩
  exact ⟨rfl, hlast, hfinished.trans (hcommits.trans hbuilt)⟩

/-- A reader over a local folder tells the rows of the table and the kinds of its columns, if the
columns carry the rows. -/
theorem ends_readAll {path : String} (hrunning : memory.isShutDown = false)
    (hlocal : isRemote path = false) (htable : memory.store.table? path = some (schema, rows))
    (hwell : ∀ field ∈ schema.fields, field.IsWellFormed)
    (hcarries : ∀ row ∈ rows, schema.Carries row)
    (hwidth : schema.length ≤ Accessor.greatestOrdinal) (limit : Nat) :
    Client.Ends backend (Reader.readAll path limit) memory fun result _ ↦
      result = .ok ((rows.take limit).map fun row ↦ (row, schema.kinds)) :=
  (ends_readAll_of_items hrunning hlocal htable hwell
    (fun row hrow ↦ (hcarries row hrow).carriesItems) hwidth limit).mono fun _ _ h ↦ h.1

end Memory

end ColumnStore
