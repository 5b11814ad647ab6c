import ColumnStore.Proofs.Memory.Lending
import ColumnStore.Proofs.Reader.Handover
import ColumnStore.Proofs.Reader.Projection
import ColumnStore.Scenario.Basic

/-!
# Opening a local table

A builder over a path is told options, and perhaps how many rows are fetched at a time, and builds a
reader of all columns. Over a local folder with a table the reader stands before all its rows, and
it is all that is left of the building; where there is no table the error names the path.
-/

set_option autoImplicit false

namespace ColumnStore.Memory

variable {memory before : Memory} {path : String} {schema : Schema} {rows rest : List Row}
  {builder : ReaderBuilder} {plan : ReaderPlan}

/-- A reader that is lent stands before its rows. -/
theorem Lends.standsBefore {after : Memory} {handle : Nat}
    (h : before.Lends handle (.reader ⟨schema, rest, false⟩) after) :
    after.StandsBefore handle schema rest :=
  ⟨h.held.running, h.held.object⟩

/-! ### The builder -/

/-- A step that changes the plan changes nothing else. -/
theorem Lends.step {name : String} {operation : Operation} {arguments : List Argument}
    {method : String} (h : before.Lends builder.handle (.readerBuilder plan) memory)
    (change : ReaderPlan → ReaderPlan) (hkind : operation.method.kind = .onObject)
    (hperform : perform operation builder.handle arguments (memory.counting operation.method) =
      changeReader builder.handle method change (memory.counting operation.method)) :
    Client.Ends backend (builder.step (builder.chain name operation arguments)) memory
      fun result after ↦ result = .ok builder ∧
        before.Lends builder.handle (.readerBuilder (change plan)) after := by
  refine (runs_changing h.held name hkind hperform).mono ?_
  rintro result after ⟨rfl, rfl⟩
  exact ⟨rfl, (h.counting operation.method).put _⟩

/-- A builder that is told options still reads all columns of its path. -/
theorem Lends.ends_readerOptions (h : before.Lends builder.handle (.readerBuilder plan) memory)
    (options : Options) :
    Client.Ends backend (builder.options options) memory fun result after ↦ ∃ settled,
      result = .ok builder ∧
        before.Lends builder.handle (.readerBuilder { plan with options := settled }) after := by
  unfold ReaderBuilder.options
  induction options.entries generalizing memory plan with
  | nil => exact Client.ends_pure ⟨plan.options, rfl, h⟩
  | cons entry entries ih =>
    rw [List.foldlM_cons]
    have hset : Client.Ends backend (builder.option entry.1 entry.2) memory fun result after ↦
        result = .ok builder ∧ before.Lends builder.handle
          (.readerBuilder { plan with options := plan.options.set entry.1 entry.2 }) after :=
      @Lends.step _ _ _ _ _ .setReaderOption [.text entry.1, .text entry.2] "withHadoopConf" h
        (fun plan ↦ { plan with options := plan.options.set entry.1 entry.2 }) rfl rfl
    refine hset.bind_of_ok ?_
    rintro _ after ⟨rfl, hafter⟩
    have hrest := ih hafter
    exact ⟨builder, rfl, hrest⟩

/-- A count of rows that can be asked for is handed over as it is. -/
theorem toInt_ofNat_batch {size : Nat} (h : 0 < size ∧ size ≤ greatestBatch) :
    (Int32.ofNat size).toInt = size ∧ 0 < Int32.ofNat size := by
  obtain ⟨hsame, -⟩ := toInt_ofNat_ordinal h.2
  have hzero : (0 : Int32).toInt = 0 := rfl
  refine ⟨hsame, ?_⟩
  rw [Int32.lt_iff_toInt_lt, hsame, hzero]
  exact Int.natCast_pos.mpr h.1

/-- A count of rows that can be asked for is settled. -/
theorem Lends.ends_batchSize (h : before.Lends builder.handle (.readerBuilder plan) memory)
    {size : Nat} (hsize : 0 < size ∧ size ≤ greatestBatch) :
    Client.Ends backend (builder.batchSize size) memory fun result after ↦
      result = .ok { builder with batch := some size } ∧ before.Lends builder.handle
        (.readerBuilder { plan with batch := some (Int32.ofNat size) }) after := by
  have hpositive : ¬ Int32.ofNat size ≤ 0 := Int32.not_le.mpr (toInt_ofNat_batch hsize).2
  unfold ReaderBuilder.batchSize
  rw [readBatch, if_pos hsize]
  have hperform : perform .setBatch builder.handle [.int (Int32.ofNat size)]
      (memory.counting Operation.setBatch.method) =
        changeReader builder.handle "withBatch"
          (fun plan ↦ { plan with batch := some (Int32.ofNat size) })
          (memory.counting Operation.setBatch.method) := if_neg hpositive
  refine (h.step _ rfl hperform).bind_of_ok ?_
  rintro _ after ⟨rfl, hafter⟩
  exact ⟨builder, rfl, Client.ends_pure ⟨rfl, hafter⟩⟩

/-- A new builder over a path that has been told options. -/
theorem ends_planReader (hrunning : memory.isShutDown = false) (path : String) (options : Options) :
    Client.Ends backend (ReaderBuilder.forPath path none >>= fun builder ↦ builder.options options)
      memory fun result after ↦ ∃ builder plan, result = .ok builder ∧ builder.path = path ∧
        plan.path = path ∧ plan.columns = none ∧
        memory.Lends builder.handle (.readerBuilder plan) after := by
  have hnew : memory.Lends memory.nextHandle
      (.readerBuilder ⟨path, defaultTable, none, .empty, none⟩)
      ((memory.counting Operation.newReaderBuilder.method).pin
        (.readerBuilder ⟨path, defaultTable, none, .empty, none⟩)) :=
    (restores_counting memory Operation.newReaderBuilder.method).lends
      (@lends_pin (memory.counting Operation.newReaderBuilder.method) hrunning _)
  refine (runs_forPath hrunning path).bind ?_
  refine (@Lends.ends_readerOptions _ memory ⟨memory.nextHandle, path, none⟩ _ hnew options).mono ?_
  rintro _ after ⟨settled, rfl, hafter⟩
  exact ⟨_, _, rfl, rfl, rfl, rfl, hafter⟩

/-! ### The reader -/

/-- A reader of all columns is built over a local folder with a table, and takes the place of its
builder. -/
theorem Lends.ends_build (h : before.Lends builder.handle (.readerBuilder plan) memory)
    (hcolumns : plan.columns = none) (hlocal : isRemote plan.path = false)
    (htable : before.store.table? plan.path = some (schema, rows)) :
    Client.Ends backend builder.build memory fun result after ↦
      ∃ reader, result = .ok reader ∧ reader.closed = false ∧
        before.Lends reader.handle (.reader ⟨schema, rows, false⟩) after := by
  have hperform := perform_buildReader (h.held.counting Operation.buildReader.method)
    (not_lacksKey_of_local hlocal) ((table?_congr h.commits_eq plan.path).trans htable)
  rw [hcolumns] at hperform
  refine (runs_build_of_opens h.held hperform).mono ?_
  rintro result after ⟨rfl, rfl⟩
  have hreceived := (h.counting Operation.buildReader.method).restores
    (restores_receiving _ plan.path plan.options.entries)
  exact ⟨_, rfl, rfl, hreceived.replace _⟩

theorem openReader_eq (path : String) (options : Options) :
    (Scenario.openReader path options : Client Memory Reader) =
      (ReaderBuilder.forPath path none >>= fun builder ↦ builder.options options) >>=
        ReaderBuilder.build := by
  rw [bind_assoc]
  rfl

/-- A local table is opened. -/
theorem ends_openReader (hrunning : memory.isShutDown = false) (hlocal : isRemote path = false)
    (htable : memory.store.table? path = some (schema, rows)) (options : Options) :
    Client.Ends backend (Scenario.openReader path options) memory fun result after ↦
      ∃ reader, result = .ok reader ∧ reader.closed = false ∧
        memory.Lends reader.handle (.reader ⟨schema, rows, false⟩) after := by
  rw [openReader_eq]
  refine (ends_planReader hrunning path options).bind_of_ok ?_
  rintro _ told ⟨builder, plan, rfl, -, rfl, hcolumns, hlent⟩
  exact ⟨builder, rfl, hlent.ends_build hcolumns hlocal htable⟩

/-- Where there is no local table, none is opened. -/
theorem ends_openReader_none (hrunning : memory.isShutDown = false)
    (hlocal : isRemote path = false) (htable : memory.store.table? path = none)
    (options : Options) :
    Client.Ends backend (Scenario.openReader path options) memory fun result _ ↦
      result = .error (.error (.build path
        ("FileNotFoundException: " ++ (path ++ " (no carbondata files found)")))) := by
  rw [openReader_eq]
  refine (ends_planReader hrunning path options).bind_of_ok ?_
  rintro _ told ⟨builder, plan, rfl, hbuilder, rfl, -, hlent⟩
  have hholds := hlent.held
  have hnone : ((told.counting Operation.buildReader.method).store.receive plan.path
      plan.options.entries).table? plan.path = none :=
    (table?_congr hlent.commits_eq _).trans htable
  have hperform : perform .buildReader builder.handle []
      (told.counting Operation.buildReader.method) =
        .failed ((told.counting Operation.buildReader.method).receiving plan.path
          plan.options.entries)
          (.fileNotFound (plan.path ++ " (no carbondata files found)")) := by
    change buildReader builder.handle _ = _
    unfold buildReader
    rw [readerBuilder_eq_ok_iff.mpr (hholds.counting _).object]
    dsimp only
    rw [hlocal, hnone]
    rfl
  refine ⟨builder, rfl, (runs_build_of_refuses hholds hperform).mono ?_⟩
  rintro _ after ⟨rfl, -⟩
  have hclass : CallError.simpleName "java.io.FileNotFoundException" ++ ": " =
      "FileNotFoundException: " := by
    decide +kernel
  rw [← hclass, hbuilder]
  rfl

end ColumnStore.Memory
