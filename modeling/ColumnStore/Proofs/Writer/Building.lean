import ColumnStore.Console.Command
import ColumnStore.Proofs.Memory.Client
import ColumnStore.Proofs.Traversal

/-!
# Building writers

A `WriterBuilder` says which folder and which schema the writer will have, and so does the plan that
the backend keeps behind its handle. Every step of building keeps the two in step, and a step that
fails gives the plan up. Nothing that was there before is touched on the way.
-/

set_option autoImplicit false

namespace ColumnStore

/-- A plan says what its builder says, and has the given sort columns. -/
structure WriterBuilder.Describes (builder : WriterBuilder) (sortColumns : List String)
    (plan : WriterPlan) : Prop where
  path : plan.path = builder.path
  schema : plan.schema = builder.schema
  sortColumns : plan.sortColumns = sortColumns

/-- The sort columns once a step has been taken; the last choice counts. -/
def WriterStep.sortColumns (columns : List String) : WriterStep → List String
  | .sortBy chosen => chosen
  | _ => columns

/-- What is left of building once the writing application has a name. -/
def WriterBuilder.finish {σ : Type} (builder : WriterBuilder) : Client σ Writer :=
  Client.holding builder.handle do
    let returned ← Client.call builder.handle .buildWriter []
    let handle ← Client.expect "build" (.build (builder.path.getD ""))
      (returned.bind (Returned.toObject Operation.buildWriter.method))
    Client.report ⟨.info, "writer built", [("path", builder.path.getD "")]⟩
    pure ⟨handle, builder.path.getD "", builder.schema, 0, false⟩

theorem WriterBuilder.build_eq {σ : Type} (builder : WriterBuilder) :
    (builder.build : Client σ Writer) =
      if builder.named then builder.finish else builder.writtenBy defaultName >>= finish := by
  unfold build
  cases builder.named <;> rfl

/-- Builds a writer with the given steps. -/
def Writer.building {σ : Type} (steps : List WriterStep) : Client σ Writer := do
  let builder ← WriterBuilder.create
  let builder ← steps.foldlM WriterStep.take builder
  builder.build

/-- A writer says what the backend keeps behind its handle: the folder, the schema, and whether it
is closed. -/
structure Writer.Describes (writer : Writer) (state : WriterState) : Prop where
  path : state.path = writer.path
  schema : writer.schema = some state.schema
  closed : state.closed = writer.closed

namespace Memory

variable {memory before after : Memory} {base : Nat} {builder : WriterBuilder}
  {columns : List String} {plan : WriterPlan} {operation : Operation} {arguments : List Argument}

/-- The backend holds a plan behind a builder, and the plan fits. -/
def Plans (memory : Memory) (builder : WriterBuilder) (columns : List String) : Prop :=
  ∃ plan, memory.Holds builder.handle (.writerBuilder plan) ∧ builder.Describes columns plan

/-- What a step of building leaves: older objects and the commits as they were, and a plan that fits
if the step gives back a builder. -/
def LeavesBuilder (base : Nat) (before : Memory) (columns : List String)
    (result : Except Failure WriterBuilder) (after : Memory) : Prop :=
  Keeps base before after ∧
    ∀ builder, result = .ok builder → base ≤ builder.handle ∧ after.Plans builder columns

/-! ### Single steps -/

/-- A method that changes the plan behind a builder. -/
theorem runs_writerChain {label name : String} {change : WriterPlan → WriterPlan}
    (h : memory.Holds builder.handle (.writerBuilder plan))
    (hkind : operation.method.kind = .onObject)
    (hperform : perform operation builder.handle arguments (memory.counting operation.method) =
      changeWriter builder.handle name change (memory.counting operation.method)) :
    Client.Runs backend (builder.chain label operation arguments) memory (.ok ())
      ((memory.counting operation.method).put builder.handle (.writerBuilder (change plan))) := by
  have hcounted := (h.counting operation.method).object
  rw [changeWriter, writerBuilder_eq_ok_iff.mpr hcounted] at hperform
  exact (runs_chain h.running hkind hperform).bind (Client.runs_expect_ok _ _ _)

/-- A step that succeeds gives back the builder. -/
theorem runs_writerStep {action : Client Memory Unit}
    (h : Client.Runs backend action before (.ok ()) after) :
    Client.Runs backend (builder.step action) before (.ok builder) after :=
  h.cleaning.bind (Client.runs_pure builder)

/-- A step that is refused gives the plan up. -/
theorem runs_writerStep_refuse {error : Error}
    (h : memory.Holds builder.handle (.writerBuilder plan)) :
    Client.Runs backend (builder.step (Client.refuse error)) memory (.error (.error error))
      (memory.vacate builder.handle) :=
  ((Client.runs_refuse error).cleaning_error (runs_discard h)).bind_error

theorem runs_outputPath (h : memory.Holds builder.handle (.writerBuilder plan)) (path : String) :
    Client.Runs backend (builder.outputPath path) memory (.ok { builder with path := some path })
      ((memory.counting Operation.setOutputPath.method).put builder.handle
        (.writerBuilder { plan with path := some path })) :=
  (runs_writerStep (runs_writerChain h rfl rfl)).bind (Client.runs_pure _)

theorem runs_schemaText {text : String} {schema : Schema}
    (h : memory.Holds builder.handle (.writerBuilder plan))
    (hread : Schema.read text = .ok schema) :
    Client.Runs backend (builder.schemaText text) memory
      (.ok { builder with schema := some schema })
      ((memory.counting Operation.setCsvSchema.method).put builder.handle
        (.writerBuilder { plan with schema := some schema })) := by
  have hperform : perform .setCsvSchema builder.handle [.text text]
      (memory.counting Operation.setCsvSchema.method) =
        changeWriter builder.handle "withCsvInput"
          (fun plan ↦ { plan with schema := some schema })
          (memory.counting Operation.setCsvSchema.method) := by
    change setCsvSchema builder.handle [.text text] _ = _
    have hargument : Argument.textAt [.text text] 0 "withCsvInput" = .ok text := rfl
    simp only [setCsvSchema, hargument, hread]
  unfold WriterBuilder.schemaText
  rw [hread]
  exact (runs_writerStep (runs_writerChain h rfl hperform)).bind (Client.runs_pure _)

theorem runs_writtenBy (h : memory.Holds builder.handle (.writerBuilder plan)) (name : String) :
    Client.Runs backend (builder.writtenBy name) memory (.ok { builder with named := true })
      ((memory.counting Operation.setWrittenBy.method).put builder.handle
        (.writerBuilder { plan with writtenBy := some name })) :=
  (runs_writerStep (runs_writerChain h rfl rfl)).bind (Client.runs_pure _)

/-- A size that the builder lets through is one that the backend accepts. -/
theorem toInt_ofNat_of_le {size : Nat} (h : size ≤ WriterBuilder.greatestBlocklet) :
    (Int32.ofNat size).toInt = size :=
  Int32.toInt_ofNat_of_lt (Nat.lt_succ_of_le h)

theorem perform_setBlockSize {size : Nat} (hlow : 1 ≤ size) (hhigh : size ≤ 2048)
    (handle : Handle) (memory : Memory) :
    perform .setBlockSize handle [.int (Int32.ofNat size)] memory =
      changeWriter handle "withBlockSize"
        (fun plan ↦ { plan with blockSize := some (Int32.ofNat size) }) memory := by
  have hsize : (Int32.ofNat size).toInt = size :=
    toInt_ofNat_of_le (Nat.le_trans hhigh (by decide))
  have hone : (1 : Int32).toInt = 1 := rfl
  have hmost : (2048 : Int32).toInt = 2048 := rfl
  have hin : ¬ (Int32.ofNat size < 1 ∨ (2048 : Int32) < Int32.ofNat size) := by
    rw [Int32.lt_iff_toInt_lt, Int32.lt_iff_toInt_lt, hsize, hone, hmost]
    omega
  exact if_neg hin

theorem perform_setBlockletSize {size : Nat} (hlow : 0 < size)
    (hhigh : size ≤ WriterBuilder.greatestBlocklet) (handle : Handle) (memory : Memory) :
    perform .setBlockletSize handle [.int (Int32.ofNat size)] memory =
      changeWriter handle "withBlockletSize"
        (fun plan ↦ { plan with blockletSize := some (Int32.ofNat size) }) memory := by
  have hzero : (0 : Int32).toInt = 0 := rfl
  have hin : ¬ Int32.ofNat size ≤ 0 := by
    rw [Int32.le_iff_toInt_le, toInt_ofNat_of_le hhigh, hzero]
    omega
  exact if_neg hin

/-! ### Steps one after the other -/

/-- A step that changes the plan keeps it fitting if the change fits the builder it gives back. -/
theorem ends_settled {action : Client Memory WriterBuilder} {result : WriterBuilder}
    {more : List String} {change : WriterPlan → WriterPlan} {method : Method}
    (hplans : memory.Plans builder columns) (hle : base ≤ builder.handle)
    (hrun : ∀ plan, memory.Holds builder.handle (.writerBuilder plan) →
      Client.Runs backend action memory (.ok result)
        ((memory.counting method).put builder.handle (.writerBuilder (change plan))))
    (hhandle : result.handle = builder.handle)
    (hchange : ∀ plan, builder.Describes columns plan → result.Describes more (change plan)) :
    Client.Ends backend action memory (LeavesBuilder base memory more) := by
  obtain ⟨plan, hholds, hdescribes⟩ := hplans
  refine (hrun plan hholds).mono ?_
  rintro ended after ⟨rfl, rfl⟩
  refine ⟨((Keeps.refl base memory).counting method).put hle _, ?_⟩
  rintro _ ⟨⟩
  refine ⟨hhandle ▸ hle, change plan, ?_, hchange plan hdescribes⟩
  rw [hhandle]
  exact (hholds.counting method).put _

theorem ends_refused {error : Error} {more : List String} (hplans : memory.Plans builder columns)
    (hle : base ≤ builder.handle) :
    Client.Ends backend (builder.step (Client.refuse error)) memory
      (LeavesBuilder base memory more) := by
  obtain ⟨plan, hholds, -⟩ := hplans
  refine (runs_writerStep_refuse hholds).mono ?_
  rintro ended after ⟨rfl, rfl⟩
  exact ⟨(Keeps.refl base memory).vacate hle, nofun⟩

theorem ends_bind_leaves {α : Type} {action : Client Memory WriterBuilder}
    {next : WriterBuilder → Client Memory α} (last : Memory → Except Failure α → Memory → Prop)
    (h : Client.Ends backend action before (LeavesBuilder base before columns))
    (hnext : ∀ builder state, base ≤ builder.handle → state.Plans builder columns →
      Client.Ends backend (next builder) state (last state))
    (hlast : ∀ {state result after}, Keeps base before state → last state result after →
      last before result after)
    (herror : ∀ {failure state}, Keeps base before state → last before (.error failure) state) :
    Client.Ends backend (action >>= next) before (last before) := by
  refine Client.Ends.bind h ?_ ?_
  · rintro builder state ⟨hkeeps, hbuilder⟩
    obtain ⟨hle, hplans⟩ := hbuilder builder rfl
    exact (hnext builder state hle hplans).mono fun _ _ ↦ hlast hkeeps
  · rintro failure state ⟨hkeeps, -⟩
    exact herror hkeeps

theorem LeavesBuilder.of_keeps {state : Memory} {result : Except Failure WriterBuilder}
    (hkeeps : Keeps base before state) (h : LeavesBuilder base state columns result after) :
    LeavesBuilder base before columns result after :=
  ⟨hkeeps.trans h.1, h.2⟩

theorem leavesBuilder_error {failure : Failure} (hkeeps : Keeps base before after) :
    LeavesBuilder base before columns (.error failure) after :=
  ⟨hkeeps, nofun⟩

theorem ends_schemaText (hplans : memory.Plans builder columns) (hle : base ≤ builder.handle)
    (text : String) :
    Client.Ends backend (builder.schemaText text) memory (LeavesBuilder base memory columns) := by
  cases hread : Schema.read text with
  | error error =>
    unfold WriterBuilder.schemaText
    rw [hread]
    exact ends_refused hplans hle
  | ok schema =>
    exact ends_settled hplans hle (fun _ hholds ↦ runs_schemaText hholds hread) rfl
      fun _ h ↦ ⟨h.path, rfl, h.sortColumns⟩

theorem ends_option (hplans : memory.Plans builder columns) (hle : base ≤ builder.handle)
    (key value : String) :
    Client.Ends backend (builder.option key value) memory (LeavesBuilder base memory columns) :=
  ends_settled hplans hle (fun _ hholds ↦ runs_writerStep (runs_writerChain hholds rfl rfl)) rfl
    fun _ h ↦ ⟨h.path, h.schema, h.sortColumns⟩

theorem ends_options (hplans : memory.Plans builder columns) (hle : base ≤ builder.handle)
    (options : Options) :
    Client.Ends backend (builder.options options) memory (LeavesBuilder base memory columns) := by
  unfold WriterBuilder.options
  induction options.entries generalizing builder memory with
  | nil =>
    refine Client.ends_pure ⟨Keeps.refl base memory, ?_⟩
    rintro _ ⟨⟩
    exact ⟨hle, hplans⟩
  | cons entry entries ih =>
    rw [List.foldlM_cons]
    exact ends_bind_leaves (fun before ↦ LeavesBuilder base before columns)
      (ends_option hplans hle entry.1 entry.2) (fun _ _ hle hplans ↦ ih hplans hle)
      LeavesBuilder.of_keeps leavesBuilder_error

/-- Every step of building keeps the plan and its builder in step. -/
theorem ends_take (hplans : memory.Plans builder columns) (hle : base ≤ builder.handle)
    (step : WriterStep) :
    Client.Ends backend (step.take builder) memory
      (LeavesBuilder base memory (step.sortColumns columns)) := by
  cases step with
  | outputPath path =>
    exact ends_settled hplans hle (fun _ hholds ↦ runs_outputPath hholds path) rfl
      fun _ h ↦ ⟨rfl, h.schema, h.sortColumns⟩
  | schemaText text => exact ends_schemaText hplans hle text
  | schema fields =>
    change Client.Ends backend (if fields.isEmpty then _ else _) memory _
    split
    · exact ends_refused hplans hle
    · exact ends_schemaText hplans hle _
  | option key value => exact ends_option hplans hle key value
  | options entries => exact ends_options hplans hle entries
  | writtenBy name =>
    exact ends_settled hplans hle (fun _ hholds ↦ runs_writtenBy hholds name) rfl
      fun _ h ↦ ⟨h.path, h.schema, h.sortColumns⟩
  | sortBy chosen =>
    exact ends_settled hplans hle
      (fun _ hholds ↦ runs_writerStep (runs_writerChain hholds rfl rfl)) rfl
      fun _ h ↦ ⟨h.path, h.schema, rfl⟩
  | blockSize size =>
    change Client.Ends backend (builder.step (if 1 ≤ size ∧ size ≤ 2048 then _ else _)) memory _
    split
    · rename_i hsize
      exact ends_settled hplans hle
        (fun _ hholds ↦ runs_writerStep (runs_writerChain hholds rfl
          (perform_setBlockSize hsize.1 hsize.2 _ _))) rfl
        fun _ h ↦ ⟨h.path, h.schema, h.sortColumns⟩
    · exact ends_refused hplans hle
  | blockletSize size =>
    change Client.Ends backend
      (builder.step (if 0 < size ∧ size ≤ WriterBuilder.greatestBlocklet then _ else _)) memory _
    split
    · rename_i hsize
      exact ends_settled hplans hle
        (fun _ hholds ↦ runs_writerStep (runs_writerChain hholds rfl
          (perform_setBlockletSize hsize.1 hsize.2 _ _))) rfl
        fun _ h ↦ ⟨h.path, h.schema, h.sortColumns⟩
    · exact ends_refused hplans hle
  | uniqueIdentifier identifier =>
    exact ends_settled hplans hle
      (fun _ hholds ↦ runs_writerStep (runs_writerChain hholds rfl rfl)) rfl
      fun _ h ↦ ⟨h.path, h.schema, h.sortColumns⟩

/-- Steps one after the other keep the plan and its builder in step. -/
theorem ends_takeAll (hplans : memory.Plans builder columns) (hle : base ≤ builder.handle)
    (steps : List WriterStep) :
    Client.Ends backend (steps.foldlM WriterStep.take builder) memory
      (LeavesBuilder base memory (steps.foldl WriterStep.sortColumns columns)) := by
  induction steps generalizing builder memory columns with
  | nil =>
    refine Client.ends_pure ⟨Keeps.refl base memory, ?_⟩
    rintro _ ⟨⟩
    exact ⟨hle, hplans⟩
  | cons step steps ih =>
    rw [List.foldlM_cons]
    exact ends_bind_leaves
      (fun before ↦ LeavesBuilder base before
        (steps.foldl WriterStep.sortColumns (step.sortColumns columns)))
      (ends_take hplans hle step) (fun _ _ hle hplans ↦ ih hplans hle)
      LeavesBuilder.of_keeps leavesBuilder_error

/-- A new builder has an empty plan behind a new handle. -/
theorem runs_createWriterBuilder (hrunning : memory.isShutDown = false) :
    Client.Runs backend WriterBuilder.create memory
      (.ok ⟨memory.nextHandle, none, none, false⟩)
      ((memory.counting Operation.newWriterBuilder.method).pin (.writerBuilder .empty)) := by
  refine (runs_callStatic hrunning rfl rfl rfl).bind ?_
  exact (Client.runs_expect_ok "CarbonWriter.builder" .other memory.nextHandle).bind
    (Client.runs_pure _)

/-! ### The writer -/

/-- Finishing a plan that describes a writer keeps the writer and gives the plan up. -/
theorem runs_finish {state : WriterState}
    (h : memory.Holds builder.handle (.writerBuilder plan)) (hplanned : planned plan = .ok state) :
    Client.Runs backend builder.finish memory
      (.ok ⟨memory.nextHandle, builder.path.getD "", builder.schema, 0, false⟩)
      ((((memory.counting Operation.buildWriter.method).receiving state.path
        plan.options.entries).pin (.writer state)).vacate builder.handle) := by
  have hcounted := h.counting Operation.buildWriter.method
  have hperform : perform .buildWriter builder.handle []
      (memory.counting Operation.buildWriter.method) =
        (((memory.counting Operation.buildWriter.method).receiving state.path
          plan.options.entries).returnNew (.writer state)).reporting (writerBuilt plan state) := by
    change buildWriter builder.handle _ = _
    unfold buildWriter
    rw [writerBuilder_eq_ok_iff.mpr hcounted.object]
    dsimp only
    rw [hplanned]
    rfl
  have hcall := runs_call h.running rfl (congrArg Reply.outcome hperform)
    (congrArg Reply.state hperform)
  have hheld := (hcounted.receiving state.path plan.options.entries).pin (.writer state)
  refine Client.Runs.holding (hcall.bind ?_) (runs_discard hheld)
  refine (Client.runs_expect_ok _ _ memory.nextHandle).bind ?_
  exact (Client.runs_report _).bind (Client.runs_pure _)

/-- Finishing a plan that lacks something gives the plan up. -/
theorem runs_finish_error {error : CallError}
    (h : memory.Holds builder.handle (.writerBuilder plan))
    (hplanned : planned plan = .error error) :
    Client.Runs backend builder.finish memory
      (.error (.error (.ofCall "build" (.build (builder.path.getD "")) error)))
      ((memory.counting Operation.buildWriter.method).vacate builder.handle) := by
  have hcounted := h.counting Operation.buildWriter.method
  have hperform : perform .buildWriter builder.handle []
      (memory.counting Operation.buildWriter.method) =
        .failed (memory.counting Operation.buildWriter.method) error := by
    change buildWriter builder.handle _ = _
    unfold buildWriter
    rw [writerBuilder_eq_ok_iff.mpr hcounted.object]
    dsimp only
    rw [hplanned]
  have hcall := runs_call h.running rfl (congrArg Reply.outcome hperform)
    (congrArg Reply.state hperform)
  exact Client.Runs.holding_error (hcall.bind (Client.runs_expect_error _ _ error).bind_error)
    (runs_discard hcounted)

/-- What building leaves: older objects and the commits as they were, and a fitting writer without
records if there is one. -/
def LeavesWriter (base : Nat) (before : Memory) (columns : List String)
    (result : Except Failure Writer) (after : Memory) : Prop :=
  Keeps base before after ∧ ∀ writer, result = .ok writer →
    base ≤ writer.handle ∧ writer.closed = false ∧ writer.written = 0 ∧
      ∃ state, after.Holds writer.handle (.writer state) ∧ writer.Describes state ∧
        state.newestFirst = [] ∧ (state.sortPositions = [] ↔ columns = [])

theorem LeavesWriter.of_keeps {state : Memory} {result : Except Failure Writer}
    (hkeeps : Keeps base before state) (h : LeavesWriter base state columns result after) :
    LeavesWriter base before columns result after :=
  ⟨hkeeps.trans h.1, h.2⟩

theorem leavesWriter_error {failure : Failure} (hkeeps : Keeps base before after) :
    LeavesWriter base before columns (.error failure) after :=
  ⟨hkeeps, nofun⟩

/-- A new writer has the folder and the schema of its plan, and no records. -/
theorem planned_eq_ok {state : WriterState} (h : planned plan = .ok state) :
    plan.path = some state.path ∧ plan.schema = some state.schema ∧ state.newestFirst = [] ∧
      state.closed = false ∧
      plan.sortColumns.mapM (sortPosition state.schema) = .ok state.sortPositions := by
  unfold planned at h
  cases hpath : plan.path with
  | none => simp [hpath] at h
  | some path =>
    cases hschema : plan.schema with
    | none => simp [hpath, hschema] at h
    | some schema =>
      cases hname : plan.writtenBy.filter fun name ↦ !Text.isAllBlank name with
      | none => simp [hpath, hschema, hname] at h
      | some name =>
        cases hpositions : plan.sortColumns.mapM (sortPosition schema) with
        | error error => simp [hpath, hschema, hname, hpositions, Except.map] at h
        | ok positions =>
          simp only [hpath, hschema, hname, hpositions, Except.map, Except.ok.injEq] at h
          subst h
          exact ⟨rfl, rfl, rfl, rfl, hpositions⟩

theorem ends_finish (hplans : memory.Plans builder columns) (hle : base ≤ builder.handle) :
    Client.Ends backend builder.finish memory (LeavesWriter base memory columns) := by
  obtain ⟨plan, hholds, hdescribes⟩ := hplans
  have hlt := lt_nextHandle_of_object? hholds.object
  have hkeeps := (Keeps.refl base memory).counting Operation.buildWriter.method
  cases hplanned : planned plan with
  | error error =>
    refine (runs_finish_error hholds hplanned).mono ?_
    rintro result after ⟨rfl, rfl⟩
    exact leavesWriter_error (hkeeps.vacate hle)
  | ok state =>
    obtain ⟨hpath, hschema, hrecords, hopen, hpositions⟩ := planned_eq_ok hplanned
    refine (runs_finish hholds hplanned).mono ?_
    rintro result after ⟨rfl, rfl⟩
    have hnext : base ≤ memory.nextHandle := by omega
    refine ⟨((hkeeps.receiving _ _).pin hnext _).vacate hle, ?_⟩
    rintro writer ⟨⟩
    refine ⟨hnext, rfl, rfl, state, ⟨hholds.running, ?_⟩, ⟨?_, ?_, hopen⟩, hrecords, ?_⟩
    · have hne : memory.nextHandle ≠ builder.handle := Nat.ne_of_gt hlt
      rw [object?_vacate_of_ne (ne_zero_of_object? hholds.object) hne]
      exact object?_pin_new _ _
    · rw [← hdescribes.path, hpath, Option.getD_some]
    · rw [← hdescribes.schema, hschema]
    · rw [← hdescribes.sortColumns, ← List.length_eq_zero_iff, ← List.length_eq_zero_iff,
        (mapM_eq_ok_iff.mp hpositions).length_eq]

/-- Building a writer from its builder. -/
theorem ends_build (hplans : memory.Plans builder columns) (hle : base ≤ builder.handle) :
    Client.Ends backend builder.build memory (LeavesWriter base memory columns) := by
  rw [WriterBuilder.build_eq]
  split
  · exact ends_finish hplans hle
  · have hnamed := ends_take hplans hle (.writtenBy WriterBuilder.defaultName)
    exact ends_bind_leaves (fun before ↦ LeavesWriter base before columns) hnamed
      (fun _ _ hle hplans ↦ ends_finish hplans hle) LeavesWriter.of_keeps leavesWriter_error

/-- A backend that has been shut down makes no builder. -/
theorem runs_createWriterBuilder_shutDown (hshut : memory.isShutDown = true) :
    Client.Runs backend WriterBuilder.create memory
      (.error (.error (.ofCall "CarbonWriter.builder" .other .shutDown))) memory := by
  have hcall : backend.callStatic Operation.newWriterBuilder.method [] memory =
      .failed memory .shutDown := if_pos hshut
  have houtcome := congrArg Reply.outcome hcall
  refine (Client.runs_callStatic houtcome (congrArg Reply.state hcall)).bind ?_
  exact (Client.runs_expect_error "CarbonWriter.builder" .other .shutDown).bind_error

theorem ends_createWriterBuilder (memory : Memory) :
    Client.Ends backend WriterBuilder.create memory
      (LeavesBuilder memory.nextHandle memory []) := by
  have hkeeps := Keeps.refl memory.nextHandle memory
  cases hrunning : memory.isShutDown with
  | true =>
    refine (runs_createWriterBuilder_shutDown hrunning).mono ?_
    rintro result after ⟨rfl, rfl⟩
    exact leavesBuilder_error hkeeps
  | false =>
    refine (runs_createWriterBuilder hrunning).mono ?_
    rintro result after ⟨rfl, rfl⟩
    have hcounted : (memory.counting Operation.newWriterBuilder.method).isShutDown = false :=
      hrunning
    refine ⟨(hkeeps.counting _).pin (Nat.le_refl _) _, ?_⟩
    rintro builder ⟨⟩
    exact ⟨Nat.le_refl _, .empty, holds_pin hcounted _, rfl, rfl, rfl⟩

/-- Building a writer with any steps touches nothing that was there before. -/
theorem ends_building (steps : List WriterStep) (memory : Memory) :
    Client.Ends backend (Writer.building steps) memory
      (LeavesWriter memory.nextHandle memory (steps.foldl WriterStep.sortColumns [])) := by
  let base := memory.nextHandle
  refine ends_bind_leaves
    (fun before ↦ LeavesWriter base before (steps.foldl WriterStep.sortColumns []))
    (ends_createWriterBuilder memory) ?_ LeavesWriter.of_keeps leavesWriter_error
  intro builder state hle hplans
  exact ends_bind_leaves
    (fun before ↦ LeavesWriter base before (steps.foldl WriterStep.sortColumns []))
    (ends_takeAll hplans hle steps) (fun _ _ hle hplans ↦ ends_build hplans hle)
    LeavesWriter.of_keeps leavesWriter_error

end Memory

end ColumnStore
