import ColumnStore.Proofs.Reader.Alike
import ColumnStore.Proofs.Reader.Telling

/-!
# Projections select columns

A reader of chosen columns takes its schema from one traversal of the column names, which fails at a
name that no column has, and its rows from another one, which passes such names over. Where the
first traversal succeeds the second one passes nothing over, so both choose the same columns: the
row that is handed out shows at each ordinal what the whole row shows in the first column of that
name.
-/

set_option autoImplicit false

namespace ColumnStore

namespace Schema

variable {schema : Schema} {columns : List String} {column : String} {position : Nat}

/-- Every name is, up to the case of ASCII letters, the name of a column. -/
def Knows (schema : Schema) (columns : List String) : Prop :=
  ∀ column ∈ columns, ∃ field ∈ schema.fields, Text.sameIgnoringCase field.name column

/-- The first column of a name, up to the case of ASCII letters, and where it is. -/
structure FirstNamed (schema : Schema) (column : String) (position : Nat) (field : Field) :
    Prop where
  found : schema.field? position = some field
  named : Text.sameIgnoringCase field.name column
  first : ∀ earlier < position, ∀ passed, schema.field? earlier = some passed →
    ¬ Text.sameIgnoringCase passed.name column

/-- The position of a name is that of the first column with it. -/
theorem firstNamed_of_indexOf? (h : schema.indexOf? column = some position) :
    ∃ field, schema.FirstNamed column position field := by
  obtain ⟨hlt, hnamed, hpassed⟩ := List.findIdx?_eq_some_iff_getElem.mp h
  refine ⟨schema.fields[position], List.getElem?_eq_getElem hlt, hnamed, ?_⟩
  intro earlier hearlier passed hfound
  obtain ⟨_, hget⟩ := List.getElem?_eq_some_iff.mp hfound
  rw [← hget]
  exact hpassed earlier hearlier

/-- Either all names are known and found, or there is one that is not and the projection fails. -/
theorem project_cases (schema : Schema) (columns : List String) :
    (schema.Knows columns ∧ ∃ projected, schema.project columns = .ok projected) ∨
      (¬ schema.Knows columns ∧ ∃ reason, schema.project columns = .error (.schema reason)) := by
  have hcases : (schema.Knows columns ∧ ∃ fields, columns.mapM schema.find = .ok fields) ∨
      (¬ schema.Knows columns ∧ ∃ reason, columns.mapM schema.find = .error (.schema reason)) := by
    induction columns with
    | nil => exact .inl ⟨List.forall_mem_nil _, [], rfl⟩
    | cons column columns ih =>
      rw [List.mapM_cons, find]
      cases hfind : schema.fields.find? fun field ↦ Text.sameIgnoringCase field.name column with
      | none =>
        refine .inr ⟨fun hknows ↦ ?_, _, rfl⟩
        obtain ⟨field, hmem, hnamed⟩ := hknows column List.mem_cons_self
        exact List.find?_eq_none.mp hfind field hmem hnamed
      | some field =>
        have hnamed := List.find?_some hfind
        have hknown : ∃ field ∈ schema.fields, Text.sameIgnoringCase field.name column :=
          ⟨field, List.mem_of_find?_eq_some hfind, hnamed⟩
        rcases ih with ⟨hknows, fields, hfields⟩ | ⟨hunknown, reason, hreason⟩
        · refine .inl ⟨List.forall_mem_cons.mpr ⟨hknown, hknows⟩, field :: fields, ?_⟩
          rw [hfields]
          rfl
        · refine .inr ⟨fun hknows ↦ hunknown (List.forall_mem_cons.mp hknows).2, reason, ?_⟩
          rw [hreason]
          rfl
  unfold project
  rcases hcases with ⟨hknows, fields, hfields⟩ | ⟨hunknown, reason, hreason⟩
  · exact .inl ⟨hknows, ⟨fields⟩, by rw [hfields]; rfl⟩
  · exact .inr ⟨hunknown, reason, by rw [hreason]; rfl⟩

end Schema

namespace Memory

variable {memory : Memory} {schema projected : Schema} {rows : List Row} {row picked : Row}
  {columns : List String}

/-- A row of chosen columns next to the whole row: it has a cell for each name, and the column and
the cell there are those of the first column of the name. So whoever asks about a field of the row
is answered as if asking about that column of the whole row. -/
structure Selects (schema : Schema) (columns : List String) (projected : Schema)
    (row picked : Row) : Prop where
  width : picked.length = columns.length
  cells : ∀ (ordinal : Nat) (column : String), columns[ordinal]? = some column →
    ∃ position field value, schema.FirstNamed column position field ∧
      row[position]? = some value ∧ projected.field? ordinal = some field ∧
        picked[ordinal]? = some value ∧
          ∀ {first second : Memory} {handle other : Nat}, ordinal ≤ Accessor.greatestOrdinal →
            position ≤ Accessor.greatestOrdinal →
              first.Holds handle (.row ⟨projected, picked⟩) →
                second.Holds other (.row ⟨schema, row⟩) →
                  ∀ question : Question, question.concernsField →
                    Alike (question.ask ⟨some handle⟩ ordinal) first
                      (question.ask ⟨some other⟩ position) second

/-- A row with a cell in each of the chosen columns. -/
def HasCells (schema : Schema) (columns : List String) (row : Row) : Prop :=
  ∀ column ∈ columns, ∀ position, schema.indexOf? column = some position → position < row.length

/-- A row that is as wide as its schema has all cells. -/
theorem hasCells_of_length (h : row.length = schema.length) : HasCells schema columns row := by
  intro column _ position hposition
  rw [h]
  exact (List.findIdx?_eq_some_iff_getElem.mp hposition).1

/-- The chosen columns of a row that has cells there. -/
theorem exists_project (hproject : schema.project columns = .ok projected)
    (hfilled : HasCells schema columns row) :
    ∃ picked, project (positionsOf schema columns) row = some picked ∧
      Selects schema columns projected row picked := by
  obtain ⟨hchosen, hcells⟩ := chosen_of_project hproject
  obtain ⟨fields, hfields, rfl⟩ := Option.map_eq_some_iff.mp hchosen
  have hfound := mapM_eq_some_iff.mp hfields
  have hplace : ∀ {ordinal : Nat} {column : String}, columns[ordinal]? = some column →
      ∃ position field value, schema.indexOf? column = some position ∧
        schema.field? position = some field ∧ fields[ordinal]? = some field ∧
          row[position]? = some value := by
    intro ordinal column hcolumn
    obtain ⟨field, hfield, hindex⟩ := getElem?_of_forall₂ hfound hcolumn
    obtain ⟨position, hposition, hat⟩ := Option.bind_eq_some_iff.mp hindex
    have hrow := hfilled column (List.mem_of_getElem? hcolumn) position hposition
    exact ⟨position, field, row[position], hposition, hat, hfield, List.getElem?_eq_getElem hrow⟩
  have hpicks : ∃ picked, schema.chosenCells row (some columns) = some picked := by
    apply exists_mapM_eq_some
    intro column hcolumn
    obtain ⟨ordinal, hordinal⟩ := List.mem_iff_getElem?.mp hcolumn
    obtain ⟨position, field, value, hposition, -, -, hvalue⟩ := hplace hordinal
    exact ⟨value, by rw [hposition]; exact hvalue⟩
  obtain ⟨picked, hpicked⟩ := hpicks
  have hpickedAt := mapM_eq_some_iff.mp hpicked
  refine ⟨picked, (hcells row).trans hpicked, hpickedAt.length_eq.symm, ?_⟩
  intro ordinal column hcolumn
  obtain ⟨position, field, value, hposition, hat, hfield, hvalue⟩ := hplace hcolumn
  obtain ⟨cell, hcell, hsame⟩ := getElem?_of_forall₂ hpickedAt hcolumn
  rw [hposition, Option.bind_some, hvalue] at hsame
  cases hsame
  obtain ⟨named, hnamed⟩ := Schema.firstNamed_of_indexOf? hposition
  have hname : named = field := Option.some.inj (hnamed.found.symm.trans hat)
  subst hname
  refine ⟨position, named, value, hnamed, hvalue, hfield, hcell, ?_⟩
  intro first second handle other hordinal hplaceFits hpickedRow hwholeRow question hquestion
  have htwins : Twins first handle ordinal second other position named value := by
    constructor
    · exact ⟨hordinal, _, hpickedRow, hfield, hcell⟩
    · exact ⟨hplaceFits, _, hwholeRow, hat, hvalue⟩
  exact htwins.alike_ask hquestion

/-- The chosen columns of rows that all have cells there. -/
theorem exists_projectAll (hproject : schema.project columns = .ok projected)
    (hfilled : ∀ row ∈ rows, HasCells schema columns row) :
    ∃ picked, rows.mapM (project (positionsOf schema columns)) = some picked ∧
      List.Forall₂ (Selects schema columns projected) rows picked := by
  induction rows with
  | nil => exact ⟨[], rfl, .nil⟩
  | cons row rows ih =>
    obtain ⟨hrow, hrest⟩ := List.forall_mem_cons.mp hfilled
    obtain ⟨cells, hcells, hselects⟩ := exists_project hproject hrow
    obtain ⟨picked, hpicked, hall⟩ := ih hrest
    refine ⟨cells :: picked, ?_, .cons hselects hall⟩
    rw [List.mapM_cons, hcells, hpicked]
    rfl

/-! ### Building the reader -/

variable {builder : ReaderBuilder} {plan : ReaderPlan}

/-- Settling columns changes the plan of the builder and nothing else. -/
theorem runs_projection (h : memory.Holds builder.handle (.readerBuilder plan))
    (hcolumns : columns ≠ []) :
    Client.Runs backend (builder.projection columns) memory (.ok builder)
      ((memory.counting Operation.setProjection.method).put builder.handle
        (.readerBuilder { plan with columns := some columns })) := by
  have hperform : perform .setProjection builder.handle [.texts columns]
      (memory.counting Operation.setProjection.method) =
        .returned ((memory.counting Operation.setProjection.method).put builder.handle
          (.readerBuilder { plan with columns := some columns }))
            (.object (some builder.handle)) := by
    show changeReader _ _ _ _ = _
    unfold changeReader
    rw [readerBuilder_eq_ok_iff.mpr (h.counting _).object]
  have hchain := (runs_chain h.running rfl hperform).bind
    (Client.runs_expect_ok "projection" .other ())
  unfold ReaderBuilder.projection
  rw [if_neg (by simpa using hcolumns)]
  exact (Client.Runs.cleaning hchain).bind (Client.runs_pure builder)

/-- A build that the backend refuses gives the builder up and leaves nothing behind. -/
theorem runs_build_of_refuses {error : CallError}
    (h : memory.Holds builder.handle (.readerBuilder plan))
    (hperform : perform .buildReader builder.handle []
      (memory.counting Operation.buildReader.method) =
        .failed ((memory.counting Operation.buildReader.method).receiving plan.path
          plan.options.entries) error) :
    Client.Runs backend builder.build memory
      (.error (.error (.ofCall "build" (.build builder.path) error)))
      (((memory.counting Operation.buildReader.method).receiving plan.path
        plan.options.entries).vacate builder.handle) := by
  have hcall := runs_call h.running rfl (congrArg Reply.outcome hperform)
    (congrArg Reply.state hperform)
  have hheld := (h.counting Operation.buildReader.method).receiving plan.path plan.options.entries
  refine Client.Runs.holding_error (hcall.bind ?_) (runs_discard hheld)
  exact (Client.runs_expect_error _ _ error).bind_error

/-- If all names are known, the new reader stands before the chosen columns of the rows. -/
theorem ends_projection_of_knows (h : memory.Holds builder.handle (.readerBuilder plan))
    (hlocal : isRemote plan.path = false)
    (htable : memory.store.table? plan.path = some (schema, rows))
    (hwidths : ∀ row ∈ rows, row.length = schema.length) (hcolumns : columns ≠ [])
    (hknows : schema.Knows columns) :
    Client.Ends backend (builder.projection columns >>= ReaderBuilder.build) memory
      fun result after ↦ ∃ reader projected picked, result = .ok reader ∧
        reader.closed = false ∧ after.StandsBefore reader.handle projected picked ∧
          List.Forall₂ (Selects schema columns projected) rows picked := by
  have hproject : ∃ projected, schema.project columns = .ok projected :=
    (schema.project_cases columns).elim And.right fun hunknown ↦ absurd hknows hunknown.1
  obtain ⟨projected, hproject⟩ := hproject
  obtain ⟨picked, hpicked, hselects⟩ :=
    exists_projectAll hproject fun row hrow ↦ hasCells_of_length (hwidths row hrow)
  have hsettled := (h.counting Operation.setProjection.method).put
    (.readerBuilder { plan with columns := some columns })
  have hperform := perform_buildReader (hsettled.counting Operation.buildReader.method)
    (not_lacksKey_of_local hlocal) htable
  dsimp only at hperform
  unfold openProjected at hperform
  rw [hproject] at hperform
  dsimp only at hperform
  rw [hpicked] at hperform
  refine (runs_projection h hcolumns).bind ((ends_build_of_opens hsettled hperform).mono ?_)
  rintro result after ⟨reader, hreader, hopen, hstands⟩
  exact ⟨reader, projected, picked, hreader, hopen, hstands, hselects⟩

/-- If a name is not known, the build fails, the builder is given up and nothing else is touched. -/
theorem ends_projection_of_not_knows (h : memory.Holds builder.handle (.readerBuilder plan))
    (hlocal : isRemote plan.path = false)
    (htable : memory.store.table? plan.path = some (schema, rows)) (hcolumns : columns ≠ [])
    (hunknown : ¬ schema.Knows columns) :
    Client.Ends backend (builder.projection columns >>= ReaderBuilder.build) memory
      fun result after ↦ (∃ reason, result = .error (.error (.build builder.path reason))) ∧
        ∀ handle, after.object? handle =
          if handle = builder.handle then none else memory.object? handle := by
  have hproject : ∃ reason, schema.project columns = .error (.schema reason) :=
    (schema.project_cases columns).elim (fun hknown ↦ absurd hknown.1 hunknown) And.right
  obtain ⟨reason, hproject⟩ := hproject
  have hsettled := (h.counting Operation.setProjection.method).put
    (.readerBuilder { plan with columns := some columns })
  have hperform := perform_buildReader (hsettled.counting Operation.buildReader.method)
    (not_lacksKey_of_local hlocal) htable
  dsimp only at hperform
  unfold openProjected at hperform
  rw [hproject] at hperform
  refine (runs_projection h hcolumns).bind ((runs_build_of_refuses hsettled hperform).mono ?_)
  rintro result after ⟨rfl, rfl⟩
  refine ⟨⟨_, rfl⟩, fun handle ↦ ?_⟩
  by_cases hhandle : handle = builder.handle
  · rw [if_pos hhandle, hhandle]
    exact object?_vacate_self _ _
  · have hzero := ne_zero_of_object? h.object
    rw [if_neg hhandle, object?_vacate_of_ne hzero hhandle]
    exact object?_put_of_ne hzero hhandle _

/-- A reader of chosen columns over a local table whose rows all have one cell for each column. If
all names are known, the reader can be built, and it hands out the chosen columns of all the rows
that a reader of all columns hands out, in the same order. If a name is not known, the build fails
and no object has been added. -/
theorem projection_selects_columns (h : memory.Holds builder.handle (.readerBuilder plan))
    (hpath : plan.path = builder.path) (hlocal : isRemote builder.path = false)
    (htable : memory.store.table? builder.path = some (schema, rows))
    (hwidths : ∀ row ∈ rows, row.length = schema.length) (hcolumns : columns ≠ []) :
    (schema.Knows columns →
      Client.Ends backend (builder.projection columns >>= ReaderBuilder.build) memory
        fun result after ↦ ∃ reader projected picked, result = .ok reader ∧
          reader.closed = false ∧ after.Serves reader.handle projected picked 0 ∧
            List.Forall₂ (Selects schema columns projected) rows picked) ∧
    (¬ schema.Knows columns →
      Client.Ends backend (builder.projection columns >>= ReaderBuilder.build) memory
        fun result after ↦ (∃ reason, result = .error (.error (.build builder.path reason))) ∧
          ∀ handle, after.object? handle =
            if handle = builder.handle then none else memory.object? handle) ∧
    ∀ (whole : ReaderBuilder) (wholePlan : ReaderPlan),
      memory.Holds whole.handle (.readerBuilder wholePlan) → wholePlan.columns = none →
        wholePlan.path = builder.path →
          Client.Ends backend whole.build memory fun result after ↦ ∃ reader,
            result = .ok reader ∧ reader.closed = false ∧
              after.Serves reader.handle schema rows 0 := by
  have hplanLocal : isRemote plan.path = false := by
    rw [hpath]
    exact hlocal
  have hplanTable : memory.store.table? plan.path = some (schema, rows) := by
    rw [hpath]
    exact htable
  refine ⟨fun hknows ↦ ?_, ?_, ?_⟩
  · refine (ends_projection_of_knows h hplanLocal hplanTable hwidths hcolumns hknows).mono ?_
    rintro result after ⟨reader, projected, picked, hreader, hopen, hstands, hselects⟩
    exact ⟨reader, projected, picked, hreader, hopen, hstands.serves (Nat.zero_le _), hselects⟩
  · exact ends_projection_of_not_knows h hplanLocal hplanTable hcolumns
  · intro whole wholePlan hwhole hall hsame
    rw [← hsame] at hlocal htable
    refine (ends_buildReader hwhole hall hlocal htable).mono ?_
    rintro result after ⟨reader, hreader, hopen, hstands⟩
    exact ⟨reader, hreader, hopen, hstands.serves (Nat.zero_le _)⟩

/-- A projection on two columns in another order and other letter case, one of them twice, and one
on a column that the table does not have. -/
theorem projection_selects_columns_reordered :
    let schema : Schema := ⟨[.scalar "id" .int, .scalar "Name" .string]⟩
    let rows : List Row := [[.int 1, .string "x"], [.int 2, .null]]
    let memory : Memory := ⟨⟨[⟨"t", "1", schema, rows, "w"⟩], [], []⟩,
      #[some (.readerBuilder ⟨"t/", "_temp", none, .empty, none⟩)], false⟩
    let builder : ReaderBuilder := ⟨1, "t/", none⟩
    (memory.Holds 1 (.readerBuilder ⟨"t/", "_temp", none, .empty, none⟩) ∧
      isRemote "t/" = false ∧ memory.store.table? "t/" = some (schema, rows) ∧
      (∀ row ∈ rows, row.length = schema.length) ∧ schema.Knows ["NAME", "id", "name"] ∧
      ¬ schema.Knows ["id", "age"]) ∧
    (Client.Ends backend (builder.projection ["NAME", "id", "name"] >>= ReaderBuilder.build) memory
      fun result after ↦ ∃ reader projected picked, result = .ok reader ∧
        reader.closed = false ∧ after.Serves reader.handle projected picked 0 ∧
          List.Forall₂ (Selects schema ["NAME", "id", "name"] projected) rows picked) ∧
    Client.Ends backend (builder.projection ["id", "age"] >>= ReaderBuilder.build) memory
      fun result after ↦ (∃ reason, result = .error (.error (.build "t/" reason))) ∧
        ∀ handle, after.object? handle =
          if handle = 1 then none else memory.object? handle := by
  intro schema rows memory builder
  have hholds : memory.Holds 1 (.readerBuilder ⟨"t/", "_temp", none, .empty, none⟩) := ⟨rfl, rfl⟩
  have hlocal : isRemote "t/" = false := by
    decide +kernel
  have htable : memory.store.table? "t/" = some (schema, rows) := by
    rfl
  have hwidths : ∀ row ∈ rows, row.length = schema.length := by
    simp [rows, schema, Schema.length]
  have hknows : schema.Knows ["NAME", "id", "name"] := by
    simp only [Schema.Knows]
    decide
  have hunknown : ¬ schema.Knows ["id", "age"] := by
    simp only [Schema.Knows]
    decide
  exact ⟨⟨hholds, hlocal, htable, hwidths, hknows, hunknown⟩,
    (@projection_selects_columns memory schema rows _ builder _ hholds rfl hlocal htable hwidths
      (by decide)).1 hknows,
    (@projection_selects_columns memory schema rows _ builder _ hholds rfl hlocal htable hwidths
      (by decide)).2.1 hunknown⟩

end Memory

end ColumnStore
