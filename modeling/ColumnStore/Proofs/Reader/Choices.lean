import ColumnStore.Proofs.Reader.Projection

/-!
# Columns chosen more than once

A list of columns takes the place of the one that was settled before it. An empty list does not: no
call is made for it, and what was settled stays. So a reader has the columns of the last list that
is not empty, whatever stands before that list and however many empty lists stand behind it. It has
all columns only if every list is empty.
-/

set_option autoImplicit false

namespace ColumnStore

/-- Settles columns with one list after the other. -/
def ReaderBuilder.projections {σ : Type} (builder : ReaderBuilder) (choices : List (List String)) :
    Client σ ReaderBuilder :=
  choices.foldlM ReaderBuilder.projection builder

namespace Memory

/-- The last list that is not empty. -/
def lastChoice? (choices : List (List String)) : Option (List String) :=
  (choices.filter fun columns ↦ !columns.isEmpty).getLast?

/-- What a build comes to over a table and the columns settled. A reader of all columns serves the
rows, a reader of chosen ones serves their cells there. A row without one of these cells breaks the
build off. -/
def Opens (schema : Schema) (rows : List Row) :
    Option (List String) → Except Failure Reader → Memory → Prop
  | none, result, after =>
    ∃ reader, result = .ok reader ∧ reader.closed = false ∧
      after.Serves reader.handle schema rows 0
  | some columns, result, after =>
    ((∀ row ∈ rows, HasCells schema columns row) → ∃ reader projected picked,
      result = .ok reader ∧ reader.closed = false ∧ after.Serves reader.handle projected picked 0 ∧
        schema.project columns = .ok projected ∧
          List.Forall₂ (Selects schema columns projected) rows picked) ∧
    ((∃ row ∈ rows, ¬ HasCells schema columns row) → result = .error .crash)

variable {memory : Memory} {builder : ReaderBuilder} {plan : ReaderPlan} {schema : Schema}
  {rows : List Row} {row : Row} {columns : List String} {choices : List (List String)}

/-! ### Settling columns -/

/-- A list decides unless one that is not empty stands behind it. -/
theorem lastChoice?_cons (columns : List String) (choices : List (List String)) :
    lastChoice? (columns :: choices) = (lastChoice? choices).or (lastChoice? [columns]) := by
  unfold lastChoice?
  rw [← List.singleton_append, List.filter_append, List.getLast?_append]

/-- One list takes the place of what was settled, unless it is empty. -/
theorem ends_projection (h : memory.Holds builder.handle (.readerBuilder plan))
    (columns : List String) :
    Client.Ends backend (builder.projection columns) memory fun result after ↦
      result = .ok builder ∧ after.commits = memory.commits ∧
        after.Holds builder.handle (.readerBuilder
          { plan with columns := (lastChoice? [columns]).or plan.columns }) := by
  cases columns with
  | nil => exact Client.ends_pure ⟨rfl, rfl, h⟩
  | cons column columns =>
    refine (runs_projection h (List.cons_ne_nil column columns)).mono ?_
    rintro result after ⟨rfl, rfl⟩
    exact ⟨rfl, rfl, (h.counting _).put _⟩

/-- After several lists the last one that is not empty has been settled. -/
theorem ends_projections (h : memory.Holds builder.handle (.readerBuilder plan))
    (choices : List (List String)) :
    Client.Ends backend (builder.projections choices) memory fun result after ↦
      result = .ok builder ∧ after.commits = memory.commits ∧
        after.Holds builder.handle (.readerBuilder
          { plan with columns := (lastChoice? choices).or plan.columns }) := by
  unfold ReaderBuilder.projections
  induction choices generalizing memory plan with
  | nil => exact Client.ends_pure ⟨rfl, rfl, h⟩
  | cons columns choices ih =>
    rw [List.foldlM_cons, lastChoice?_cons]
    refine (ends_projection h columns).bind_of_ok ?_
    rintro _ state ⟨rfl, hcommits, hholds⟩
    refine ⟨builder, rfl, (ih hholds).mono ?_⟩
    rintro result after ⟨hresult, hkept, hsettled⟩
    refine ⟨hresult, hkept.trans hcommits, ?_⟩
    rwa [Option.or_assoc]

/-! ### Building the reader -/

/-- A row without a cell in a chosen column cannot be cut down to the chosen columns. -/
theorem projectAll_eq_none (hrow : row ∈ rows) (h : ¬ HasCells schema columns row) :
    rows.mapM (project (positionsOf schema columns)) = none := by
  simp only [HasCells, Classical.not_forall] at h
  obtain ⟨column, hcolumn, position, hposition, hbeyond⟩ := h
  have hmem : position ∈ positionsOf schema columns :=
    List.mem_filterMap.mpr ⟨column, hcolumn, hposition⟩
  exact mapM_eq_none hrow (mapM_eq_none hmem (List.getElem?_eq_none (Nat.not_lt.mp hbeyond)))

/-- A build that breaks off gives the builder up. -/
theorem runs_build_of_crashes (h : memory.Holds builder.handle (.readerBuilder plan))
    (hperform : perform .buildReader builder.handle []
      (memory.counting Operation.buildReader.method) =
        ⟨.crashed, (memory.counting Operation.buildReader.method).receiving plan.path
          plan.options.entries, []⟩) :
    Client.Runs backend builder.build memory (.error .crash)
      (((memory.counting Operation.buildReader.method).receiving plan.path
        plan.options.entries).vacate builder.handle) := by
  have hcall := runs_call h.running rfl (congrArg Reply.outcome hperform)
    (congrArg Reply.state hperform)
  have hheld := (h.counting Operation.buildReader.method).receiving plan.path plan.options.entries
  exact Client.Runs.holding_error hcall.bind_error (runs_discard hheld)

/-- A build over a table opens the columns that are settled, if they are known. -/
theorem ends_build_opens (h : memory.Holds builder.handle (.readerBuilder plan))
    (hkey : ¬ LacksKey plan) (htable : memory.store.table? plan.path = some (schema, rows))
    (hknown : ∀ columns ∈ plan.columns, schema.Knows columns) :
    Client.Ends backend builder.build memory (Opens schema rows plan.columns) := by
  have hperform := perform_buildReader (h.counting Operation.buildReader.method) hkey htable
  cases hcolumns : plan.columns with
  | none =>
    rw [hcolumns] at hperform
    refine (ends_build_of_opens h hperform).mono ?_
    rintro result after ⟨reader, hreader, hopen, hstands⟩
    exact ⟨reader, hreader, hopen, hstands.serves (Nat.zero_le _)⟩
  | some columns =>
    have hproject : ∃ projected, schema.project columns = .ok projected :=
      (schema.project_cases columns).elim And.right fun hunknown ↦
        absurd (hknown columns hcolumns) hunknown.1
    obtain ⟨projected, hproject⟩ := hproject
    rw [hcolumns] at hperform
    dsimp only at hperform
    rw [openProjected, hproject] at hperform
    dsimp only at hperform
    by_cases hfilled : ∀ row ∈ rows, HasCells schema columns row
    · obtain ⟨picked, hpicked, hselects⟩ := exists_projectAll hproject hfilled
      rw [hpicked] at hperform
      refine (ends_build_of_opens h hperform).mono ?_
      rintro result after ⟨reader, hreader, hopen, hstands⟩
      refine ⟨fun _ ↦ ⟨reader, projected, picked, hreader, hopen, ?_, hproject, hselects⟩, ?_⟩
      · exact hstands.serves (Nat.zero_le _)
      · rintro ⟨row, hrow, hlacks⟩
        exact absurd (hfilled row hrow) hlacks
    · obtain ⟨row, hrow, hlacks⟩ : ∃ row ∈ rows, ¬ HasCells schema columns row := by
        simpa only [Classical.not_forall, exists_prop] using hfilled
      rw [projectAll_eq_none hrow hlacks] at hperform
      refine (runs_build_of_crashes h hperform).mono ?_
      rintro result after ⟨rfl, -⟩
      exact ⟨fun hall ↦ absurd hall hfilled, fun _ ↦ rfl⟩

/-- Columns of a table are settled with one list after the other, and a reader is built. It has the
columns of the last list that is not empty. If every list is empty, it has those that were settled
before, which are all columns if the builder is new. -/
theorem last_nonempty_projection_decides (h : memory.Holds builder.handle (.readerBuilder plan))
    (hkey : ¬ LacksKey plan) (htable : memory.store.table? plan.path = some (schema, rows))
    (hbefore : ∀ columns ∈ plan.columns, schema.Knows columns)
    (hknown : ∀ columns ∈ choices, schema.Knows columns) :
    Client.Ends backend (builder.projections choices >>= ReaderBuilder.build) memory
      (Opens schema rows ((lastChoice? choices).or plan.columns)) := by
  have hsettled : ∀ columns ∈ (lastChoice? choices).or plan.columns, schema.Knows columns := by
    intro columns hcolumns
    rcases Option.or_eq_some_iff.mp hcolumns with hlast | ⟨-, hkept⟩
    · exact hknown columns (List.mem_of_mem_filter (List.mem_of_getLast? hlast))
    · exact hbefore columns hkept
  refine (ends_projections h choices).bind ?_ ?_
  · rintro _ state ⟨⟨⟩, hcommits, hholds⟩
    exact ends_build_opens hholds hkey ((table?_congr hcommits _).trans htable) hsettled
  · rintro failure state ⟨⟨⟩, -⟩

/-- Two lists with empty ones behind them, on a table with a null and on one with a short row, which
has no cell in the last column. -/
theorem last_nonempty_projection_decides_among_four :
    let schema : Schema := ⟨[.scalar "a" .int, .scalar "b" .string]⟩
    let rows : List Row := [[.int 1, .string "x"], [.int 2, .null]]
    let short : List Row := [[.int 1, .string "x"], [.int 2]]
    let plan : ReaderPlan := ⟨"/t", "_temp", none, .empty, none⟩
    let filled (rows : List Row) : Memory :=
      ⟨⟨[⟨"/t", "1", schema, rows, "w"⟩], [], []⟩, #[some (.readerBuilder plan)], false⟩
    let builder : ReaderBuilder := ⟨1, "/t", none⟩
    let choices := [["b"], [], ["B", "a", "b"], []]
    (∀ rows, (filled rows).Holds 1 (.readerBuilder plan) ∧
      (filled rows).store.table? "/t" = some (schema, rows)) ∧
    ¬ LacksKey plan ∧ (∀ columns ∈ plan.columns, schema.Knows columns) ∧
    (∀ columns ∈ choices, schema.Knows columns) ∧
    (Client.Ends backend (builder.projections choices >>= ReaderBuilder.build) (filled rows)
      fun result after ↦ ∃ reader projected picked, result = .ok reader ∧ reader.closed = false ∧
        after.Serves reader.handle projected picked 0 ∧
          schema.project ["B", "a", "b"] = .ok projected ∧
            List.Forall₂ (Selects schema ["B", "a", "b"] projected) rows picked) ∧
    Client.Ends backend (builder.projections choices >>= ReaderBuilder.build) (filled short)
      fun result _ ↦ result = .error .crash := by
  intro schema rows short plan filled builder choices
  have hheld : ∀ rows, (filled rows).Holds 1 (.readerBuilder plan) ∧
      (filled rows).store.table? "/t" = some (schema, rows) :=
    fun rows ↦ ⟨⟨rfl, rfl⟩, rfl⟩
  have hkey : ¬ LacksKey plan := not_lacksKey_of_local (by decide +kernel)
  have hbefore : ∀ columns ∈ plan.columns, schema.Knows columns := by
    rintro columns ⟨⟩
  have hknown : ∀ columns ∈ choices, schema.Knows columns := by
    simp only [Schema.Knows]
    decide
  have hends : ∀ rows, Client.Ends backend (builder.projections choices >>= ReaderBuilder.build)
      (filled rows) (Opens schema rows (some ["B", "a", "b"])) := fun rows ↦
    @last_nonempty_projection_decides (filled rows) builder plan schema rows choices (hheld rows).1
      hkey (hheld rows).2 hbefore hknown
  refine ⟨hheld, hkey, hbefore, hknown, ?_, ?_⟩
  · refine (hends rows).mono fun result after hopens ↦ hopens.1 ?_
    intro row hrow
    apply hasCells_of_length
    revert row
    decide
  · refine (hends short).mono fun result after hopens ↦ hopens.2 ?_
    refine ⟨[.int 2], by simp [short], fun hcells ↦ ?_⟩
    exact absurd (hcells "b" (by decide) 1 (by decide)) (by decide)

/-- A list with one of two columns and an empty list behind it: the reader does not stand before the
whole rows. -/
theorem empty_projection_keeps_columns :
    let schema : Schema := ⟨[.scalar "a" .int, .scalar "b" .string]⟩
    let rows : List Row := [[.int 1, .string "x"], [.int 2, .null]]
    let memory : Memory := ⟨⟨[⟨"/t", "1", schema, rows, "w"⟩], [], []⟩,
      #[some (.readerBuilder ⟨"/t", "_temp", none, .empty, none⟩)], false⟩
    let builder : ReaderBuilder := ⟨1, "/t", none⟩
    memory.store.table? "/t" = some (schema, rows) ∧ schema.Knows ["b"] ∧ schema.Knows [] ∧
    Client.Ends backend (builder.projections [["b"], []] >>= ReaderBuilder.build) memory
      fun result after ↦ ∃ reader, result = .ok reader ∧
        after.StandsBefore reader.handle ⟨[.scalar "b" .string]⟩ [[.string "x"], [.null]] ∧
          ¬ after.StandsBefore reader.handle schema rows := by
  intro schema rows memory builder
  have hholds : memory.Holds 1 (.readerBuilder ⟨"/t", "_temp", none, .empty, none⟩) := ⟨rfl, rfl⟩
  have htable : memory.store.table? "/t" = some (schema, rows) := rfl
  have hknown : schema.Knows ["b"] := by
    simp only [Schema.Knows]
    decide
  refine ⟨htable, hknown, List.forall_mem_nil _, ?_⟩
  refine (@ends_projections memory builder _ hholds [["b"], []]).bind ?_ ?_
  · rintro _ state ⟨⟨⟩, hcommits, hsettled⟩
    have hperform := perform_buildReader (hsettled.counting Operation.buildReader.method)
      (not_lacksKey_of_local (by decide +kernel)) ((table?_congr hcommits _).trans htable)
    refine (ends_build_of_opens hsettled hperform).mono ?_
    rintro result after ⟨reader, hreader, -, hstands⟩
    refine ⟨reader, hreader, hstands, fun hwhole ↦ ?_⟩
    have hsame := hstands.object.symm.trans hwhole.object
    simp only [Option.some.injEq, ManagedObject.reader.injEq, ReaderState.mk.injEq] at hsame
    exact absurd hsame.1 (by decide)
  · rintro failure state ⟨⟨⟩, -⟩

end Memory

end ColumnStore
