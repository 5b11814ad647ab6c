import ColumnStore.Proofs.Value.Precedence
import ColumnStore.Proofs.Writer.Building
import ColumnStore.Proofs.Writer.Retrying

/-!
# Sorting as a writer is closed

Between its making and its closing anything may be called on the backend, on the writer or on other
objects. A call adds the row of a record to a writer if it is a write on it that succeeds, and
leaves its rows as they are otherwise; so the rows of a writer are those of its successful writes,
in order. Closing files them as a stable sort by the sort columns of the plan that it was built
from.
-/

set_option autoImplicit false

namespace ColumnStore

/-- The call neither closes the writer nor gives it up nor shuts the backend down. -/
def Call.LeavesOpen (handle : Handle) : Call → Prop
  | .construct _ _ | .onClass _ _ => True
  | .onObject target method _ => target = handle → method ≠ Operation.closeWriter.method
  | .release target => target ≠ handle
  | .shutdown => False

instance (handle : Handle) (call : Call) : Decidable (call.LeavesOpen handle) :=
  match call with
  | .construct _ _ | .onClass _ _ => .isTrue trivial
  | .onObject _ _ _ => inferInstanceAs (Decidable (_ → _))
  | .release _ => inferInstanceAs (Decidable (_ ≠ _))
  | .shutdown => .isFalse id

/-- The columns are sorted by what their cells say. -/
def Schema.SortsExactlyBy (schema : Schema) (columns : List String) : Prop :=
  ∀ column ∈ columns, ∀ position field, schema.indexOf? column = some position →
    schema.field? position = some field → field.type.SortsExactly

namespace Memory

/-- The row that a writer takes by a call, if the call is a write on it that succeeds. -/
def rowTaken (handle : Handle) (schema : Schema) (memory : Memory) : Call → Option Row
  | .onObject target method (.texts record :: rest) =>
    if target = handle ∧ method = Operation.writeRecord.method ∧
        (memory.reply (.onObject target method (.texts record :: rest))).outcome =
          .returned .nothing then
      schema.parsed? record
    else none
  | _ => none

/-- The rows of the successful writes on a writer among calls, in the order of the calls. -/
def rowsTaken (handle : Handle) (schema : Schema) : Memory → List Call → List Row
  | _, [] => []
  | memory, call :: calls =>
    (memory.rowTaken handle schema call).toList ++
      rowsTaken handle schema (memory.reply call).state calls

variable {memory before after : Memory} {handle builder : Nat} {state : WriterState}
  {operation : Operation} {outcome : Outcome Returned} {call : Call}

/-! ### Calls of an open writer -/

/-- An operation on a writer that is neither a write nor a close leaves it as it is. -/
theorem Effect.object?_writer (h : Effect operation handle before outcome after)
    (hkind : operation.method.kind = .onObject)
    (hwriter : before.object? handle = some (.writer state))
    (hwrite : operation ≠ .writeRecord) (hclose : operation ≠ .closeWriter) :
    after.object? handle = some (.writer state) := by
  have hnot : ∀ {object : ManagedObject}, before.object? handle = some object →
      object = .writer state := fun hobject ↦ Option.some.inj (hobject.symm.trans hwriter)
  cases h with
  | refused | answered => exact hwriter
  | made object hother => exact absurd hkind hother
  | described target object htarget hpart =>
    rw [hnot htarget] at hpart
    cases hpart
  | describedAll target objects htarget hpart =>
    rw [hnot htarget] at hpart
    cases hpart
  | settled old new hold hclass hrows =>
    rw [hnot hold] at hrows
    cases hrows.1
  | unbuilt plan hplan | broken plan hplan | opened plan hplan | began plan hplan =>
    cases hnot hplan
  | tookRow reader hreader | tookRows reader hreader | closedReader _ reader hreader =>
    cases hnot hreader
  | wrote _ _ _ _ _ _ hoperation => exact absurd hoperation hwrite
  | closedEmpty _ _ _ _ hoperation | committed _ _ _ _ hoperation => exact absurd hoperation hclose

/-- What an operation of objects leaves of an open writer that it is called on, if it is neither a
write nor a close. -/
theorem object?_reply_of_method (h : memory.Holds handle (.writer state)) {method : Method}
    (arguments : List Argument) (hwrite : method ≠ Operation.writeRecord.method)
    (hclose : method ≠ Operation.closeWriter.method) :
    (memory.reply (.onObject handle method arguments)).state.Holds handle (.writer state) := by
  refine ⟨(isShutDown_invoke .onObject (some handle)).trans h.running, ?_⟩
  rcases invoke_cases .onObject (some handle) method arguments memory with
    ⟨error, -, hstate⟩ | ⟨operation, hmethod, hkind, heffect⟩
  · exact (congrArg (·.object? handle) hstate).trans h.object
  · subst hmethod
    exact heffect.object?_writer hkind h.object (fun heq ↦ hwrite (heq ▸ rfl))
      fun heq ↦ hclose (heq ▸ rfl)

/-- A write adds the row that the record stands for, if it stands for one. -/
theorem holds_reply_write (h : memory.Holds handle (.writer state)) (hopen : state.closed = false)
    (record : List String) (rest : List Argument) :
    let call := Call.onObject handle Operation.writeRecord.method (.texts record :: rest)
    (memory.reply call).state.Holds handle
      (.writer (state.taking (memory.rowTaken handle state.schema call).toList)) := by
  intro call
  have hcounted := h.counting Operation.writeRecord.method
  have hstate : (memory.reply call).state = _ :=
    state_invoke h.running .writeRecord (some handle) (.texts record :: rest)
  have houtcome : (memory.reply call).outcome = _ :=
    outcome_invoke h.running .writeRecord (some handle) (.texts record :: rest)
  -- Only the first argument is looked at.
  have hperform : perform .writeRecord handle (.texts record :: rest) (memory.counting _) = _ :=
    @perform_writeRecord _ ⟨handle, "", none, 0, false⟩ state hcounted hopen record
  rw [Option.getD_some, hperform] at hstate houtcome
  have hcall : memory.rowTaken handle state.schema call =
      if handle = handle ∧ Operation.writeRecord.method = Operation.writeRecord.method ∧
          (memory.reply call).outcome = .returned .nothing then
        state.schema.parsed? record
      else none := rfl
  rw [hstate, hcall]
  cases hrow : state.schema.parsed? record with
  | none =>
    obtain ⟨error, hread⟩ := exists_readRecord_eq_error hrow
    rw [hread, ite_self]
    exact hcounted
  | some row =>
    rw [readRecord_eq_ok_iff.mpr hrow] at houtcome ⊢
    rw [if_pos ⟨rfl, rfl, houtcome⟩]
    exact hcounted.put _

/-- A write that hands over no record adds nothing. -/
theorem holds_reply_write_nothing (h : memory.Holds handle (.writer state))
    {arguments : List Argument} (harguments : ∀ record rest, arguments ≠ .texts record :: rest) :
    (memory.reply (.onObject handle Operation.writeRecord.method arguments)).state.Holds handle
      (.writer state) := by
  have hstate : (memory.reply (.onObject handle Operation.writeRecord.method arguments)).state =
      memory.counting Operation.writeRecord.method := by
    refine (state_invoke h.running .writeRecord (some handle) arguments).trans ?_
    match arguments, harguments with
    | .texts record :: rest, hnone => exact absurd rfl (hnone record rest)
    | [], _ | .text _ :: _, _ | .int _ :: _, _ | .long _ :: _, _ | .boolean _ :: _, _
    | .object _ :: _, _ => rfl
  rw [hstate]
  exact h.counting _

theorem rowTaken_of_ne_texts {target : Nat} {method : Method} {arguments : List Argument}
    (harguments : ∀ record rest, arguments ≠ .texts record :: rest) (schema : Schema) :
    memory.rowTaken handle schema (.onObject target method arguments) = none := by
  match arguments, harguments with
  | .texts record :: rest, hnone => exact absurd rfl (hnone record rest)
  | [], _ | .text _ :: _, _ | .int _ :: _, _ | .long _ :: _, _ | .boolean _ :: _, _
  | .object _ :: _, _ => rfl

theorem rowTaken_of_other {target : Nat} {method : Method}
    (hother : ¬ (target = handle ∧ method = Operation.writeRecord.method))
    (arguments : List Argument) (schema : Schema) :
    memory.rowTaken handle schema (.onObject target method arguments) = none := by
  by_cases htexts : ∃ record rest, arguments = .texts record :: rest
  · obtain ⟨record, rest, rfl⟩ := htexts
    exact if_neg fun hwrite ↦ hother ⟨hwrite.1, hwrite.2.1⟩
  · exact rowTaken_of_ne_texts (fun record rest heq ↦ htexts ⟨record, rest, heq⟩) schema

/-- By a call that leaves it open, a writer takes the row of the call, if there is one. -/
theorem holds_reply (h : memory.Holds handle (.writer state)) (hopen : state.closed = false)
    (hcall : call.LeavesOpen handle) :
    (memory.reply call).state.Holds handle
      (.writer (state.taking (memory.rowTaken handle state.schema call).toList)) := by
  have hspares : call.spares handle → memory.rowTaken handle state.schema call = none →
      (memory.reply call).state.Holds handle
        (.writer (state.taking (memory.rowTaken handle state.schema call).toList)) := by
    intro hspares hnone
    obtain ⟨hobject, hrunning⟩ := object?_reply_of_spares hspares h.object
    rw [hnone]
    exact ⟨hrunning.trans h.running, hobject⟩
  cases call with
  | construct method arguments => exact hspares trivial rfl
  | onClass method arguments => exact hspares trivial rfl
  | release target => exact hspares hcall rfl
  | shutdown => exact hcall.elim
  | onObject target method arguments =>
    by_cases htarget : target = handle
    · subst htarget
      by_cases hwrite : method = Operation.writeRecord.method
      · subst hwrite
        by_cases htexts : ∃ record rest, arguments = .texts record :: rest
        · obtain ⟨record, rest, rfl⟩ := htexts
          exact holds_reply_write h hopen record rest
        · have hnone := fun record rest heq ↦ htexts ⟨record, rest, heq⟩
          rw [rowTaken_of_ne_texts hnone]
          exact holds_reply_write_nothing h hnone
      · rw [rowTaken_of_other fun hboth ↦ hwrite hboth.2]
        exact object?_reply_of_method h arguments hwrite (hcall rfl)
    · exact hspares htarget (rowTaken_of_other (fun hboth ↦ htarget hboth.1) _ _)

/-- After calls that leave it open a writer has taken the rows of the successful writes. -/
theorem holds_after {calls : List Call} (h : memory.Holds handle (.writer state))
    (hopen : state.closed = false) (hcalls : ∀ call ∈ calls, call.LeavesOpen handle) :
    (memory.after calls).Holds handle
      (.writer (state.taking (memory.rowsTaken handle state.schema calls))) := by
  induction calls generalizing memory state with
  | nil => exact h
  | cons call calls ih =>
    obtain ⟨hcall, hcalls⟩ := List.forall_mem_cons.mp hcalls
    have hlater := ih (holds_reply h hopen hcall) hopen hcalls
    have htaking : ∀ first later : List Row,
        (state.taking first).taking later = state.taking (first ++ later) := by
      simp [WriterState.taking]
    rw [htaking] at hlater
    exact hlater

/-- The rows that a writer takes stand for records. -/
theorem exists_parsed?_of_mem_rowsTaken {schema : Schema} {calls : List Call} {row : Row}
    (h : row ∈ memory.rowsTaken handle schema calls) :
    ∃ record, schema.parsed? record = some row := by
  induction calls generalizing memory with
  | nil => cases h
  | cons call calls ih =>
    rcases List.mem_append.mp h with hfirst | hlater
    · have htaken : memory.rowTaken handle schema call = some row := by simpa using hfirst
      unfold rowTaken at htaken
      split at htaken
      · exact ⟨_, (Option.ite_none_right_eq_some.mp htaken).2⟩
      · cases htaken
    · exact ih hlater

/-! ### From the builder to the file -/

/-- A writer that was built has what its plan says. -/
theorem exists_planned_of_reply_buildWriter {plan : WriterPlan}
    (h : memory.Holds builder (.writerBuilder plan))
    (hbuilt : (memory.reply (.onObject builder Operation.buildWriter.method [])).outcome =
      .returned (.object (some handle))) :
    ∃ state, planned plan = .ok state ∧
      (memory.reply (.onObject builder Operation.buildWriter.method [])).state.Holds handle
        (.writer state) := by
  have hcounted := h.counting Operation.buildWriter.method
  have houtcome : (memory.reply (.onObject builder Operation.buildWriter.method [])).outcome =
      (buildWriter builder (memory.counting Operation.buildWriter.method)).outcome :=
    outcome_invoke h.running .buildWriter (some builder) []
  have hstate : (memory.reply (.onObject builder Operation.buildWriter.method [])).state =
      (buildWriter builder (memory.counting Operation.buildWriter.method)).state :=
    state_invoke h.running .buildWriter (some builder) []
  rw [houtcome] at hbuilt
  rw [hstate]
  unfold buildWriter at hbuilt ⊢
  rw [writerBuilder_eq_ok_iff.mpr hcounted.object] at hbuilt ⊢
  dsimp only at hbuilt ⊢
  cases hplanned : planned plan with
  | error error =>
    rw [hplanned] at hbuilt
    cases hbuilt
  | ok state =>
    rw [hplanned] at hbuilt
    cases hbuilt
    exact ⟨state, rfl, holds_pin (hcounted.receiving state.path plan.options.entries).running _⟩

/-- The positions by which a new writer sorts are those of the sort columns of its plan. -/
theorem map_indexOf?_of_planned {plan : WriterPlan} (h : planned plan = .ok state) :
    plan.sortColumns.map state.schema.indexOf? = state.sortPositions.map some := by
  obtain ⟨-, -, -, -, hpositions⟩ := planned_eq_ok h
  refine List.forall₂_eq_eq_eq ▸ ?_
  rw [List.forall₂_map_left_iff, List.forall₂_map_right_iff]
  refine (mapM_eq_ok_iff.mp hpositions).imp fun column position hposition ↦ ?_
  unfold sortPosition at hposition
  split at hposition
  · rename_i found hfound
    rw [hfound, Except.ok.inj hposition]
  · cases hposition

/-- What a new writer commits once it has taken rows: they are sorted by the positions, if there are
any. -/
theorem committed_taking (hnew : state.newestFirst = []) (rows : List Row) :
    WriterState.committed (state.taking rows) = Row.sortRows state.sortPositions rows := by
  have htaken : (state.taking rows).newestFirst.reverse = rows := by
    simp [WriterState.taking, hnew]
  have hpositions : (state.taking rows).sortPositions = state.sortPositions := rfl
  unfold WriterState.committed
  simp only [htaken, hpositions, List.isEmpty_iff]
  by_cases hnone : state.sortPositions = []
  · rw [if_pos hnone, hnone, Row.sortRows_nil]
  · rw [if_neg hnone]

/-- From a builder with a plan a writer is built; then any calls are made that do not close the
writer, give it up or shut the backend down. Closing the writer then succeeds, and it commits one
file to the folder of the plan, which holds the rows of the successful writes among the calls,
sorted by the positions of the sort columns; if no write succeeded it commits nothing. -/
theorem reply_close_after {plan : WriterPlan} {schema : Schema}
    (hplan : memory.Holds builder (.writerBuilder plan)) (hschema : plan.schema = some schema)
    (hbuilt : (memory.reply (.onObject builder Operation.buildWriter.method [])).outcome =
      .returned (.object (some handle)))
    {calls : List Call} (hcalls : ∀ call ∈ calls, call.LeavesOpen handle) :
    let built := (memory.reply (.onObject builder Operation.buildWriter.method [])).state
    let written := built.rowsTaken handle schema calls
    let closing := (built.after calls).reply (.onObject handle Operation.closeWriter.method [])
    closing.outcome = .returned .nothing ∧
      (written = [] → closing.state.store.commits = (built.after calls).store.commits) ∧
      (written ≠ [] → ∃ (commit : Commit) (positions : List Nat),
        closing.state.store.commits = (built.after calls).store.commits ++ [commit] ∧
        plan.path.map Store.folderOf = some commit.folder ∧ commit.schema = schema ∧
        plan.sortColumns.map schema.indexOf? = positions.map some ∧
        commit.rows = Row.sortRows positions written) := by
  intro built written closing
  obtain ⟨state, hplanned, hholds⟩ := exists_planned_of_reply_buildWriter hplan hbuilt
  obtain ⟨hpath, hstateSchema, hnew, hopen, -⟩ := planned_eq_ok hplanned
  obtain rfl : state.schema = schema := Option.some.inj (hstateSchema.symm.trans hschema)
  have hafter : (built.after calls).Holds handle (.writer (state.taking written)) :=
    holds_after hholds hopen hcalls
  obtain ⟨houtcome, hstate⟩ :=
    @Writer.reply_closeWriter ⟨handle, "", none, 0, false⟩ _ _ hafter hopen
  have hcommits : closing.state.store.commits = _ :=
    (congrArg (·.store.commits) hstate).trans commits_closing
  have hempty : (state.taking written).newestFirst = [] ↔ written = [] := by
    simp [WriterState.taking, hnew]
  refine ⟨houtcome, fun hnone ↦ ?_, fun hsome ↦ ?_⟩
  · rw [hcommits, if_pos (hempty.mpr hnone), List.append_nil]
    rfl
  · rw [if_neg (mt hempty.mp hsome)] at hcommits
    refine ⟨_, state.sortPositions, hcommits, ?_, rfl, map_indexOf?_of_planned hplanned,
      committed_taking hnew written⟩
    rw [hpath]
    rfl

/-- The positions of columns are those of fields, about which holds what holds of the columns. -/
theorem forall_field_of_map_indexOf? {schema : Schema} {columns : List String}
    {positions : List Nat} (hpositions : columns.map schema.indexOf? = positions.map some)
    {property : Field → Prop} (h : ∀ column ∈ columns, ∀ position field,
      schema.indexOf? column = some position → schema.field? position = some field →
        property field) :
    ∀ position ∈ positions, ∃ field, schema.field? position = some field ∧ property field := by
  intro position hposition
  have hmem : some position ∈ columns.map schema.indexOf? := by
    rw [hpositions]
    exact List.mem_map_of_mem hposition
  obtain ⟨column, hcolumn, hindex⟩ := List.mem_map.mp hmem
  obtain ⟨field, hfield⟩ := schema.exists_field?_of_indexOf? hindex
  exact ⟨field, hfield, h column hcolumn position field hindex hfield⟩

/-- Sorting as a writer is closed is a stable sort. From a builder with a plan a writer is built;
then any calls are made that do not close the writer, give it up or shut the backend down. If the
sort columns of the plan are sorted exactly, closing the writer succeeds. It commits one file to the
folder of the plan, which holds the rows of the successful writes among the calls, stably sorted by
the sort columns; if no write succeeded it commits nothing. -/
theorem closing_files_stable_sort {plan : WriterPlan} {schema : Schema}
    (hplan : memory.Holds builder (.writerBuilder plan)) (hschema : plan.schema = some schema)
    (hsorts : schema.SortsExactlyBy plan.sortColumns)
    (hbuilt : (memory.reply (.onObject builder Operation.buildWriter.method [])).outcome =
      .returned (.object (some handle)))
    (calls : List Call) (hcalls : ∀ call ∈ calls, call.LeavesOpen handle) :
    let built := (memory.reply (.onObject builder Operation.buildWriter.method [])).state
    let written := built.rowsTaken handle schema calls
    let closing := (built.after calls).reply (.onObject handle Operation.closeWriter.method [])
    closing.outcome = .returned .nothing ∧
      (written = [] → closing.state.store.commits = (built.after calls).store.commits) ∧
      (written ≠ [] → ∃ (commit : Commit) (positions : List Nat),
        closing.state.store.commits = (built.after calls).store.commits ++ [commit] ∧
        plan.path.map Store.folderOf = some commit.folder ∧ commit.schema = schema ∧
        plan.sortColumns.map schema.indexOf? = positions.map some ∧
        IsStableSort (Row.Precedes positions) (Row.Ties positions) written commit.rows) := by
  intro built written closing
  obtain ⟨houtcome, hnone, hsome⟩ := reply_close_after hplan hschema hbuilt hcalls
  refine ⟨houtcome, hnone, fun hwritten ↦ ?_⟩
  obtain ⟨commit, positions, hcommits, hfolder, hcommitSchema, hpositions, hrows⟩ :=
    hsome hwritten
  refine ⟨commit, positions, hcommits, hfolder, hcommitSchema, hpositions, ?_⟩
  rw [hrows]
  exact schema.isStableSort_sortRows (forall_field_of_map_indexOf? hpositions hsorts)
    fun row hrow ↦ exists_parsed?_of_mem_rowsTaken hrow

/-- An empty backend on which a writer has been built from a plan. -/
def freshlyBuilt (plan : WriterPlan) : Memory :=
  (reply ⟨.empty, #[some (.writerBuilder plan)], false⟩
    (.onObject 1 Operation.buildWriter.method [])).state

/-- Writes on the writer of a freshly built backend. -/
def writesOf (records : List (List String)) : List Call :=
  records.map fun record ↦ .onObject 2 Operation.writeRecord.method [.texts record]

/-- A plan for sizes and names, sorted by size. -/
def sizesPlan : WriterPlan :=
  { WriterPlan.empty with
    path := some "t", schema := some ⟨[⟨"size", .int, none⟩, ⟨"name", .string, none⟩]⟩,
    writtenBy := some "w", sortColumns := ["Size"] }

/-- Three records are written, and one that is refused; two of them tie in the sort column. -/
theorem closing_files_stable_sort_with_tie :
    let written := (freshlyBuilt sizesPlan).after
      (writesOf [["2", "b"], ["1", "c"], ["x", "d"], ["02", "a"]])
    let closing := written.reply (.onObject 2 Operation.closeWriter.method [])
    ∃ commit : Commit, closing.state.store.commits = written.store.commits ++ [commit] ∧
      IsStableSort (Row.Precedes [0]) (Row.Ties [0])
        [[.int 2, .string "b"], [.int 1, .string "c"], [.int 2, .string "a"]] commit.rows := by
  have hsorts : Schema.SortsExactlyBy ⟨[⟨"size", .int, none⟩, ⟨"name", .string, none⟩]⟩
      ["Size"] := by
    intro column _ position field _ hfield
    have hmem := List.mem_of_getElem? hfield
    simp only [List.mem_cons, List.not_mem_nil, or_false] at hmem
    rcases hmem with rfl | rfl <;> exact ⟨nofun, nofun, nofun⟩
  obtain ⟨-, -, hfiled⟩ := @closing_files_stable_sort
    ⟨.empty, #[some (.writerBuilder sizesPlan)], false⟩ 2 1 sizesPlan _ ⟨rfl, rfl⟩ rfl hsorts
    (by decide +kernel)
    (writesOf [["2", "b"], ["1", "c"], ["x", "d"], ["02", "a"]]) (by decide +kernel)
  obtain ⟨commit, positions, hcommits, -, -, hpositions, hstable⟩ := hfiled nofun
  have hcolumns : [some 0] = positions.map some := Eq.trans (by decide +kernel) hpositions
  obtain rfl : positions = [0] := List.map_injective_iff.mpr (Option.some_injective _) hcolumns.symm
  exact ⟨commit, hcommits, hstable⟩

end Memory

end ColumnStore
