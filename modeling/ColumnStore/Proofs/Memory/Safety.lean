import ColumnStore.Proofs.Memory.Indexed
import ColumnStore.Proofs.Reader.Projection
import ColumnStore.Proofs.Store.Files
import ColumnStore.Proofs.Value.Sorting
import ColumnStore.Proofs.Writer.Building

/-!
# Calls that do not break off

A call breaks off if it reaches for a row or a cell that is not there, or if it sorts by an order
that is none. Over tables whose rows are as wide as their schemas no call does, whatever is called
and with whatever arguments, as long as writers add rows of that width and sort by no column of
floating-point numbers. This holds for the backend and for the one that keeps all rows of its
readers.
-/

set_option autoImplicit false

namespace ColumnStore

/-- Every row of a table has one cell for each column of the table's schema. -/
def Store.IsEven (store : Store) : Prop :=
  ∀ path schema rows, store.table? path = some (schema, rows) →
    ∀ row ∈ rows, row.length = schema.length

/-- A writer may commit its rows to a store: the table that they are added to, if there is one, has
as many columns, and none of the columns that they are sorted by holds floating-point numbers. -/
def WriterState.IsOrderly (writer : WriterState) (store : Store) : Prop :=
  (∀ table ∈ store.table? writer.path, table.1.length = writer.schema.length) ∧
    ∀ position ∈ writer.sortPositions, ∀ field ∈ writer.schema.field? position,
      field.type ≠ .float ∧ field.type ≠ .double

instance (writer : WriterState) (store : Store) : Decidable (writer.IsOrderly store) :=
  inferInstanceAs (Decidable (_ ∧ _))

/-- What holds of a writer at all times: it took rows that records stand for, and it sorts by
columns that it has. Other objects are not asked for anything. -/
def ManagedObject.IsSound : ManagedObject → Prop
  | .writer state =>
    (∀ row ∈ state.newestFirst, ∃ record, state.schema.parsed? record = some row) ∧
      ∀ position ∈ state.sortPositions, position < state.schema.length
  | _ => True

namespace Memory

/-- The writer that a call closes, if it is open and has rows. -/
def closing? (memory : Memory) : Call → Option WriterState
  | .onObject handle method _ =>
    if method = Operation.closeWriter.method then
      match memory.object? handle with
      | some (.writer writer) =>
        if writer.closed = false ∧ writer.newestFirst.isEmpty = false then some writer else none
      | _ => none
    else none
  | _ => none

/-- Whatever writer the call closes with rows, it may commit them. -/
def Orderly (memory : Memory) (call : Call) : Prop :=
  ∀ writer ∈ memory.closing? call, writer.IsOrderly memory.store

instance (memory : Memory) (call : Call) : Decidable (memory.Orderly call) :=
  inferInstanceAs (Decidable (∀ writer ∈ _, _))

/-- Every call is orderly when its turn comes. -/
def OrderlyAll (memory : Memory) : List Call → Prop
  | [] => True
  | call :: calls => memory.Orderly call ∧ OrderlyAll (memory.reply call).state calls

instance decidableOrderlyAll : (memory : Memory) → (calls : List Call) →
    Decidable (memory.OrderlyAll calls)
  | _, [] => inferInstanceAs (Decidable True)
  | memory, call :: calls =>
    have := decidableOrderlyAll (memory.reply call).state calls
    inferInstanceAs (Decidable (memory.Orderly call ∧ _))

/-- All tables are even and all writers are sound. -/
structure Sound (memory : Memory) : Prop where
  even : memory.store.IsEven
  objects : memory.All ManagedObject.IsSound

end Memory

/-! ### Even tables -/

namespace Store

variable {store : Store} {path : String} {schema : Schema} {rows : List Row}

/-- A row of a table is a row of a commit to its folder. -/
theorem isEven_iff : store.IsEven ↔ ∀ path first, store.firstCommit? path = some first →
    ∀ commit ∈ store.commitsTo path, ∀ row ∈ commit.rows, row.length = first.schema.length := by
  constructor
  · intro h path first hfirst commit hcommit row hrow
    have htable : store.table? path = some (first.schema, store.rows path) := by
      rw [table?_eq, hfirst, Option.map_some]
    refine h _ _ _ htable row ?_
    rw [rows_eq]
    exact List.mem_flatten.mpr ⟨commit.rows, List.mem_map_of_mem hcommit, hrow⟩
  · intro h path schema rows htable row hrow
    rw [table?_eq, Option.map_eq_some_iff] at htable
    obtain ⟨first, hfirst, hpair⟩ := htable
    cases hpair
    rw [rows_eq] at hrow
    obtain ⟨_, hmem, hrow⟩ := List.mem_flatten.mp hrow
    obtain ⟨commit, hcommit, rfl⟩ := List.mem_map.mp hmem
    exact h path first hfirst commit hcommit row hrow

theorem isEven_empty : empty.IsEven := by
  rw [isEven_iff]
  intro path first hfirst
  cases hfirst

theorem IsEven.of_commits (h : store.IsEven) {other : Store}
    (hcommits : other.commits = store.commits) : other.IsEven := by
  rw [isEven_iff] at h ⊢
  simpa [firstCommit?, commitsTo, hcommits] using h

/-- A commit is added to the commits of its own folder and to no others. -/
theorem commitsTo_commit (store : Store) (path : String) (schema : Schema) (rows : List Row)
    (writtenBy other : String) :
    (store.commit path schema rows writtenBy).commitsTo other =
      if folderOf path = folderOf other then
        store.commitsTo other ++ [store.nextCommit path schema rows writtenBy]
      else store.commitsTo other := by
  have hcommits : (store.commit path schema rows writtenBy).commitsTo other =
      store.commitsTo other ++
        [store.nextCommit path schema rows writtenBy].filter (·.folder == folderOf other) :=
    List.filter_append _ _
  rw [hcommits]
  by_cases hfolder : folderOf path = folderOf other <;> simp [nextCommit, hfolder]

/-- The first commit to a folder stays the first. -/
theorem firstCommit?_commit {other : String} (hfolder : folderOf path = folderOf other)
    (writtenBy : String) :
    (store.commit path schema rows writtenBy).firstCommit? other =
      some ((store.firstCommit? other).getD (store.nextCommit path schema rows writtenBy)) := by
  rw [firstCommit?, commitsTo_commit, if_pos hfolder, firstCommit?]
  cases store.commitsTo other with
  | nil => rfl
  | cons first later => rfl

/-- Rows that are as wide as the table that they are added to keep it even. -/
theorem IsEven.commit (h : store.IsEven) (hrows : ∀ row ∈ rows, row.length = schema.length)
    (htable : ∀ table ∈ store.table? path, table.1.length = schema.length) (writtenBy : String) :
    (store.commit path schema rows writtenBy).IsEven := by
  rw [isEven_iff] at h ⊢
  intro other first hfirst commit hcommit row hrow
  by_cases hfolder : folderOf path = folderOf other
  · rw [firstCommit?_commit hfolder] at hfirst
    rw [commitsTo_commit, if_pos hfolder] at hcommit
    have hsame : store.firstCommit? path = store.firstCommit? other := by
      rw [firstCommit?, firstCommit?, commitsTo, commitsTo, hfolder]
    cases hbefore : store.firstCommit? other with
    | none =>
      have hempty : store.commitsTo other = [] := List.head?_eq_none_iff.mp hbefore
      rw [hbefore] at hfirst
      rw [hempty, List.nil_append] at hcommit
      cases hfirst
      rw [List.mem_singleton.mp hcommit] at hrow
      exact hrows row hrow
    | some oldest =>
      rw [hbefore] at hfirst
      cases hfirst
      rcases List.mem_append.mp hcommit with hearlier | hnew
      · exact h other oldest hbefore commit hearlier row hrow
      · have hwidth : oldest.schema.length = schema.length := by
          refine htable (oldest.schema, store.rows path) ?_
          rw [Option.mem_def, table?_eq, hsame, hbefore, Option.map_some]
        rw [List.mem_singleton.mp hnew] at hrow
        exact (hrows row hrow).trans hwidth.symm
  · rw [firstCommit?, commitsTo_commit, if_neg hfolder] at hfirst
    rw [commitsTo_commit, if_neg hfolder] at hcommit
    exact h other first hfirst commit hcommit row hrow

end Store

/-! ### Sound states -/

variable {schema : Schema} {row : Row} {record : List String} {writer : WriterState}

theorem Schema.length_of_parsed? (h : schema.parsed? record = some row) :
    row.length = schema.length :=
  (schema.forall₂_isOf_of_parsed? h).length_eq.symm

theorem ManagedObject.isSound_of_holdsRows {object : ManagedObject}
    (h : object.holdsRows = false) : object.IsSound := by
  cases object with
  | writer => cases h
  | _ => trivial

namespace Memory

variable {memory before after : Memory} {operation : Operation} {outcome : Outcome Returned}
  {handle : Nat} {call : Call}

/-- A column that is sorted by is found. -/
theorem isSound_of_planned {plan : WriterPlan} (h : planned plan = .ok writer) :
    (ManagedObject.writer writer).IsSound := by
  obtain ⟨-, -, hnone, -, hpositions⟩ := planned_eq_ok h
  refine ⟨by simp [hnone], fun position hposition ↦ ?_⟩
  obtain ⟨column, -, hcolumn⟩ := exists_of_mem_forall₂ (mapM_eq_ok_iff.mp hpositions) hposition
  unfold sortPosition at hcolumn
  split at hcolumn
  · rename_i found hfound
    cases hcolumn
    exact (List.findIdx?_eq_some_iff_getElem.mp hfound).1
  · cases hcolumn

theorem sound_start {store : Store} (h : store.IsEven) : (start store).Sound :=
  ⟨h, all_start store⟩

/-- An orderly operation keeps the state sound. -/
theorem Effect.sound (heffect : Effect operation handle before outcome after) (h : before.Sound)
    (horderly : operation = .closeWriter → ∀ writer,
      before.object? handle = some (.writer writer) → writer.closed = false →
        writer.newestFirst ≠ [] → writer.IsOrderly before.store) : after.Sound := by
  have hput : ∀ {object : ManagedObject}, object.IsSound → (before.put handle object).Sound :=
    fun hobject ↦ ⟨h.even, h.objects.put handle hobject⟩
  have hpin : ∀ {object : ManagedObject} {path : String} {entries : List (String × String)},
      object.IsSound → (({ before with store := before.store.receive path entries } :
        Memory).pin object).Sound :=
    fun hobject ↦ ⟨h.even.of_commits rfl, h.objects.pin hobject⟩
  have hreader : ∀ reader : ReaderState, (before.put handle (.reader reader)).Sound :=
    fun _ ↦ hput trivial
  have hclosed : ∀ {writer : WriterState}, before.object? handle = some (.writer writer) →
      (ManagedObject.writer { writer with newestFirst := [], closed := true }).IsSound :=
    fun hwriter ↦ ⟨by simp, (h.objects handle _ hwriter).2⟩
  cases heffect with
  | refused | answered => exact h
  | unbuilt | broken => exact ⟨h.even.of_commits rfl, h.objects⟩
  | made object _ hrows =>
    exact ⟨h.even, h.objects.pin (ManagedObject.isSound_of_holdsRows hrows)⟩
  | described _ object _ _ hrows =>
    exact ⟨h.even, h.objects.pin (ManagedObject.isSound_of_holdsRows hrows)⟩
  | describedAll _ objects _ _ hrows =>
    exact ⟨h.even.of_commits (by rw [store_pinAll]),
      h.objects.pinAll fun object hmem ↦ ManagedObject.isSound_of_holdsRows (hrows object hmem)⟩
  | settled old new _ _ hrows => exact hput (ManagedObject.isSound_of_holdsRows hrows.2)
  | opened => exact hpin trivial
  | tookRow => exact ⟨h.even, (hreader _).objects.pin trivial⟩
  | tookRows =>
    refine ⟨h.even.of_commits (by rw [store_pinAll]; rfl), (hreader _).objects.pinAll ?_⟩
    exact List.forall_mem_map.mpr fun _ _ ↦ trivial
  | closedReader => exact hreader _
  | began plan _ writer hwriter => exact hpin (isSound_of_planned hwriter)
  | wrote writer hwriter _ record row hread =>
    obtain ⟨hrows, hpositions⟩ := h.objects handle _ hwriter
    refine hput ⟨?_, hpositions⟩
    exact List.forall_mem_cons.mpr ⟨⟨record, readRecord_eq_ok_iff.mp hread⟩, hrows⟩
  | closedEmpty writer hwriter => exact hput (hclosed hwriter)
  | committed writer hwriter hopen hrows hoperation =>
    refine ⟨?_, (hput (hclosed hwriter)).objects⟩
    refine h.even.commit (fun row hrow ↦ ?_)
      (horderly hoperation writer hwriter hopen hrows).1 writer.writtenBy
    obtain ⟨record, hrecord⟩ := (h.objects handle _ hwriter).1 row
      ((committed_perm writer).mem_iff.mp hrow)
    exact Schema.length_of_parsed? hrecord

/-- Closing an open writer with rows is what an orderly call asks about. -/
theorem Orderly.isOrderly {handle : Nat} {arguments : List Argument}
    (h : memory.Orderly (.onObject handle Operation.closeWriter.method arguments))
    (hwriter : memory.object? handle = some (.writer writer)) (hopen : writer.closed = false)
    (hrows : writer.newestFirst ≠ []) : writer.IsOrderly memory.store := by
  refine h writer ?_
  rw [Option.mem_def, closing?, if_pos rfl, hwriter]
  exact if_pos ⟨hopen, List.isEmpty_eq_false_iff.mpr hrows⟩

/-- An orderly call keeps the state sound. -/
theorem Sound.reply (h : memory.Sound) (horderly : memory.Orderly call) :
    (memory.reply call).state.Sound := by
  refine reply_keeps_of ?_ fun after hstore hloses ↦
    ⟨h.even.of_commits (by rw [hstore]), h.objects.of_loses hloses⟩
  intro kind target method arguments hinvokes
  rcases invoke_cases kind target method arguments memory with
    ⟨error, -, hstate⟩ | ⟨operation, rfl, rfl, heffect⟩
  · rw [hstate]
    exact h
  · refine heffect.sound ⟨h.even.of_commits rfl, h.objects⟩ ?_
    rintro rfl writer hwriter hopen hrows
    cases call with
    | onObject handle called given =>
      obtain ⟨-, rfl, hcalled⟩ := hinvokes
      subst hcalled
      exact horderly.isOrderly hwriter hopen hrows
    | construct | onClass => cases hinvokes.1
    | release | shutdown => exact hinvokes.elim

/-! ### Calls that end -/

theorem outcome_buildReader_ne_crashed (h : memory.store.IsEven) (handle : Nat) :
    (buildReader handle memory).outcome ≠ .crashed := by
  unfold buildReader
  split
  · rintro ⟨⟩
  · dsimp only
    split
    · rintro ⟨⟩
    · split
      · rintro ⟨⟩
      · rename_i schema rows htable
        have hwidths := h.of_commits rfl _ schema rows htable
        split
        · rintro ⟨⟩
        · rename_i columns _
          unfold openProjected
          split
          · rintro ⟨⟩
          · rintro ⟨⟩
          · rename_i projected hproject
            obtain ⟨picked, hpicked, -⟩ := exists_projectAll hproject
              fun row hrow ↦ hasCells_of_length (hwidths row hrow)
            rw [hpicked]
            rintro ⟨⟩

/-- Only building a reader can break off. -/
theorem outcome_perform_ne_crashed (h : memory.store.IsEven) (operation : Operation)
    (handle : Nat) (arguments : List Argument) :
    (memory.perform operation handle arguments).outcome ≠ .crashed := by
  intro hcrashed
  have heffect := effect_perform operation handle arguments memory
  rw [hcrashed] at heffect
  generalize (memory.perform operation handle arguments).state = after at heffect
  cases heffect with
  | broken _ _ hoperation =>
    subst hoperation
    exact outcome_buildReader_ne_crashed h handle hcrashed

theorem outcome_invoke_ne_crashed (h : memory.store.IsEven) (kind : MethodKind)
    (target : Option Handle) (method : Method) (arguments : List Argument) :
    (memory.invoke kind target method arguments).outcome ≠ .crashed := by
  unfold invoke
  split
  · rintro ⟨⟩
  · split
    · rintro ⟨⟩
    · split
      · rintro ⟨⟩
      · have hcounted : (memory.counting method).store.IsEven := h.of_commits rfl
        exact outcome_perform_ne_crashed hcounted _ _ _

theorem outcome_andThen_ne_crashed {σ α β : Type} {reply : Reply σ α}
    {next : α → Except CallError β} (h : reply.outcome ≠ .crashed) :
    (reply.andThen next).outcome ≠ .crashed := by
  obtain ⟨outcome, state, events⟩ := reply
  cases outcome with
  | returned result => cases hnext : next result <;> simp [Reply.andThen, hnext]
  | failed error => simp [Reply.andThen]
  | crashed => exact absurd rfl h

/-- Over even tables no call breaks off. -/
theorem outcome_reply_ne_crashed (h : memory.store.IsEven) (call : Call) :
    (memory.reply call).outcome ≠ .crashed := by
  cases call with
  | construct method arguments =>
    exact outcome_andThen_ne_crashed
      (outcome_andThen_ne_crashed (outcome_invoke_ne_crashed h _ _ _ _))
  | onClass method arguments => exact outcome_invoke_ne_crashed h _ _ _ _
  | onObject handle method arguments => exact outcome_invoke_ne_crashed h _ _ _ _
  | release handle =>
    refine outcome_andThen_ne_crashed ?_
    show (release handle memory).outcome ≠ .crashed
    unfold release
    split
    · rintro ⟨⟩
    · split <;> rintro ⟨⟩
  | shutdown =>
    refine outcome_andThen_ne_crashed ?_
    show memory.shutdown.outcome ≠ .crashed
    unfold shutdown
    split <;> rintro ⟨⟩

/-- The rows of a sound writer that may commit them can be sorted. -/
theorem sortable_of_isOrderly {store : Store} (hsound : (ManagedObject.writer writer).IsSound)
    (horderly : writer.IsOrderly store) :
    Row.Sortable writer.sortPositions writer.newestFirst := by
  obtain ⟨hrows, hpositions⟩ := hsound
  have horders := @Schema.ordersOn_compareAt writer.schema writer.sortPositions (by
    intro position hposition
    have hfield := List.getElem?_eq_getElem (hpositions position hposition)
    exact ⟨_, hfield, horderly.2 position hposition _ hfield⟩)
  refine ⟨?_, ?_, ?_⟩
  · intro row hrow position hposition
    obtain ⟨record, hrecord⟩ := hrows row hrow
    rw [Schema.length_of_parsed? hrecord]
    exact hpositions position hposition
  · exact fun first hfirst second hsecond ↦
      horders.swap (hrows first hfirst) (hrows second hsecond)
  · exact fun first hfirst second hsecond third hthird ↦
      horders.isLE_trans (hrows first hfirst) (hrows second hsecond) (hrows third hthird)

/-- An orderly call of a sound backend closes no writer whose rows cannot be sorted. -/
theorem Sound.sortsWhenClosing (h : memory.Sound) (horderly : memory.Orderly call) :
    Indexed.SortsWhenClosing memory call := by
  rintro handle arguments writer rfl hwriter hopen
  have hsound := h.objects handle _ hwriter
  by_cases hrows : writer.newestFirst = []
  · rw [hrows]
    simp [Row.Sortable]
  · exact sortable_of_isOrderly hsound (horderly.isOrderly hwriter hopen hrows)

end Memory

/-! ### Runs -/

namespace Indexed

variable {machine : Indexed} {calls earlier later : List Call} {call : Call}

/-- After orderly calls the machine is where the backend is, and the next call that is orderly is
answered alike. -/
theorem Agrees.follows_after (h : machine.Agrees) (hsound : machine.memory.Sound)
    (horderly : machine.memory.OrderlyAll (earlier ++ call :: later)) :
    (machine.after earlier).memory = machine.memory.after earlier ∧
      (machine.memory.after earlier).Sound ∧
        Follows ((machine.after earlier).reply call)
          ((machine.memory.after earlier).reply call) := by
  induction earlier generalizing machine with
  | nil =>
    obtain ⟨hcall, -⟩ := horderly
    exact ⟨rfl, hsound, h.follows_reply (hsound.sortsWhenClosing hcall)⟩
  | cons first earlier ih =>
    obtain ⟨hcall, hrest⟩ := horderly
    have hfollows := h.follows_reply (hsound.sortsWhenClosing hcall)
    rw [Memory.after_cons, ← hfollows.memory]
    rw [← hfollows.memory] at hrest
    refine ih hfollows.agrees ?_ hrest
    rw [hfollows.memory]
    exact hsound.reply hcall

end Indexed

/-- Whatever is called over even tables, in whatever order and with whatever arguments, as long as
writers commit only rows as wide as the table and sort by no column of floating-point numbers: no
call breaks off. The same calls on a backend that keeps the rows of its readers in one piece have
the same answers, so that no difference, no slice, no projection and no sorting goes out of range.
-/
theorem no_call_breaks_off {store : Store} (heven : store.IsEven) {calls : List Call}
    (horderly : (Memory.start store).OrderlyAll calls) {earlier later : List Call} {call : Call}
    (hcalls : calls = earlier ++ call :: later) :
    let memory := (Memory.start store).after earlier
    let machine := (Indexed.start store).after earlier
    machine.memory = memory ∧ (machine.reply call).1 = (memory.reply call).outcome ∧
      (memory.reply call).outcome ≠ .crashed := by
  intro memory machine
  subst hcalls
  obtain ⟨hmemory, hsound, hfollows⟩ := (Indexed.agrees_start store).follows_after
    (Memory.sound_start heven) horderly
  exact ⟨hmemory, hfollows.outcome, Memory.outcome_reply_ne_crashed hsound.even call⟩

/-- A table of one row. -/
def sampleTable : Store :=
  Store.empty.seed "t" ⟨[.scalar "a" .decimal, .scalar "b" .string]⟩ [[.decimal "2", .string "x"]]

/-- Calls of a writer that adds two rows to the table, sorted by both columns, and of a reader that
asks for one column and for more rows than there are, also once it has been closed. -/
def sampleCalls : List Call :=
  [.onClass Operation.newWriterBuilder.method [],
    .onObject 1 Operation.setOutputPath.method [.text "t"],
    .onObject 1 Operation.setCsvSchema.method
      [.text "[\x7b\"a\":\"decimal\"\x7d,\x7b\"b\":\"string\"\x7d]"],
    .onObject 1 Operation.setWrittenBy.method [.text "w"],
    .onObject 1 Operation.setSortColumns.method [.texts ["a", "b"]],
    .onObject 1 Operation.buildWriter.method [],
    .onObject 2 Operation.writeRecord.method [.texts ["10", "y"]],
    .onObject 2 Operation.writeRecord.method [.texts ["9", "z"]],
    .onObject 2 Operation.closeWriter.method [],
    .onClass Operation.newReaderBuilder.method [.text "t"],
    .onObject 3 Operation.setProjection.method [.texts ["b"]],
    .onObject 3 Operation.buildReader.method [],
    .onObject 4 Operation.readRows.method [.int 2],
    .onObject 4 Operation.readRows.method [.int 5],
    .onObject 4 Operation.closeReader.method [],
    .onObject 4 Operation.readRow.method [],
    .shutdown]

/-- The reader that has two of its three rows behind it is asked for five more. -/
theorem no_call_breaks_off_on_sample :
    sampleTable.IsEven ∧ (Memory.start sampleTable).OrderlyAll sampleCalls ∧
      (((Indexed.start sampleTable).after (sampleCalls.take 13)).reply
        (.onObject 4 Operation.readRows.method [.int 5])).1 ≠ .crashed := by
  have heven : sampleTable.IsEven := by
    refine Store.isEven_empty.commit ?_ ?_ _
    · decide
    · decide
  have horderly : (Memory.start sampleTable).OrderlyAll sampleCalls := by
    decide +kernel
  have hcalls : sampleCalls = sampleCalls.take 13 ++
      .onObject 4 Operation.readRows.method [.int 5] :: sampleCalls.drop 14 := rfl
  obtain ⟨-, hsame, hends⟩ := no_call_breaks_off heven horderly hcalls
  exact ⟨heven, horderly, hsame ▸ hends⟩

end ColumnStore
