import ColumnStore.Proofs.Store.Folder
import ColumnStore.Proofs.Value.Typing
import ColumnStore.Proofs.Writer.Building

/-!
# Where rows come from

A writer reads every row that it keeps from a record, by its own schema, and commits what it has
kept under that schema. So what holds of all rows that records stand for holds of every row that was
committed since the start, whatever is called and in whatever order. `Store.WrittenWith` says of a
table that all its commits have one schema and all its rows come from records of it; a table that
was not there at the start was written like this if its writers agreed on the schema.
-/

set_option autoImplicit false

namespace ColumnStore

namespace Memory

/-- Something holds of the rows that writers keep and of the rows of all commits but the old ones,
under the schema that they were read with. -/
structure Stores (holds : Schema → Row → Prop) (old : List Commit) (memory : Memory) : Prop where
  writers : ∀ {handle : Nat} {writer : WriterState},
    memory.object? handle = some (.writer writer) →
      ∀ row ∈ writer.newestFirst, holds writer.schema row
  commits : ∀ commit ∈ memory.store.commits,
    commit ∈ old ∨ ∀ row ∈ commit.rows, holds commit.schema row

variable {holds : Schema → Row → Prop} {old : List Commit} {memory before later : Memory}
  {operation : Operation} {outcome : Outcome Returned} {handle : Nat}

theorem stores_start (store : Store) : (start store).Stores holds store.commits where
  writers h := by simp [start, object?] at h
  commits _ h := .inl h

/-- A change keeps the invariant if it adds neither writers nor commits. -/
theorem Stores.of_eq (h : before.Stores holds old)
    (hwriters : ∀ {other : Nat} {writer : WriterState},
      later.object? other = some (.writer writer) →
        before.object? other = some (.writer writer) ∨
          ∀ row ∈ writer.newestFirst, holds writer.schema row)
    (hcommits : later.store.commits = before.store.commits) : later.Stores holds old where
  writers hwriter := (hwriters hwriter).elim h.writers id
  commits := hcommits ▸ h.commits

/-- A new state of a writer keeps the invariant if the rows that it keeps do. -/
theorem Stores.put (h : before.Stores holds old) {object : ManagedObject}
    (hobject : ∀ writer, object = .writer writer →
      ∀ row ∈ writer.newestFirst, holds writer.schema row) :
    (before.put handle object).Stores holds old := by
  refine h.of_eq (fun hwriter ↦ ?_) rfl
  rcases object?_put_or hwriter with hold | hnew
  · exact .inl hold
  · exact .inr (hobject _ hnew.symm)

theorem Stores.pin (h : before.Stores holds old) {object : ManagedObject}
    (hobject : ∀ writer, object = .writer writer →
      ∀ row ∈ writer.newestFirst, holds writer.schema row) :
    (before.pin object).Stores holds old := by
  refine h.of_eq (fun hwriter ↦ ?_) rfl
  rcases object?_pin_or hwriter with hold | hnew
  · exact .inl hold
  · exact .inr (hobject _ hnew.symm)

theorem Stores.pinAll (h : before.Stores holds old) {objects : List ManagedObject}
    (hobjects : ∀ writer, ManagedObject.writer writer ∉ objects) :
    (before.pinAll objects).Stores holds old := by
  refine h.of_eq (fun hwriter ↦ ?_) (by rw [store_pinAll])
  rcases object?_pinAll_or hwriter with hold | hnew
  · exact .inl hold
  · exact absurd hnew (hobjects _)

/-- What an operation does keeps the invariant, if it holds of all rows that records stand for. -/
theorem Effect.stores
    (hparsed : ∀ {schema : Schema} {record : List String} {row : Row},
      schema.parsed? record = some row → holds schema row)
    (heffect : Effect operation handle before outcome later) (h : before.Stores holds old) :
    later.Stores holds old := by
  -- Objects without rows are no writers.
  have hnone : ∀ {object : ManagedObject}, object.holdsRows = false →
      ∀ writer, object = .writer writer → ∀ row ∈ writer.newestFirst, holds writer.schema row := by
    rintro object hrows writer rfl
    cases hrows
  have hclosed : ∀ writer : WriterState, (before.put handle
      (.writer { writer with newestFirst := [], closed := true })).Stores holds old := by
    refine fun writer ↦ h.put ?_
    rintro _ ⟨⟩
    exact List.forall_mem_nil _
  cases heffect with
  | refused | answered => exact h
  | unbuilt | broken => exact ⟨h.writers, h.commits⟩
  | made object _ hrows => exact h.pin (hnone hrows)
  | described _ object _ _ hrows => exact h.pin (hnone hrows)
  | describedAll _ objects _ _ hrows =>
    refine h.pinAll fun writer hmem ↦ ?_
    cases hrows _ hmem
  | settled old new _ _ hrows => exact h.put (hnone hrows.2)
  | opened plan =>
    have hreceived : ({ before with
        store := before.store.receive plan.path plan.options.entries } : Memory).Stores holds old :=
      ⟨h.writers, h.commits⟩
    exact hreceived.pin (by rintro _ ⟨⟩)
  | tookRow reader => exact Stores.pin (h.put (by rintro _ ⟨⟩)) (by rintro _ ⟨⟩)
  | tookRows reader =>
    refine Stores.pinAll (h.put (by rintro _ ⟨⟩)) fun writer hmem ↦ ?_
    obtain ⟨row, -, hrow⟩ := List.mem_map.mp hmem
    cases hrow
  | closedReader _ reader => exact h.put (by rintro _ ⟨⟩)
  | began plan _ writer hwriter =>
    have hreceived : ({ before with
        store := before.store.receive writer.path plan.options.entries } : Memory).Stores holds
          old := ⟨h.writers, h.commits⟩
    refine hreceived.pin ?_
    rintro _ ⟨⟩
    rw [(planned_eq_ok hwriter).2.2.1]
    exact List.forall_mem_nil _
  | wrote writer hwriter _ record row hread =>
    refine h.put ?_
    rintro _ ⟨⟩
    exact List.forall_mem_cons.mpr ⟨hparsed (readRecord_eq_ok_iff.mp hread), h.writers hwriter⟩
  | closedEmpty writer => exact hclosed writer
  | committed writer hwriter =>
    refine ⟨(hclosed writer).writers, fun commit hcommit ↦ ?_⟩
    rcases List.mem_append.mp hcommit with hold | hnew
    · exact h.commits commit hold
    · rw [List.mem_singleton.mp hnew]
      exact .inr fun row hrow ↦ h.writers hwriter row ((committed_perm writer).mem_iff.mp hrow)

/-- Every call keeps the invariant. -/
theorem Stores.reply
    (hparsed : ∀ {schema : Schema} {record : List String} {row : Row},
      schema.parsed? record = some row → holds schema row)
    (h : memory.Stores holds old) (call : Call) : (memory.reply call).state.Stores holds old := by
  refine reply_keeps (fun kind target method arguments ↦ ?_) (fun after hstore hloses ↦ ?_) call
  · rcases invoke_cases kind target method arguments memory with
      ⟨error, -, hstate⟩ | ⟨operation, -, -, heffect⟩
    · rw [hstate]
      exact h
    · exact heffect.stores hparsed ⟨h.writers, h.commits⟩
  · exact h.of_eq (fun hwriter ↦ .inl (hloses _ _ hwriter)) (by rw [hstore])

/-- The invariant holds after any calls. -/
theorem Stores.after (h : memory.Stores holds old)
    (hparsed : ∀ {schema : Schema} {record : List String} {row : Row},
      schema.parsed? record = some row → holds schema row) (calls : List Call) :
    (memory.after calls).Stores holds old :=
  after_keeps (Stores.reply hparsed) h calls

end Memory

/-! ### Tables of one schema -/

/-- The table at a path was written with one schema: there are commits to its folder, all of them
have the schema, and records of the schema stand for all their rows. -/
structure Store.WrittenWith (store : Store) (path : String) (schema : Schema) : Prop where
  nonempty : store.commitsTo path ≠ []
  agrees : ∀ commit ∈ store.commitsTo path, commit.schema = schema
  parsed : ∀ row ∈ store.rows path, ∃ record, schema.parsed? record = some row

/-- The table has the schema that it was written with. -/
theorem Store.WrittenWith.table?_eq {store : Store} {path : String} {schema : Schema}
    (h : store.WrittenWith path schema) :
    store.table? path = some (schema, store.rows path) := by
  obtain ⟨first, rest, hcommits⟩ := List.exists_cons_of_ne_nil h.nonempty
  have hfirst : store.firstCommit? path = some first := by
    rw [Store.firstCommit?, hcommits, List.head?_cons]
  have hschema := h.agrees first (by rw [hcommits]; exact List.mem_cons_self)
  rw [Store.table?_eq, hfirst, Option.map_some, hschema]

/-- Writers that agree on a schema write a table with this schema, whatever else is called: if a
folder had no table at the start and all commits to it have one schema, all its rows come from
records of the schema. -/
theorem Memory.writtenWith_after {store : Store} {path : String} {schema : Schema}
    {calls : List Call} (hfree : store.commitsTo path = [])
    (hsome : ((start store).after calls).store.commitsTo path ≠ [])
    (hagrees : ∀ commit ∈ ((start store).after calls).store.commitsTo path,
      commit.schema = schema) :
    ((start store).after calls).store.WrittenWith path schema := by
  refine ⟨hsome, hagrees, fun row hrow ↦ ?_⟩
  have hstores := (@stores_start (fun schema row ↦ ∃ record, schema.parsed? record = some row)
    store).after (fun h ↦ ⟨_, h⟩) calls
  rw [Store.rows_eq, List.mem_flatten] at hrow
  obtain ⟨_, hrows, hrow⟩ := hrow
  obtain ⟨commit, hcommit, rfl⟩ := List.mem_map.mp hrows
  obtain ⟨hmem, hfolder⟩ := List.mem_filter.mp hcommit
  rcases hstores.commits commit hmem with hold | hnew
  · have hnone : commit ∈ store.commitsTo path := List.mem_filter.mpr ⟨hold, hfolder⟩
    rw [hfree] at hnone
    cases hnone
  · rw [← hagrees commit hcommit]
    exact hnew row hrow

end ColumnStore
