import ColumnStore.Proofs.Store.Origin

/-!
# Tables and their schemas

A table takes its schema from the first commit to its folder and its rows from all of them. Every
commit is consistent by itself, whatever is called and in whatever order, since a writer only takes
rows that its own schema admits. A table is consistent only as far as its writers agree: nothing
holds a second writer to the columns of the first one.
-/

set_option autoImplicit false

namespace ColumnStore

/-- Every row of the table at a path is one that the schema of the table admits. -/
def Store.ConsistentAt (store : Store) (path : String) : Prop :=
  ∀ schema rows, store.table? path = some (schema, rows) → schema.AdmitsAll rows

/-- The schema of the table at a path is as good as that of any commit, for all rows of the commit.
-/
def Store.AgreedAt (store : Store) (path : String) : Prop :=
  ∀ first, store.firstCommit? path = some first →
    ∀ commit ∈ store.commitsTo path, ∀ row ∈ commit.rows, first.schema.Suits commit.schema row

namespace Memory

/-- Writers keep rows that their schemas admit, and commits are consistent by themselves. -/
structure Typed (memory : Memory) : Prop where
  writers : ∀ {handle : Nat} {writer : WriterState},
    memory.object? handle = some (.writer writer) → writer.schema.AdmitsAll writer.newestFirst
  commits : ∀ commit ∈ memory.store.commits, commit.schema.AdmitsAll commit.rows

variable {memory : Memory}

theorem typed_iff_stores : memory.Typed ↔ memory.Stores Schema.Admits [] where
  mp h := ⟨h.writers, fun commit hcommit ↦ .inr (h.commits commit hcommit)⟩
  mpr h := ⟨h.writers, fun commit hcommit ↦ (h.commits commit hcommit).resolve_left nofun⟩

theorem typed_start : (start .empty).Typed :=
  typed_iff_stores.mpr (stores_start .empty)

/-- The invariant holds after any calls. -/
theorem Typed.after (h : memory.Typed) (calls : List Call) : (memory.after calls).Typed :=
  typed_iff_stores.mpr ((typed_iff_stores.mp h).after admits_of_parsed? calls)

end Memory

/-! ### Tables -/

/-- If every commit is consistent by itself, a table is consistent exactly if its schema is as good
as that of every commit. -/
theorem Store.consistentAt_iff {store : Store} {path : String}
    (hcommits : ∀ commit ∈ store.commits, commit.schema.AdmitsAll commit.rows) :
    store.ConsistentAt path ↔ store.AgreedAt path := by
  have hown : ∀ commit ∈ store.commitsTo path, commit.schema.AdmitsAll commit.rows :=
    fun commit hcommit ↦ hcommits commit (List.mem_filter.mp hcommit).1
  have hrows : ∀ row, row ∈ store.rows path ↔
      ∃ commit ∈ store.commitsTo path, row ∈ commit.rows := by
    intro row
    simp [Store.rows_eq]
  constructor
  · intro h first hfirst commit hcommit row hrow
    have htable : store.table? path = some (first.schema, store.rows path) := by
      rw [Store.table?_eq, hfirst, Option.map_some]
    have hadmitted := h _ _ htable row ((hrows row).mpr ⟨commit, hcommit, hrow⟩)
    exact (hown commit hcommit row hrow).iff_suits.mp hadmitted
  · intro h schema rows htable row hrow
    rw [Store.table?_eq, Option.map_eq_some_iff] at htable
    obtain ⟨first, hfirst, hpair⟩ := htable
    cases hpair
    obtain ⟨commit, hcommit, hmem⟩ := (hrows row).mp hrow
    exact (hown commit hcommit row hmem).iff_suits.mpr (h first hfirst commit hcommit row hmem)

/-- If all commits to a folder have columns of the same kinds, the table is consistent. -/
theorem Store.consistentAt_of_kinds {store : Store} {path : String}
    (hcommits : ∀ commit ∈ store.commits, commit.schema.AdmitsAll commit.rows)
    (hkinds : ∀ first, store.firstCommit? path = some first →
      ∀ commit ∈ store.commitsTo path, commit.schema.kinds = first.schema.kinds) :
    store.ConsistentAt path := by
  refine (Store.consistentAt_iff hcommits).mpr fun first hfirst commit hcommit row hrow ↦ ?_
  have hown := hcommits commit (List.mem_filter.mp hcommit).1 row hrow
  exact hown.suits_of_kinds (hkinds first hfirst commit hcommit)

/-- Whatever is called, in whatever order, on a backend without tables: every commit only has rows
that its own schema admits, and a table only has rows that its schema admits exactly if that schema
is as good as the schema of each of its commits for all the rows of the commit. -/
theorem tables_consistent_iff_agreed (calls : List Call) :
    let store := ((Memory.start .empty).after calls).store
    (∀ commit ∈ store.commits, commit.schema.AdmitsAll commit.rows) ∧
      ∀ path, store.ConsistentAt path ↔ store.AgreedAt path := by
  intro store
  have hcommits : ∀ commit ∈ store.commits, commit.schema.AdmitsAll commit.rows :=
    (Memory.typed_start.after calls).commits
  exact ⟨hcommits, fun path ↦ Store.consistentAt_iff hcommits⟩

/-- A table with a row that is too wide or too narrow is not consistent. -/
theorem Store.ConsistentAt.width {store : Store} {path : String} (h : store.ConsistentAt path) :
    (store.firstCommit? path).all (fun first ↦ (store.rows path).all fun row ↦
      row.length == first.schema.length) := by
  cases hfirst : store.firstCommit? path with
  | none => rfl
  | some first =>
    have htable : store.table? path = some (first.schema, store.rows path) := by
      rw [Store.table?_eq, hfirst, Option.map_some]
    refine List.all_eq_true.mpr fun row hrow ↦ ?_
    rw [beq_iff_eq]
    exact (h _ _ htable row hrow).length_eq.symm

/-- The calls of a writer with a schema that writes one record to a folder; its builder gets the
given handle and the writer the next one. -/
def Call.writing (builder : Nat) (path schemaText : String) (record : List String) : List Call :=
  [.onClass Operation.newWriterBuilder.method [],
    .onObject builder Operation.setOutputPath.method [.text path],
    .onObject builder Operation.setCsvSchema.method [.text schemaText],
    .onObject builder Operation.setWrittenBy.method [.text "w"],
    .onObject builder Operation.buildWriter.method [],
    .onObject (builder + 1) Operation.writeRecord.method [.texts record],
    .onObject (builder + 1) Operation.closeWriter.method []]

/-- Two writers of different schemas on one folder leave a table that is not consistent, and a
reader of a column that the table has cannot be built over it: the build breaks off. -/
theorem narrow_row_breaks_projection :
    let calls := Call.writing 1 "t" "[\x7b\"a\":\"int\"\x7d,\x7b\"b\":\"int\"\x7d]" ["1", "2"] ++
      Call.writing 3 "t" "[\x7b\"a\":\"int\"\x7d]" ["3"] ++
      [.onClass Operation.newReaderBuilder.method [.text "t"],
        .onObject 5 Operation.setProjection.method [.texts ["b"]]]
    let memory := (Memory.start .empty).after calls
    ¬ memory.store.ConsistentAt "t" ∧
      (memory.reply (.onObject 5 Operation.buildReader.method [])).outcome = .crashed := by
  intro calls memory
  constructor
  · intro hconsistent
    have hwidth := hconsistent.width
    revert hwidth
    decide +kernel
  · decide +kernel

end ColumnStore
