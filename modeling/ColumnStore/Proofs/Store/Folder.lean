import ColumnStore.Memory.Store

/-!
# What a folder holds

The files of a folder come from the commits to it: two from each commit, the data files numbered in
the order of the commits. So the data files hold what was committed, and counting rows file by file
counts the rows of the table.
-/

set_option autoImplicit false

namespace ColumnStore

namespace Store

variable {store : Store} {path : String}

/-- The files of commits, numbered from `start`. -/
def filesFrom (start : Nat) (commits : List Commit) : List StoredFile :=
  (commits.zipIdx start).flatMap fun entry ↦ [entry.1.dataFile entry.2, entry.1.indexFile]

theorem filesFrom_cons (start : Nat) (commit : Commit) (commits : List Commit) :
    filesFrom start (commit :: commits) =
      commit.dataFile start :: commit.indexFile :: filesFrom (start + 1) commits := rfl

/-- Adding commits one after the other adds their files in order, numbered on from the data files
that are there. -/
theorem foldl_addFiles (commits : List Commit) (files : List StoredFile) :
    commits.foldl addFiles files = files ++ filesFrom (countData files) commits := by
  induction commits generalizing files with
  | nil => exact (List.append_nil files).symm
  | cons commit commits ih =>
    have hcount : countData (addFiles files commit) = countData files + 1 := by
      simp [addFiles, countData, List.countP_append, Commit.dataFile, Commit.indexFile]
    rw [List.foldl_cons, ih, hcount, addFiles, List.append_assoc]
    rfl

theorem files_eq (store : Store) (path : String) :
    store.files path = filesFrom 0 (store.commitsTo path) :=
  foldl_addFiles _ []

theorem mem_files_iff {file : StoredFile} :
    file ∈ store.files path ↔ ∃ (commit : Commit) (part : Nat),
      (store.commitsTo path)[part]? = some commit ∧
        (file = commit.dataFile part ∨ file = commit.indexFile) := by
  rw [files_eq, filesFrom, List.mem_flatMap]
  simp [List.mk_mem_zipIdx_iff_getElem?]

/-- The data files of a folder are those of the commits to it, numbered from 0. -/
theorem dataFiles_eq (store : Store) (path : String) :
    store.dataFiles path =
      (store.commitsTo path).zipIdx.map fun entry ↦ entry.1.dataFile entry.2 := by
  rw [dataFiles, files_eq, filesFrom, List.filter_flatMap, List.map_eq_flatMap]
  rfl

theorem map_rows_dataFiles (store : Store) (path : String) :
    (store.dataFiles path).map StoredFile.rows = (store.commitsTo path).map Commit.rows := by
  rw [dataFiles_eq, List.map_map]
  show (store.commitsTo path).zipIdx.map (Commit.rows ∘ Prod.fst) = _
  rw [← List.map_map, List.zipIdx_map_fst]

theorem head?_dataFiles (store : Store) (path : String) :
    (store.dataFiles path).head? =
      (store.firstCommit? path).map fun commit ↦ commit.dataFile 0 := by
  rw [dataFiles_eq, firstCommit?]
  cases store.commitsTo path with
  | nil => rfl
  | cons first rest => rfl

theorem table?_eq_dataFiles (store : Store) (path : String) :
    store.table? path = (store.dataFiles path).head?.map fun file ↦
      (file.schema, ((store.dataFiles path).map StoredFile.rows).flatten) := by
  unfold table?
  rcases store.dataFiles path with - | ⟨first, - | ⟨second, rest⟩⟩
  · rfl
  · simp
  · simp

/-- The rows of a table are those of the commits to its folder, one behind the other. -/
theorem rows_eq (store : Store) (path : String) :
    store.rows path = ((store.commitsTo path).map Commit.rows).flatten := by
  rw [rows, table?_eq_dataFiles, head?_dataFiles, map_rows_dataFiles, firstCommit?]
  cases store.commitsTo path with
  | nil => rfl
  | cons first rest => rfl

/-- A table has the schema of its first commit and the rows of all its commits. -/
theorem table?_eq (store : Store) (path : String) :
    store.table? path =
      (store.firstCommit? path).map fun first ↦ (first.schema, store.rows path) := by
  rw [table?_eq_dataFiles, head?_dataFiles, map_rows_dataFiles, rows_eq, Option.map_map]
  rfl

/-- Counted file by file, there are as many rows as are in the table. -/
theorem rowCount_eq (store : Store) (path : String) :
    store.rowCount path = (store.rows path).length := by
  have hfold : ∀ (commits : List Commit) (start count : Nat),
      (filesFrom start commits).foldl (fun count file ↦ count + file.rows.length) count =
        count + ((commits.map Commit.rows).flatten).length := by
    intro commits
    induction commits with
    | nil => exact fun _ _ ↦ rfl
    | cons commit commits ih =>
      intro start count
      rw [filesFrom_cons, List.foldl_cons, List.foldl_cons, ih, List.map_cons, List.flatten_cons,
        List.length_append]
      simp only [Commit.dataFile, Commit.indexFile, List.length_nil]
      omega
  rw [rowCount, files_eq, hfold, Nat.zero_add, rows_eq]

end Store

end ColumnStore
