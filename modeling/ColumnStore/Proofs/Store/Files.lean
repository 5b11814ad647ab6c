import ColumnStore.Proofs.Memory.Call
import ColumnStore.Proofs.Store.Folder
import ColumnStore.Proofs.Text.Numeral
import Mathlib.Data.List.Nodup
import Mathlib.Data.List.DropRight

/-!
# The files of a store

A filing puts rows into a store under a path, with an identifier that was made for them. Whatever
was filed under whatever paths, the files of a folder can be told from the filings: each filing to
the folder gave it a data file and an index file, numbered in the order of filing. No two files of a
folder share a name as long as no two filings share an identifier, so a full path leads to the one
file that it was made for.
-/

set_option autoImplicit false

namespace ColumnStore

/-- Hexadecimal digits and nothing else. -/
def Commit.IsIdentifier (id : String) : Prop :=
  ∀ c ∈ id.toList, (Text.hexValue? c).isSome

instance (id : String) : Decidable (Commit.IsIdentifier id) :=
  List.decidableBAll (fun c ↦ (Text.hexValue? c).isSome = true) id.toList

/-- Rows that are put into a store, under a path as it was given. -/
structure Filing where
  path : String
  id : String
  schema : Schema
  rows : List Row
  writtenBy : String

namespace Filing

/-- The commit that a filing makes. -/
def commit (filing : Filing) : Commit :=
  ⟨Store.folderOf filing.path, filing.id, filing.schema, filing.rows, filing.writtenBy⟩

/-- The data file that a filing adds to its folder if it is the `part`-th one there. -/
def dataFile (filing : Filing) (part : Nat) : StoredFile :=
  ⟨"part-" ++ toString part ++ "-" ++ filing.id ++ ".carbondata", .data, filing.schema, filing.rows,
    filing.writtenBy, Store.version⟩

/-- The index file that a filing adds to its folder. -/
def indexFile (filing : Filing) : StoredFile :=
  ⟨filing.id ++ ".carbonindex", .index, filing.schema, [], filing.writtenBy, Store.version⟩

/-- The filings with identifiers made from numbers, the first of which is given. -/
def numbered (first : Nat) (filings : List Filing) : List Filing :=
  (filings.zipIdx first).map fun entry ↦ { entry.1 with id := Commit.idOf entry.2 }

/-- The filings to the folder of a path, in order. -/
def under (path : String) (filings : List Filing) : List Filing :=
  filings.filter fun filing ↦ Store.folderOf filing.path == Store.folderOf path

end Filing

/-! ### Paths -/

namespace Store

/-- A path without the slashes at its end means what it meant with them. -/
theorem folderOf_folderOf (path : String) : folderOf (folderOf path) = folderOf path := by
  unfold folderOf
  dsimp only
  by_cases hempty : (path.toList.reverse.dropWhile (· == '/')).reverse.isEmpty
  · rw [if_pos hempty, if_pos hempty]
  · rw [if_neg hempty, String.toList_ofList, List.reverse_reverse, List.dropWhile_idempotent,
      if_neg hempty]

end Store

/-! ### Names -/

namespace Commit

variable {commit other : Commit} {part number : Nat}

theorem toList_dataName (commit : Commit) (part : Nat) :
    (commit.dataName part).toList = "part-".toList ++
      (Nat.toDigits 10 part ++ '-' :: (commit.id.toList ++ ".carbondata".toList)) := by
  simp [dataName, String.toList_append, Nat.repr_eq_ofList_toDigits]

theorem toList_indexName (commit : Commit) :
    commit.indexName.toList = commit.id.toList ++ ".carbonindex".toList :=
  String.toList_append

/-- The name of a data file tells its number. -/
theorem part_eq_of_dataName_eq (h : commit.dataName part = other.dataName number) :
    part = number := by
  have hdash : ∀ n, '-' ∉ Nat.toDigits 10 n := fun n hmem ↦ by
    have hdigit := Nat.isDigit_of_mem_toDigits (by decide) (by decide) hmem
    revert hdigit
    decide
  have hlist := congrArg String.toList h
  rw [toList_dataName, toList_dataName] at hlist
  have hcut := congrArg (Text.cutFirst '-') (List.append_cancel_left hlist)
  rw [Text.cutFirst_append_cons (hdash _), Text.cutFirst_append_cons (hdash _)] at hcut
  have hdigits : Nat.toDigits 10 part = Nat.toDigits 10 number :=
    congrArg Prod.fst (Option.some.inj hcut)
  rw [← Text.natOfDigits_toDigits part, hdigits, Text.natOfDigits_toDigits]

/-- The name of an index file tells the identifier of its commit. -/
theorem id_eq_of_indexName_eq (h : commit.indexName = other.indexName) : commit.id = other.id :=
  (String.append_left_inj _).mp h

theorem dataName_ne_indexName : commit.dataName part ≠ other.indexName := by
  intro h
  have hlast := congrArg (fun name ↦ name.toList.reverse.head?) h
  simp [toList_dataName, toList_indexName] at hlast

/-- An identifier has no slash, and neither has a name that is made with it. -/
theorem IsIdentifier.not_mem_names (h : IsIdentifier commit.id) (part : Nat) :
    '/' ∉ (commit.dataName part).toList ∧ '/' ∉ commit.indexName.toList := by
  have hid : '/' ∉ commit.id.toList := fun hmem ↦ by
    have hsome := h _ hmem
    revert hsome
    decide
  have hdigits : '/' ∉ Nat.toDigits 10 part := fun hmem ↦ by
    have hdigit := Nat.isDigit_of_mem_toDigits (by decide) (by decide) hmem
    revert hdigit
    decide
  rw [toList_dataName, toList_indexName]
  simp [hid, hdigits]

theorem isIdentifier_idOf (number : Nat) : IsIdentifier (idOf number) := by
  have hdigits := Text.isSome_hexValue?_of_readHex (Text.readHex_hexDigits 31 number)
  have hlist : (idOf number).toList = '1' :: (Text.hexDigits 31 number).toList :=
    String.toList_append
  rw [IsIdentifier, hlist]
  exact List.forall_mem_cons.mpr ⟨by decide, hdigits⟩

theorem idOf_injective : Function.Injective idOf := by
  intro first second h
  have hdigits := (String.append_right_inj "1").mp h
  have hread := Text.readHex_hexDigits 31 first
  rw [hdigits, Text.readHex_hexDigits] at hread
  exact (Option.some.inj hread).symm

end Commit

namespace Filing

theorem ids_numbered (first : Nat) (filings : List Filing) :
    (numbered first filings).map Filing.id =
      (List.range' first filings.length).map Commit.idOf := by
  rw [← List.zipIdx_map_snd, numbered, List.map_map, List.map_map]
  rfl

theorem isIdentifier_of_mem_numbered {first : Nat} {filings : List Filing} {filing : Filing}
    (h : filing ∈ numbered first filings) : Commit.IsIdentifier filing.id := by
  obtain ⟨entry, -, rfl⟩ := List.mem_map.mp h
  exact Commit.isIdentifier_idOf entry.2

theorem nodup_ids_numbered (first : Nat) (filings : List Filing) :
    ((numbered first filings).map Filing.id).Nodup := by
  rw [ids_numbered]
  exact List.Nodup.map Commit.idOf_injective List.nodup_range'

end Filing

/-! ### Stores that are filled by filings -/

namespace Store

variable {store : Store} {filing : Filing} {filings : List Filing} {path : String}

/-- Puts rows into a store. -/
def file (store : Store) (filing : Filing) : Store :=
  store.add filing.commit

/-- Puts rows into a store, time and again. -/
def fileAll (store : Store) (filings : List Filing) : Store :=
  filings.foldl file store

theorem commits_file (store : Store) (filing : Filing) :
    (store.file filing).commits = store.commits ++ [filing.commit] := rfl

/-- A commit is a filing with the next identifier. -/
theorem commit_eq_file (store : Store) (path : String) (schema : Schema) (rows : List Row)
    (writtenBy : String) :
    store.commit path schema rows writtenBy =
      store.file ⟨path, Commit.idOf store.commits.length, schema, rows, writtenBy⟩ := rfl

/-- Commits what is filed, time and again. The store makes the identifiers itself. -/
def commitAll (store : Store) (filings : List Filing) : Store :=
  filings.foldl (fun store filing ↦
    store.commit filing.path filing.schema filing.rows filing.writtenBy) store

/-- Commits are filings that are numbered from the count of commits that are there. -/
theorem commitAll_eq_fileAll (store : Store) (filings : List Filing) :
    store.commitAll filings = store.fileAll (Filing.numbered store.commits.length filings) := by
  induction filings generalizing store with
  | nil => rfl
  | cons filing filings ih =>
    have hlength : (store.commit filing.path filing.schema filing.rows
        filing.writtenBy).commits.length = store.commits.length + 1 := List.length_append
    show (store.commit filing.path filing.schema filing.rows filing.writtenBy).commitAll filings = _
    rw [ih, hlength, commit_eq_file]
    rfl

theorem commitAll_append (store : Store) (earlier later : List Filing) :
    store.commitAll (earlier ++ later) = (store.commitAll earlier).commitAll later :=
  List.foldl_append

/-- Commits are to folders, with identifiers that are all different. -/
structure WellFiled (store : Store) : Prop where
  folders : ∀ commit ∈ store.commits, folderOf commit.folder = commit.folder
  identifiers : ∀ commit ∈ store.commits, Commit.IsIdentifier commit.id
  distinct : (store.commits.map Commit.id).Nodup

theorem wellFiled_empty : empty.WellFiled where
  folders := List.forall_mem_nil _
  identifiers := List.forall_mem_nil _
  distinct := List.nodup_nil

/-- A filing with a fresh identifier keeps the commits in order. -/
theorem WellFiled.file (h : store.WellFiled) (hid : Commit.IsIdentifier filing.id)
    (hfresh : filing.id ∉ store.commits.map Commit.id) : (store.file filing).WellFiled := by
  constructor
  · rw [commits_file]
    exact List.forall_mem_append.mpr
      ⟨h.folders, List.forall_mem_singleton.mpr (folderOf_folderOf _)⟩
  · rw [commits_file]
    exact List.forall_mem_append.mpr ⟨h.identifiers, List.forall_mem_singleton.mpr hid⟩
  · rw [commits_file, List.map_append]
    exact h.distinct.append (List.nodup_singleton _) (List.disjoint_singleton.mpr hfresh)

/-- So do filings whose identifiers are all different. -/
theorem WellFiled.fileAll (h : store.WellFiled)
    (hids : ∀ filing ∈ filings, Commit.IsIdentifier filing.id)
    (hdistinct : (store.commits.map Commit.id ++ filings.map Filing.id).Nodup) :
    (store.fileAll filings).WellFiled := by
  induction filings generalizing store with
  | nil => exact h
  | cons filing filings ih =>
    obtain ⟨hid, hrest⟩ := List.forall_mem_cons.mp hids
    have hfresh : filing.id ∉ store.commits.map Commit.id := fun hmem ↦
      List.disjoint_of_nodup_append hdistinct hmem List.mem_cons_self
    apply ih (h.file hid hfresh) hrest
    rw [commits_file, List.map_append, List.append_assoc]
    exact hdistinct

/-- Two files of a folder with one name are one file. -/
theorem WellFiled.eq_of_name_eq (h : store.WellFiled) {first second : StoredFile}
    (hfirst : first ∈ store.files path) (hsecond : second ∈ store.files path)
    (hname : first.name = second.name) : first = second := by
  obtain ⟨commit, part, hcommit, hfile⟩ := mem_files_iff.mp hfirst
  obtain ⟨other, number, hother, hotherFile⟩ := mem_files_iff.mp hsecond
  rcases hfile with rfl | rfl
  · rcases hotherFile with rfl | rfl
    · obtain rfl := Commit.part_eq_of_dataName_eq hname
      rw [Option.some.inj (hcommit.symm.trans hother)]
    · exact absurd hname Commit.dataName_ne_indexName
  · rcases hotherFile with rfl | rfl
    · exact absurd hname.symm Commit.dataName_ne_indexName
    · have hmem : commit ∈ store.commits :=
        (List.mem_filter.mp (List.mem_of_getElem? hcommit)).1
      have hotherMem : other ∈ store.commits :=
        (List.mem_filter.mp (List.mem_of_getElem? hother)).1
      have hid : commit.id = other.id := Commit.id_eq_of_indexName_eq hname
      rw [List.inj_on_of_nodup_map h.distinct hmem hotherMem hid]

/-- The full path of a file of a folder leads to it. -/
theorem WellFiled.file?_of_mem (h : store.WellFiled) {file : StoredFile}
    (hmem : file ∈ store.files path) :
    store.file? (folderOf path ++ "/" ++ file.name) = some file := by
  have hslash : '/' ∉ file.name.toList := by
    obtain ⟨commit, part, hcommit, hfile⟩ := mem_files_iff.mp hmem
    have hid := h.identifiers commit (List.mem_filter.mp (List.mem_of_getElem? hcommit)).1
    have hnames := hid.not_mem_names part
    rcases hfile with rfl | rfl
    · exact hnames.1
    · exact hnames.2
  have hfiles : store.files (folderOf path) = store.files path := by
    unfold files commitsTo
    rw [folderOf_folderOf]
  unfold file?
  rw [show folderOf path ++ "/" ++ file.name =
    folderOf path ++ String.singleton '/' ++ file.name from rfl, Text.splitLast_append hslash]
  dsimp only
  rw [hfiles]
  cases hfound : (store.files path).find? fun other ↦ other.name == file.name with
  | none =>
    have hnone := List.find?_eq_none.mp hfound file hmem
    exact absurd (beq_self_eq_true file.name) hnone
  | some other =>
    have hname := List.find?_some hfound
    rw [h.eq_of_name_eq (List.mem_of_find?_eq_some hfound) hmem (eq_of_beq hname)]

/-! ### What the filings tell -/

theorem commits_fileAll (store : Store) (filings : List Filing) :
    (store.fileAll filings).commits = store.commits ++ filings.map Filing.commit := by
  induction filings generalizing store with
  | nil => exact (List.append_nil _).symm
  | cons filing filings ih =>
    show ((store.file filing).fileAll filings).commits = _
    rw [ih, commits_file, List.append_assoc]
    rfl

/-- The commits to a folder are those of the filings to it. -/
theorem commitsTo_fileAll (filings : List Filing) (path : String) :
    (empty.fileAll filings).commitsTo path = (Filing.under path filings).map Filing.commit := by
  have hcommits : (empty.fileAll filings).commits = filings.map Filing.commit :=
    commits_fileAll empty filings
  rw [commitsTo, hcommits, List.filter_map]
  rfl

end Store

/-! ### The filings of the backend -/

/-- The commits were made one after the other, in a store that was empty. -/
def Store.IsNumbered (store : Store) : Prop :=
  ∃ filings : List Filing, store.commits = (Store.empty.commitAll filings).commits

theorem Store.isNumbered_empty : Store.empty.IsNumbered := ⟨[], rfl⟩

/-- One more commit is made after the others. -/
theorem Store.IsNumbered.commit {store : Store} (h : store.IsNumbered) (path : String)
    (schema : Schema) (rows : List Row) (writtenBy : String) :
    (store.commit path schema rows writtenBy).IsNumbered := by
  obtain ⟨filings, hcommits⟩ := h
  refine ⟨filings ++ [⟨path, "", schema, rows, writtenBy⟩], ?_⟩
  rw [commitAll_append]
  show store.commits ++ [store.nextCommit path schema rows writtenBy] =
    (Store.empty.commitAll filings).commits ++
      [(Store.empty.commitAll filings).nextCommit path schema rows writtenBy]
  rw [Store.nextCommit, Store.nextCommit, hcommits]

/-- Commits that were made one after the other are filings with identifiers that are all
different. -/
theorem Store.IsNumbered.exists_filings {store : Store} (h : store.IsNumbered) :
    ∃ filings : List Filing, store.commits = (Store.empty.fileAll filings).commits ∧
      (∀ filing ∈ filings, Commit.IsIdentifier filing.id) ∧ (filings.map Filing.id).Nodup := by
  obtain ⟨filings, hcommits⟩ := h
  rw [commitAll_eq_fileAll] at hcommits
  exact ⟨Filing.numbered 0 filings, hcommits,
    fun _ hmem ↦ Filing.isIdentifier_of_mem_numbered hmem, Filing.nodup_ids_numbered 0 filings⟩

namespace Memory

variable {before later : Memory} {operation : Operation} {outcome : Outcome Returned}
  {handle : Nat}

/-- What an operation does leaves the commits as they are or makes one more. -/
theorem Effect.isNumbered (heffect : Effect operation handle before outcome later)
    (h : before.store.IsNumbered) : later.store.IsNumbered := by
  cases heffect with
  | committed writer => exact h.commit _ _ _ _
  | tookRows | describedAll =>
    rw [store_pinAll]
    exact h
  | _ => exact h

theorem isNumbered_reply (h : before.store.IsNumbered) (call : Call) :
    (before.reply call).state.store.IsNumbered := by
  refine @reply_keeps before (·.store.IsNumbered) ?_ ?_ call
  · intro kind target method arguments
    rcases invoke_cases kind target method arguments before with
      ⟨error, -, hstate⟩ | ⟨operation, -, -, heffect⟩
    · rw [hstate]
      exact h
    · exact heffect.isNumbered h
  · intro after hstore _
    rw [hstore]
    exact h

/-- Whatever is called on a backend, in whatever order, the commits of its store come from filings
whose identifiers are all different, if the tables that it began with did. -/
theorem exists_filings_after {memory : Memory} (h : memory.store.IsNumbered) (calls : List Call) :
    ∃ filings : List Filing,
      (memory.after calls).store.commits = (Store.empty.fileAll filings).commits ∧
        (∀ filing ∈ filings, Commit.IsIdentifier filing.id) ∧
          (filings.map Filing.id).Nodup := by
  apply Store.IsNumbered.exists_filings
  exact @after_keeps memory (·.store.IsNumbered) isNumbered_reply h calls

end Memory

end ColumnStore
