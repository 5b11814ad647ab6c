import ColumnStore.Managed.Method
import ColumnStore.Schema.Basic
import ColumnStore.Text.Numeral
import ColumnStore.Value.Basic

/-!
# The table store

A table is a folder of files. Every commit to a folder adds one data file and one index file; a data
file is numbered by the data files that are there already, and both names carry the commit's
identifier. The store keeps the commits in the order in which they were made, and `Store.files`
makes the files of a folder out of the commits to it; what there is to know of a table is read off
its files. The store also remembers every option that a reader or a writer was built with, and
counts calls.
-/

set_option autoImplicit false

namespace ColumnStore

/-- Rows that were added to a folder together. -/
structure Commit where
  folder : String
  id : String
  schema : Schema
  rows : List Row
  writtenBy : String

/-- An option that a reader or a writer over `path` was built with. -/
structure ReceivedOption where
  path : String
  key : String
  value : String
  deriving DecidableEq, Repr

/-- All tables, the options received and the calls counted so far. -/
structure Store where
  /-- The commits, oldest first. -/
  commits : List Commit
  /-- The options received, oldest first. -/
  received : List ReceivedOption
  /-- How often each method was called. -/
  calls : List (String × Nat)

/-- The two kinds of files. -/
inductive FileKind where
  | data
  | index
  deriving DecidableEq, Repr

/-- The version recorded in every file. -/
def Store.version : String := "2.0.0"

/-- A file of a folder. -/
structure StoredFile where
  name : String
  kind : FileKind
  schema : Schema
  /-- The rows of a data file. Index files have none. -/
  rows : List Row
  writtenBy : String
  version : String

namespace Commit

/-- The identifier of the commit with a number: 32 hexadecimal digits, different for different
numbers. -/
def idOf (number : Nat) : String :=
  "1" ++ Text.hexDigits 31 number

/-- The name of the data file of a commit that is the `part`-th of its folder. -/
def dataName (commit : Commit) (part : Nat) : String :=
  "part-" ++ toString part ++ "-" ++ commit.id ++ ".carbondata"

/-- The name of the index file of a commit. -/
def indexName (commit : Commit) : String :=
  commit.id ++ ".carbonindex"

/-- The data file of a commit that is the `part`-th of its folder. -/
def dataFile (commit : Commit) (part : Nat) : StoredFile :=
  ⟨commit.dataName part, .data, commit.schema, commit.rows, commit.writtenBy, Store.version⟩

/-- The index file of a commit. -/
def indexFile (commit : Commit) : StoredFile :=
  ⟨commit.indexName, .index, commit.schema, [], commit.writtenBy, Store.version⟩

end Commit

namespace Store

/-- A store without tables. -/
def empty : Store := ⟨[], [], []⟩

/-- The folder that a path means: slashes at the end do not count, unless there is nothing else. -/
def folderOf (path : String) : String :=
  let cs := (path.toList.reverse.dropWhile (· == '/')).reverse
  if cs.isEmpty then path else String.ofList cs

/-- The commits to a folder, oldest first. -/
def commitsTo (store : Store) (path : String) : List Commit :=
  let folder := folderOf path
  store.commits.filter fun commit ↦ commit.folder == folder

/-- Does the folder hold a table? -/
def contains (store : Store) (path : String) : Bool :=
  !(store.commitsTo path).isEmpty

/-- The count of data files among files. -/
def countData (files : List StoredFile) : Nat :=
  files.countP fun file ↦ file.kind == .data

/-- The files of a folder once a commit has been added to them: a data file, which is numbered by
the data files that are there, and an index file. -/
def addFiles (files : List StoredFile) (commit : Commit) : List StoredFile :=
  files ++ [commit.dataFile (countData files), commit.indexFile]

/-- The files of a folder, oldest first. -/
def files (store : Store) (path : String) : List StoredFile :=
  (store.commitsTo path).foldl addFiles []

/-- The count of rows of a table, file by file. -/
def rowCount (store : Store) (path : String) : Nat :=
  (store.files path).foldl (fun count file ↦ count + file.rows.length) 0

/-- The data files of a folder, oldest first. -/
def dataFiles (store : Store) (path : String) : List StoredFile :=
  (store.files path).filter fun file ↦ file.kind == .data

/-- The schema of the first data file of a folder and the rows of all of them. -/
def table? (store : Store) (path : String) : Option (Schema × List Row) :=
  match store.dataFiles path with
  | [] => none
  | [file] => some (file.schema, file.rows)
  | first :: rest => some (first.schema, first.rows ++ (rest.map StoredFile.rows).flatten)

/-- The rows of a table. -/
def rows (store : Store) (path : String) : List Row :=
  match store.table? path with
  | some (_, rows) => rows
  | none => []

/-- The full paths of the files of one kind in a folder. -/
def filePaths (store : Store) (path : String) (kind : FileKind) : List String :=
  ((store.files path).filter fun file ↦ file.kind == kind).map fun file ↦
    folderOf path ++ "/" ++ file.name

/-- A file by its full path. -/
def file? (store : Store) (path : String) : Option StoredFile :=
  match Text.splitLast '/' path with
  | none => none
  | some (folder, name) => (store.files folder).find? fun file ↦ file.name == name

/-- The first data file of a folder. -/
def firstDataFile? (store : Store) (path : String) : Option StoredFile :=
  (store.files path).find? fun file ↦ file.kind == .data

/-- The first commit to a folder. -/
def firstCommit? (store : Store) (path : String) : Option Commit :=
  (store.commitsTo path).head?

/-- Makes a commit. -/
def add (store : Store) (commit : Commit) : Store :=
  { store with commits := store.commits ++ [commit] }

/-- The full path of the data file that a commit adds. -/
def dataPath (store : Store) (commit : Commit) : String :=
  commit.folder ++ "/" ++ commit.dataName (countData (store.files commit.folder))

/-- The commit that is made next. -/
def nextCommit (store : Store) (path : String) (schema : Schema) (rows : List Row)
    (writtenBy : String) : Commit :=
  ⟨folderOf path, Commit.idOf store.commits.length, schema, rows, writtenBy⟩

/-- Adds rows to a folder. -/
def commit (store : Store) (path : String) (schema : Schema) (rows : List Row)
    (writtenBy : String) : Store :=
  store.add (store.nextCommit path schema rows writtenBy)

/-- The full path of the data file that a commit to a folder would add. -/
def nextDataPath (store : Store) (path : String) : String :=
  store.dataPath (store.nextCommit path ⟨[]⟩ [] "")

/-- The name under which tables are added that no writer wrote. -/
def seedWriter : String := "carbonr fixture"

/-- Adds a table that no writer wrote. -/
def seed (store : Store) (path : String) (schema : Schema) (rows : List Row) : Store :=
  store.commit path schema rows seedWriter

/-- Remembers options. -/
def receive (store : Store) (path : String) (entries : List (String × String)) : Store :=
  { store with
    received := store.received ++ entries.map fun entry ↦ ⟨path, entry.1, entry.2⟩ }

/-- The value last received for a key. -/
def lastReceived? (store : Store) (key : String) : Option String :=
  (store.received.reverse.find? fun entry ↦ entry.key == key).map ReceivedOption.value

/-- Counts one more for a name. -/
def countName (name : String) : List (String × Nat) → List (String × Nat)
  | [] => [(name, 1)]
  | entry :: rest =>
    if entry.1 = name then (name, entry.2 + 1) :: rest else entry :: countName name rest

/-- The name under which calls of a method are counted: the simple class name and the method. -/
def callName (method : Method) : String :=
  Text.afterLast '/' method.className ++ "." ++ method.name

/-- Counts a call. -/
def countCall (store : Store) (method : Method) : Store :=
  { store with calls := countName (callName method) store.calls }

/-- How often the method of a name was called. -/
def callCount (store : Store) (name : String) : Nat :=
  ((store.calls.find? fun entry ↦ entry.1 == name).map Prod.snd).getD 0

/-- How many calls there were. -/
def totalCalls (store : Store) : Nat :=
  store.calls.foldl (fun total entry ↦ total + entry.2) 0

end Store

end ColumnStore
