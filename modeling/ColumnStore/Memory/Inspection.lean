import ColumnStore.Memory.Store

/-!
# Looking into the store

A `StoreCommand` asks what the store holds, or adds a table to it. It reaches the store directly and
is no managed call. A `Location` names a file by its path or by its place in a table.
-/

set_option autoImplicit false

namespace ColumnStore

/-- Where something is. -/
inductive Location where
  | path (path : String)
  /-- The full path of the file of a kind with a number in its table, and something behind it. -/
  | file (table : String) (kind : FileKind) (number : Nat) (tail : String)

/-- The path of a location, if there is such a file. -/
def Store.locate (store : Store) : Location → Option String
  | .path path => some path
  | .file table kind number tail =>
    ((store.filePaths table kind)[number]?).map fun path ↦ path ++ tail

/-- Something to be done with the store. -/
inductive StoreCommand where
  | seed (path : String) (schema : Schema) (content : List Row)
  | contains (path : String)
  | rowCount (path : String)
  | rows (path : String)
  | filePaths (path : String) (kind : FileKind)
  | received
  | lastReceived (key : String)
  | callCount (name : String)
  | totalCalls

/-- What a store answers. -/
inductive StoreAnswer where
  | truth (b : Bool)
  | count (n : Nat)
  | text (text : Option String)
  | texts (texts : List String)
  | rows (rows : List Row)
  | received (options : List ReceivedOption)

/-- Does something with the store. Adding a table answers with the path of its data file. -/
def StoreCommand.run (store : Store) : StoreCommand → StoreAnswer × Store
  | .seed path schema content =>
    (.text (some (store.nextDataPath path)), store.seed path schema content)
  | .contains path => (.truth (store.contains path), store)
  | .rowCount path => (.count (store.rowCount path), store)
  | .rows path => (.rows (store.rows path), store)
  | .filePaths path kind => (.texts (store.filePaths path kind), store)
  | .received => (.received store.received, store)
  | .lastReceived key => (.text (store.lastReceived? key), store)
  | .callCount name => (.count (store.callCount name), store)
  | .totalCalls => (.count store.totalCalls, store)

end ColumnStore
