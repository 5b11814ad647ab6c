import ColumnStore.Client.Reader
import ColumnStore.Client.Writer
import ColumnStore.Console.Question
import ColumnStore.Memory.Inspection

/-!
# The workbench

A `Workbench` keeps client objects under names, every kind on a shelf of its own. A `Task` works on
the objects of a workbench and always leaves a workbench behind, also if it fails: an object that
was used up is gone then, every other object stays where it was.
-/

set_option autoImplicit false

namespace ColumnStore

/-- The objects at hand, each under its name. -/
structure Workbench where
  readerBuilders : Dictionary ReaderBuilder
  readers : Dictionary Reader
  rows : Dictionary HeldRow
  accessors : Dictionary Accessor
  writerBuilders : Dictionary WriterBuilder
  writers : Dictionary Writer
  configurations : Dictionary Configuration

/-- A workbench without objects. -/
def Workbench.empty : Workbench := ⟨[], [], [], [], [], [], []⟩

/-- Where the objects of a kind lie, and how one of them is given up. -/
structure Shelf (σ α : Type) where
  content : Workbench → Dictionary α
  replace : Workbench → Dictionary α → Workbench
  drop : α → Client σ Unit

/-- What came of a task. -/
inductive Answer where
  | nothing
  | truth (b : Bool)
  | count (n : Nat)
  | text (text : Option String)
  | row (answer : RowAnswer)
  | rowAnswers (answers : List (Except Error RowAnswer))
  | rows (rows : List (Except Error Row))
  | reader (reader : Reader)
  | writer (writer : Writer)
  | schema (schema : Schema)
  | store (answer : StoreAnswer)

/-- Why a task has no answer. -/
inductive Mishap where
  /-- An object or a file that it names is not there. -/
  | missing
  | failure (failure : Failure)

/-- Work with the objects of a workbench. -/
abbrev Task (σ : Type) := Workbench → Client σ (Except Mishap Answer × Workbench)

namespace Shelf

variable {σ : Type}

/-- The shelf of reader builders. -/
def readerBuilders : Shelf σ ReaderBuilder :=
  ⟨Workbench.readerBuilders, fun bench content ↦ { bench with readerBuilders := content },
    ReaderBuilder.drop⟩

/-- The shelf of readers. -/
def readers : Shelf σ Reader :=
  ⟨Workbench.readers, fun bench content ↦ { bench with readers := content }, Reader.drop⟩

/-- The shelf of rows. -/
def rows : Shelf σ HeldRow :=
  ⟨Workbench.rows, fun bench content ↦ { bench with rows := content }, HeldRow.drop⟩

/-- The shelf of accessors. -/
def accessors : Shelf σ Accessor :=
  ⟨Workbench.accessors, fun bench content ↦ { bench with accessors := content },
    fun _ ↦ pure ()⟩

/-- The shelf of writer builders. -/
def writerBuilders : Shelf σ WriterBuilder :=
  ⟨Workbench.writerBuilders, fun bench content ↦ { bench with writerBuilders := content },
    WriterBuilder.drop⟩

/-- The shelf of writers. -/
def writers : Shelf σ Writer :=
  ⟨Workbench.writers, fun bench content ↦ { bench with writers := content }, Writer.drop⟩

/-- The shelf of configurations. -/
def configurations : Shelf σ Configuration :=
  ⟨Workbench.configurations, fun bench content ↦ { bench with configurations := content },
    Configuration.drop⟩

variable {α : Type}

/-- The object of a name. -/
def find? (shelf : Shelf σ α) (name : String) (bench : Workbench) : Option α :=
  (shelf.content bench).get? name

/-- Takes an object off the shelf. -/
def without (shelf : Shelf σ α) (name : String) (bench : Workbench) : Workbench :=
  shelf.replace bench ((shelf.content bench).erase name)

/-- Puts an object on the shelf, in the place of one that has the same name. -/
def holding (shelf : Shelf σ α) (name : String) (object : α) (bench : Workbench) : Workbench :=
  shelf.replace bench ((shelf.content bench).insert name object)

/-- Puts a new object on the shelf and gives up the one that had its name. -/
def put (shelf : Shelf σ α) (name : String) (object : α) (bench : Workbench) :
    Client σ Workbench := do
  match shelf.find? name bench with
  | some old => shelf.drop old
  | none => pure ()
  pure (shelf.holding name object bench)

/-- Gives up all objects of the shelf, in the order of their names. -/
def clear (shelf : Shelf σ α) (bench : Workbench) : Client σ Workbench := do
  (shelf.content bench).forM fun entry ↦ shelf.drop entry.2
  pure (shelf.replace bench [])

end Shelf

namespace Task

variable {σ α β : Type}

/-- A task that lacks something. -/
def lacking : Task σ := fun bench ↦ pure (.error .missing, bench)

/-- Runs an action, and goes on with its result. -/
def after (action : Client σ α) (next : α → Task σ) : Task σ := fun bench ↦ do
  match ← Client.settle action with
  | .ok result => next result bench
  | .error failure => pure (.error (.failure failure), bench)

/-- Runs an action and answers with its result. -/
def answering (action : Client σ Answer) : Task σ :=
  after action fun answer bench ↦ pure (.ok answer, bench)

/-- Makes an object and keeps it under a name. -/
def make (shelf : Shelf σ α) (name : String) (action : Client σ α) : Task σ :=
  after action fun object bench ↦ do
    let bench ← shelf.put name object bench
    pure (.ok .nothing, bench)

/-- A task on the object of a name. -/
def onObject (shelf : Shelf σ α) (name : String) (task : α → Task σ) : Task σ := fun bench ↦
  match shelf.find? name bench with
  | some object => task object bench
  | none => lacking bench

/-- Asks the object of a name, which stays as it is. -/
def ask (shelf : Shelf σ α) (name : String) (action : α → Client σ Answer) : Task σ :=
  onObject shelf name fun object ↦ answering (action object)

/-- Changes the object of a name. It stays as it is if that fails. -/
def alter (shelf : Shelf σ α) (name : String) (action : α → Client σ α) : Task σ :=
  onObject shelf name fun object ↦
    after (action object) fun changed bench ↦
      pure (.ok .nothing, shelf.holding name changed bench)

/-- Uses up the object of a name and keeps what comes of it under the same name. -/
def turn (shelf : Shelf σ α) (target : Shelf σ β) (name : String) (action : α → Client σ β) :
    Task σ :=
  onObject shelf name fun object bench ↦
    make target name (action object) (shelf.without name bench)

/-- Gives up the object of a name. -/
def drop (shelf : Shelf σ α) (name : String) : Task σ :=
  onObject shelf name fun object bench ↦
    answering ((fun _ ↦ .nothing) <$> shelf.drop object) (shelf.without name bench)

end Task

/-- Gives up all objects, kind by kind. -/
def Workbench.clear {σ : Type} (bench : Workbench) : Client σ Workbench := do
  let bench ← Shelf.accessors.clear bench
  let bench ← Shelf.rows.clear bench
  let bench ← Shelf.readers.clear bench
  let bench ← Shelf.readerBuilders.clear bench
  let bench ← Shelf.writers.clear bench
  let bench ← Shelf.writerBuilders.clear bench
  Shelf.configurations.clear bench

end ColumnStore
