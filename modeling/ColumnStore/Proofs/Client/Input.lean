import ColumnStore.Client.Reader
import ColumnStore.Schema.Text

/-!
# Input that is not usable

Options, type names, schema texts and batch sizes are checked before anything is called. An error of
a check is about what was handed over: it is never mistaken for an error of a call.
-/

set_option autoImplicit false

namespace ColumnStore

/-- Is the error about something that the caller handed over? -/
def Error.concernsInput : Error → Bool
  | .config _ | .schema _ => true
  | _ => false

/-- A computation that fails with errors about its input only. -/
def ChecksInput {α : Type} (result : Except Error α) : Prop :=
  ∀ error, result = .error error → error.concernsInput = true

variable {α β : Type}

theorem checksInput_ok (a : α) : ChecksInput (.ok a : Except Error α) := by
  rintro error ⟨⟩

theorem checksInput_error {error : Error} (h : error.concernsInput = true) :
    ChecksInput (.error error : Except Error α) := by
  rintro _ ⟨⟩
  exact h

theorem ChecksInput.bind {result : Except Error α} {next : α → Except Error β}
    (h : ChecksInput result) (hnext : ∀ a, ChecksInput (next a)) :
    ChecksInput (result >>= next) := by
  cases result with
  | ok a => exact hnext a
  | error error => exact checksInput_error (h error rfl)

theorem checksInput_mapM {use : α → Except Error β} (items : List α)
    (h : ∀ item, ChecksInput (use item)) : ChecksInput (items.mapM use) := by
  induction items with
  | nil => exact checksInput_ok []
  | cons item items ih =>
    rw [List.mapM_cons]
    exact (h item).bind fun result ↦ ih.bind fun results ↦ checksInput_ok (result :: results)

theorem Options.checksInput_ofPairs (texts : List String) : ChecksInput (ofPairs texts) := by
  refine (checksInput_mapM texts fun text ↦ ?_).bind fun entries ↦ checksInput_ok _
  unfold readPair
  split
  · exact checksInput_error rfl
  · split
    · exact checksInput_error rfl
    · exact checksInput_ok _

theorem DataType.checksInput_read (text : String) : ChecksInput (read text) := by
  unfold read
  dsimp only
  split
  · exact checksInput_ok _
  · exact checksInput_error rfl

theorem Field.checksInput_read (name typeText : String) :
    ChecksInput (Field.read name typeText) := by
  unfold Field.read
  dsimp only
  split
  · refine (DataType.checksInput_read _).bind fun element ↦ ?_
    split
    · exact checksInput_error rfl
    · exact checksInput_ok _
  · refine (DataType.checksInput_read _).bind fun type ↦ ?_
    split
    · exact checksInput_ok _
    · exact checksInput_ok _

namespace Schema

theorem checksInput_barePair (entry : List Char) : ChecksInput (barePair entry) := by
  unfold barePair
  split
  · exact checksInput_error rfl
  · split
    · exact checksInput_error rfl
    · exact checksInput_ok _

theorem checksInput_bareEntries (cs : List Char) : ChecksInput (bareEntries cs) := by
  fun_induction bareEntries cs with
  | case1 => exact checksInput_ok _
  | case2 => exact checksInput_error rfl
  | case3 cs _ _ _ entry rest _ ih =>
    exact (checksInput_barePair entry).bind fun pair ↦ ih.bind fun others ↦ checksInput_ok _

theorem checksInput_pairs (text : String) : ChecksInput (pairs text) := by
  unfold pairs
  split
  · refine checksInput_mapM _ ?_
    rintro ⟨name, json⟩
    unfold strictPair
    split
    · exact checksInput_ok _
    · exact checksInput_error rfl
  · unfold barePairs
    split
    · split
      · exact checksInput_bareEntries _
      · exact checksInput_error rfl
    · exact checksInput_error rfl

theorem checksInput_read (text : String) : ChecksInput (read text) := by
  refine (checksInput_pairs text).bind fun pairs ↦ ?_
  unfold ofPairs
  split
  · exact checksInput_error rfl
  · refine (checksInput_mapM _ fun pair ↦ Field.checksInput_read _ _).bind fun fields ↦ ?_
    split
    · exact checksInput_error rfl
    · exact checksInput_ok _

end Schema

theorem checksInput_readBatch (size : Nat) : ChecksInput (readBatch size) := by
  unfold readBatch
  split
  · exact checksInput_ok _
  · exact checksInput_error rfl

theorem Error.cause_of_concernsInput {error : Error} (h : error.concernsInput = true) :
    error.cause = error := by
  cases error with
  | context activity source => cases h
  | _ => rfl

end ColumnStore
