import ColumnStore.Client.Configuration
import ColumnStore.Memory.Reading
import ColumnStore.Memory.Writing
import ColumnStore.Proofs.Text.Dictionary
import ColumnStore.Proofs.Text.Pieces

/-!
# Secrets taken out

`redact` puts stars in the place of the value of a secret. Keys stay, and so does every setting that
is no secret. Taking the secrets out of settings, objects, the store and the backend goes along with
what is done to them: it does not matter whether the secrets are taken out before or after. What is
looked up in a backend is the same with the secrets taken out, but for the settings in it.
-/

set_option autoImplicit false

namespace ColumnStore

/-- The value of a setting, or stars if it is a secret. -/
def redact (key value : String) : String := if isSecret key then "******" else value

theorem redact_redact (key value : String) : redact key (redact key value) = redact key value := by
  unfold redact
  split <;> rfl

theorem trim_redact (key value : String) :
    Text.trim (redact key value) = redact key (Text.trim value) := by
  unfold redact
  split
  · decide
  · rfl

/-! ### Settings -/

namespace Dictionary

theorem mapItems_redact (entries : List (String × String)) :
    mapItems redact (mapItems redact entries) = mapItems redact entries := by
  simp [mapItems, redact_redact]

theorem get?_mapItems {α β : Type} (change : String → α → β) (key : String)
    (dictionary : Dictionary α) :
    get? key (mapItems change dictionary) = (get? key dictionary).map (change key) := by
  induction dictionary with
  | nil => rfl
  | cons entry rest ih =>
    simp only [mapItems, List.map_cons, get?] at ih ⊢
    split
    · rename_i hkey
      rw [hkey, Option.map_some]
    · exact ih

end Dictionary

namespace Options

/-- The settings with the secrets taken out. -/
def redacted (options : Options) : Options := ⟨Dictionary.mapItems redact options.entries⟩

@[simp] theorem redacted_redacted (options : Options) :
    options.redacted.redacted = options.redacted :=
  congrArg Options.mk (Dictionary.mapItems_redact options.entries)

theorem mapItems_setEntry (change : String → String → String) (key value : String)
    (entries : List (String × String)) :
    Dictionary.mapItems change (setEntry key value entries) =
      setEntry key (change key value) (Dictionary.mapItems change entries) := by
  induction entries with
  | nil => rfl
  | cons entry rest ih =>
    simp only [Dictionary.mapItems, List.map_cons, setEntry] at ih ⊢
    split
    · rfl
    · rw [List.map_cons, ih]

theorem redacted_set (options : Options) (key value : String) :
    (options.set key value).redacted = options.redacted.set key (redact key value) :=
  congrArg Options.mk (mapItems_setEntry redact key value options.entries)

theorem redacted_setAll (options : Options) (entries : List (String × String)) :
    (options.setAll entries).redacted =
      options.redacted.setAll (Dictionary.mapItems redact entries) := by
  unfold setAll
  induction entries generalizing options with
  | nil => rfl
  | cons entry entries ih => rw [List.foldl_cons, ih, redacted_set]; rfl

theorem redacted_ofEntries (entries : List (String × String)) :
    (ofEntries entries).redacted = ofEntries (Dictionary.mapItems redact entries) :=
  redacted_setAll empty entries

/-- The name under which access is granted is as secret as the secret that goes with it. -/
theorem redacted_objectStore (access secret endpoint : String) :
    (objectStore access secret endpoint).redacted =
      objectStore (redact accessKey access) (redact secretKey secret)
        (redact endpointKey endpoint) :=
  redacted_ofEntries _

/-- A `key=value` text with the value taken out if it is a secret. A text that is none stays. -/
def redactPair (text : String) : String :=
  match Text.splitFirst '=' text with
  | none => text
  | some (key, value) => key ++ "=" ++ redact (Text.trim key) value

theorem readPair_redactPair (text : String) :
    readPair (redactPair text) =
      (readPair text).map fun entry ↦ (entry.1, redact entry.1 entry.2) := by
  unfold redactPair
  cases hsplit : Text.splitFirst '=' text with
  | none => simp [readPair, hsplit, Except.map]
  | some parts =>
    obtain ⟨key, value⟩ := parts
    have hread := Text.splitFirst_of_splitFirst hsplit (redact (Text.trim key) value)
    change Text.splitFirst '=' (key ++ "=" ++ redact (Text.trim key) value) = _ at hread
    simp only [readPair, hsplit, hread]
    split
    · rename_i hempty
      -- the empty key is no secret, so the text is the one that there was
      have hvalue : redact (Text.trim key) value = value := by
        rw [hempty]
        exact if_neg (by decide)
      rw [hvalue, Text.eq_of_splitFirst hsplit]
      rfl
    · rw [trim_redact]
      rfl

theorem ofPairs_redactPair (texts : List String) :
    ofPairs (texts.map redactPair) = (ofPairs texts).map redacted := by
  have hentries : (texts.map redactPair).mapM readPair =
      (texts.mapM readPair).map (Dictionary.mapItems redact) := by
    induction texts with
    | nil => rfl
    | cons text texts ih =>
      rw [List.map_cons, List.mapM_cons, List.mapM_cons, readPair_redactPair, ih]
      rcases readPair text with error | entry
      · rfl
      · rcases texts.mapM readPair with error | entries <;> rfl
  change (texts.map redactPair).mapM readPair >>= _ = (texts.mapM readPair >>= _).map redacted
  rw [hentries]
  rcases texts.mapM readPair with error | entries
  · rfl
  · exact congrArg Except.ok (redacted_ofEntries entries).symm

end Options

/-! ### Objects -/

/-- The plan with the secrets taken out. -/
def ReaderPlan.redacted (plan : ReaderPlan) : ReaderPlan :=
  { plan with options := plan.options.redacted }

/-- The plan with the secrets taken out. -/
def WriterPlan.redacted (plan : WriterPlan) : WriterPlan :=
  { plan with options := plan.options.redacted }

namespace ManagedObject

/-- The object with the secrets taken out. -/
def redacted : ManagedObject → ManagedObject
  | readerBuilder plan => readerBuilder plan.redacted
  | writerBuilder plan => writerBuilder plan.redacted
  | configuration entries => configuration (Dictionary.mapItems redact entries)
  | other => other

@[simp] theorem redacted_redacted (object : ManagedObject) :
    object.redacted.redacted = object.redacted := by
  cases object with
  | readerBuilder plan => simp [redacted, ReaderPlan.redacted]
  | writerBuilder plan => simp [redacted, WriterPlan.redacted]
  | configuration entries => exact congrArg configuration (Dictionary.mapItems_redact entries)
  | _ => rfl

end ManagedObject

/-! ### The store -/

/-- The option with its value taken out if it is a secret. -/
def ReceivedOption.redacted (option : ReceivedOption) : ReceivedOption :=
  { option with value := redact option.key option.value }

namespace Store

/-- The store with the secrets among the options received taken out. -/
def redacted (store : Store) : Store :=
  { store with received := store.received.map ReceivedOption.redacted }

@[simp] theorem redacted_redacted (store : Store) : store.redacted.redacted = store.redacted := by
  simp [redacted, ReceivedOption.redacted, redact_redact]

theorem redacted_receive (store : Store) (path : String) (entries : List (String × String)) :
    (store.receive path entries).redacted =
      store.redacted.receive path (Dictionary.mapItems redact entries) := by
  simp [redacted, receive, Dictionary.mapItems, ReceivedOption.redacted]

end Store

/-! ### The backend -/

namespace Memory

variable {memory : Memory} {handle : Handle} {method : String}

/-- The backend with the secrets taken out of its objects and of its store. -/
def redacted (memory : Memory) : Memory where
  store := memory.store.redacted
  slots := memory.slots.map fun slot ↦ slot.map ManagedObject.redacted
  isShutDown := memory.isShutDown

@[simp] theorem redacted_redacted (memory : Memory) :
    memory.redacted.redacted = memory.redacted := by
  simp [redacted, Function.comp_def]

@[simp] theorem redacted_put (memory : Memory) (handle : Handle) (object : ManagedObject) :
    (memory.put handle object).redacted = memory.redacted.put handle object.redacted := by
  simp [redacted, put, Array.map_setIfInBounds]

@[simp] theorem redacted_vacate (memory : Memory) (handle : Handle) :
    (memory.vacate handle).redacted = memory.redacted.vacate handle := by
  simp [redacted, vacate, Array.map_setIfInBounds]

@[simp] theorem redacted_pin (memory : Memory) (object : ManagedObject) :
    (memory.pin object).redacted = memory.redacted.pin object.redacted := by
  simp [redacted, pin]

@[simp] theorem redacted_pinAll (memory : Memory) (objects : List ManagedObject) :
    (memory.pinAll objects).redacted =
      memory.redacted.pinAll (objects.map ManagedObject.redacted) := by
  unfold pinAll
  induction objects generalizing memory with
  | nil => rfl
  | cons object objects ih => rw [List.foldl_cons, ih, redacted_pin, List.map_cons, List.foldl_cons]

@[simp] theorem nextHandle_redacted (memory : Memory) :
    memory.redacted.nextHandle = memory.nextHandle := by
  simp [redacted, nextHandle]

@[simp] theorem liveObjects_redacted (memory : Memory) :
    memory.redacted.liveObjects = memory.liveObjects := by
  unfold liveObjects redacted
  rw [← Array.foldl_toList, Array.toList_map, List.foldl_map, ← Array.foldl_toList]
  simp only [Option.isSome_map]

theorem object?_redacted (memory : Memory) (handle : Handle) :
    memory.redacted.object? handle = (memory.object? handle).map ManagedObject.redacted := by
  unfold object?
  split
  · rfl
  · simp only [redacted, Array.getElem?_map]
    rcases memory.slots[handle - 1]? with _ | _ | object <;> rfl

theorem get_redacted (memory : Memory) (handle : Handle) :
    memory.redacted.get handle = (memory.get handle).map ManagedObject.redacted := by
  unfold get
  rw [object?_redacted]
  cases memory.object? handle <;> rfl

/-! ### What is looked up -/

/-- What is made of an object is the same with the secrets taken out, but for the settings in it. -/
theorem get_bind_redacted {α : Type} {make : ManagedObject → Except CallError α} {change : α → α}
    (h : ∀ object, make object.redacted = (make object).map change) (memory : Memory)
    (handle : Handle) :
    (memory.redacted.get handle >>= make) = (memory.get handle >>= make).map change := by
  rw [get_redacted]
  cases memory.get handle with
  | error error => rfl
  | ok object => exact h object

/-- So it is the same altogether if there are no settings in it. -/
theorem get_bind_redacted_eq {α : Type} {make : ManagedObject → Except CallError α}
    (h : ∀ object, make object.redacted = make object) (memory : Memory) (handle : Handle) :
    (memory.redacted.get handle >>= make) = (memory.get handle >>= make) := by
  rw [get_redacted]
  cases memory.get handle with
  | error error => rfl
  | ok object => exact h object

theorem readerBuilder_redacted : memory.redacted.readerBuilder handle method =
    (memory.readerBuilder handle method).map ReaderPlan.redacted :=
  get_bind_redacted (fun object ↦ by cases object <;> rfl) memory handle

theorem writerBuilder_redacted : memory.redacted.writerBuilder handle method =
    (memory.writerBuilder handle method).map WriterPlan.redacted :=
  get_bind_redacted (fun object ↦ by cases object <;> rfl) memory handle

theorem configuration_redacted : memory.redacted.configuration handle method =
    (memory.configuration handle method).map (Dictionary.mapItems redact) :=
  get_bind_redacted (fun object ↦ by cases object <;> rfl) memory handle

@[simp] theorem reader_redacted : memory.redacted.reader handle method =
    memory.reader handle method :=
  get_bind_redacted_eq (fun object ↦ by cases object <;> rfl) memory handle

@[simp] theorem row_redacted : memory.redacted.row handle method = memory.row handle method :=
  get_bind_redacted_eq (fun object ↦ by cases object <;> rfl) memory handle

@[simp] theorem writer_redacted : memory.redacted.writer handle method =
    memory.writer handle method :=
  get_bind_redacted_eq (fun object ↦ by cases object <;> rfl) memory handle

@[simp] theorem schema_redacted : memory.redacted.schema handle method =
    memory.schema handle method :=
  get_bind_redacted_eq (fun object ↦ by cases object <;> rfl) memory handle

@[simp] theorem field_redacted : memory.redacted.field handle method =
    memory.field handle method :=
  get_bind_redacted_eq (fun object ↦ by cases object <;> rfl) memory handle

@[simp] theorem type_redacted : memory.redacted.type handle method = memory.type handle method :=
  get_bind_redacted_eq (fun object ↦ by cases object <;> rfl) memory handle

theorem configurationArgument_redacted (arguments : List Argument) (memory : Memory) :
    configurationArgument arguments memory.redacted =
      (configurationArgument arguments memory).map (Dictionary.mapItems redact) := by
  unfold configurationArgument
  cases Argument.objectAt arguments 0 "withHadoopConf" with
  | error error => rfl
  | ok handle => exact get_bind_redacted (fun object ↦ by cases object <;> rfl) memory handle

/-- Whether there is an access key is told by the keys. -/
theorem holdsAccessKey_redacted (options : Options) :
    holdsAccessKey options.redacted = holdsAccessKey options := by
  simp [holdsAccessKey, Options.redacted, Dictionary.mapItems, Function.comp_def]

end Memory

end ColumnStore
