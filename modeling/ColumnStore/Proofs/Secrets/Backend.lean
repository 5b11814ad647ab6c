import ColumnStore.Console.Basic
import ColumnStore.Proofs.Client.Calls
import ColumnStore.Proofs.Client.Echoes
import ColumnStore.Proofs.Memory.Client
import ColumnStore.Proofs.Secrets.Redaction

/-!
# Calls of a backend with the secrets taken out

What a call returns and reports, and what it leaves once the secrets are taken out, is the same
whether the secrets are taken out before it or not: `Memory.perform_redacted`, for every operation
but the one that gets the value of a setting. Nor does it matter which value a secret is set to.
Faults do not change this, since they look at methods only.
-/

set_option autoImplicit false

namespace ColumnStore

/-- The reply as it is seen if only `view` of the state is seen. -/
def Reply.seen {σ γ α : Type} (view : σ → γ) (reply : Reply σ α) : Reply γ α :=
  ⟨reply.outcome, view reply.state, reply.events⟩

namespace Reply

variable {σ γ α β : Type} {view : σ → γ}

@[simp] theorem seen_returned (state : σ) (result : α) :
    (returned state result).seen view = returned (view state) result := rfl

@[simp] theorem seen_failed (state : σ) (error : CallError) :
    (failed state error : Reply σ α).seen view = failed (view state) error := rfl

@[simp] theorem seen_reporting (event : Event) (reply : Reply σ α) :
    (reply.reporting event).seen view = (reply.seen view).reporting event := rfl

@[simp] theorem seen_ofExcept (state : σ) (result : Except CallError α) :
    (ofExcept state result).seen view = ofExcept (view state) result := by
  cases result <;> rfl

theorem echoes_of_seen {reply twin : Reply σ α} (h : reply.seen view = twin.seen view) :
    reply.Echoes view Eq twin := by
  obtain ⟨houtcome, hstate, hevents⟩ := Reply.mk.inj h
  refine ⟨?_, hstate, hevents⟩
  rw [houtcome]
  exact endsAlike_refl (endsAlike_refl fun _ ↦ rfl) _

theorem events_andThen (reply : Reply σ α) (next : α → Except CallError β) :
    (reply.andThen next).events = reply.events := by
  obtain ⟨outcome, state, events⟩ := reply
  cases outcome with
  | returned result => cases hnext : next result <;> simp [andThen, hnext]
  | failed error => rfl
  | crashed => rfl

theorem Echoes.andThen {related : α → α → Prop} {last : β → β → Prop} {reply twin : Reply σ α}
    {next : α → Except CallError β} (h : reply.Echoes view related twin)
    (hnext : ∀ a b, related a b → EndsAlike last (next a) (next b)) :
    (reply.andThen next).Echoes view last (twin.andThen next) where
  outcome := by
    rw [result_andThen, result_andThen]
    exact h.outcome.map fun _ _ hends ↦ hends.bind hnext
  state := by
    rw [state_andThen, state_andThen]
    exact h.state
  events := by
    rw [events_andThen, events_andThen]
    exact h.events

end Reply

/-- The operations that set the value of a key. -/
def Operation.SetsValue (operation : Operation) : Prop :=
  operation = .setReaderOption ∨ operation = .setWriterOption ∨ operation = .setEntry

/-- What was got for a key, with the secret taken out. -/
def Returned.redacted (key : String) : Returned → Returned
  | text content => text (content.map (redact key))
  | other => other

theorem Returned.toText_redacted (key : String) (method : Method) (returned : Returned) :
    (returned.redacted key).toText method =
      (returned.toText method).map (Option.map (redact key)) := by
  cases returned <;> rfl

namespace Memory

variable {handle : Handle} {arguments : List Argument} {memory : Memory}

/-- The reply with the secrets taken out of the state. -/
abbrev seen {α : Type} (reply : Reply Memory α) : Reply Memory α := reply.seen redacted

@[simp] theorem seen_returnNew (memory : Memory) (object : ManagedObject) :
    seen (memory.returnNew object) = memory.redacted.returnNew object.redacted := by
  simp [returnNew]

@[simp] theorem seen_returnAll (memory : Memory) (objects : List ManagedObject) :
    seen (memory.returnAll objects) =
      memory.redacted.returnAll (objects.map ManagedObject.redacted) := by
  simp [returnAll]

theorem redacted_with_store {first second : Memory} {store other : Store}
    (h : first.redacted = second.redacted) (hstore : store.redacted = other.redacted) :
    ({ first with store := store } : Memory).redacted =
      ({ second with store := other } : Memory).redacted := by
  obtain ⟨-, hslots, hrunning⟩ := Memory.mk.inj h
  simp only [redacted, hslots, hrunning, hstore]

theorem redacted_receiving (memory : Memory) (path : String) (entries : List (String × String)) :
    (memory.receiving path entries).redacted =
      memory.redacted.receiving path (Dictionary.mapItems redact entries) :=
  congrArg (Memory.mk · _ _) (Store.redacted_receive memory.store path entries)

/-! ### Builders -/

/-- Changes of a builder that come to the same once the secrets are taken out. -/
theorem seen_changeReader {change twin : ReaderPlan → ReaderPlan} (method : String)
    (h : ∀ plan, (change plan.redacted).redacted = (twin plan).redacted) :
    seen (changeReader handle method change memory.redacted) =
      seen (changeReader handle method twin memory) := by
  unfold changeReader
  rw [readerBuilder_redacted]
  cases memory.readerBuilder handle method with
  | error error => simp [Except.map]
  | ok plan => simp [Except.map, ManagedObject.redacted, h]

/-- Changes of a builder that come to the same once the secrets are taken out. -/
theorem seen_changeWriter {change twin : WriterPlan → WriterPlan} (method : String)
    (h : ∀ plan, (change plan.redacted).redacted = (twin plan).redacted) :
    seen (changeWriter handle method change memory.redacted) =
      seen (changeWriter handle method twin memory) := by
  unfold changeWriter
  rw [writerBuilder_redacted]
  cases memory.writerBuilder handle method with
  | error error => simp [Except.map]
  | ok plan => simp [Except.map, ManagedObject.redacted, h]

theorem seen_setReaderConfiguration :
    seen (setReaderConfiguration handle arguments memory.redacted) =
      seen (setReaderConfiguration handle arguments memory) := by
  unfold setReaderConfiguration
  rw [configurationArgument_redacted]
  cases configurationArgument arguments memory with
  | error error => simp [Except.map]
  | ok entries =>
    refine seen_changeReader _ fun plan ↦ ?_
    simp [ReaderPlan.redacted, Options.redacted_setAll, Dictionary.mapItems_redact]

theorem seen_openReader (plan : ReaderPlan) (schema : Schema) (rows : List Row) (memory : Memory) :
    seen (openReader plan.redacted schema rows memory.redacted) =
      seen (openReader plan schema rows memory) := by
  simp [openReader, ReaderPlan.redacted]

theorem seen_openProjected (plan : ReaderPlan) (columns : List String) (schema : Schema)
    (rows : List Row) (memory : Memory) :
    seen (openProjected plan.redacted columns schema rows memory.redacted) =
      seen (openProjected plan columns schema rows memory) := by
  unfold openProjected
  rcases schema.project columns with error | projected
  · cases error <;> simp
  · dsimp only
    cases rows.mapM (project (positionsOf schema columns)) with
    | none => simp [Reply.seen]
    | some rows => exact seen_openReader plan projected rows memory

/-- Building a reader hands the settings over and looks at their keys only. -/
theorem seen_buildReader :
    seen (buildReader handle memory.redacted) = seen (buildReader handle memory) := by
  unfold buildReader
  rw [readerBuilder_redacted]
  cases memory.readerBuilder handle "build" with
  | error error => simp [Except.map]
  | ok plan =>
    have hreceived : ({ memory.redacted with
        store := memory.redacted.store.receive plan.redacted.path plan.redacted.options.entries } :
          Memory) = (memory.receiving plan.path plan.options.entries).redacted :=
      (redacted_receiving memory plan.path plan.options.entries).symm
    have hkey : holdsAccessKey plan.redacted.options = holdsAccessKey plan.options :=
      holdsAccessKey_redacted plan.options
    have hpath : plan.redacted.path = plan.path := rfl
    have hcolumns : plan.redacted.columns = plan.columns := rfl
    have htable : ∀ entries, (memory.redacted.store.receive plan.path entries).table? plan.path =
        (memory.store.receive plan.path plan.options.entries).table? plan.path := fun _ ↦ rfl
    dsimp only [Except.map]
    rw [hreceived, hkey, hpath, hcolumns, htable]
    split
    · exact congrArg (Reply.failed · _) (redacted_redacted _)
    · rcases (memory.store.receive plan.path plan.options.entries).table? plan.path with _ | found
      · exact congrArg (Reply.failed · _) (redacted_redacted _)
      · cases plan.columns with
        | none => exact seen_openReader plan found.1 found.2 _
        | some columns => exact seen_openProjected plan columns found.1 found.2 _

/-- Building a writer hands the settings over. -/
theorem seen_buildWriter :
    seen (buildWriter handle memory.redacted) = seen (buildWriter handle memory) := by
  unfold buildWriter
  rw [writerBuilder_redacted]
  cases memory.writerBuilder handle "build" with
  | error error => simp [Except.map]
  | ok plan =>
    have hplanned : planned plan.redacted = planned plan := rfl
    dsimp only [Except.map]
    rw [hplanned]
    cases planned plan with
    | error error => simp
    | ok writer =>
      have hreceived :
          (memory.redacted.receiving writer.path plan.redacted.options.entries).redacted =
            (memory.receiving writer.path plan.options.entries).redacted := by
        simp [redacted_receiving, WriterPlan.redacted, Options.redacted, Dictionary.mapItems_redact]
      simp only [Reply.seen_reporting, seen_returnNew]
      exact congrArg (fun state ↦ (state.returnNew (.writer writer)).reporting
        (writerBuilt plan writer)) hreceived

/-! ### Readers, rows and writers -/

@[simp] theorem openReaderOf_redacted (memory : Memory) (handle : Handle) (method : String) :
    memory.redacted.openReaderOf handle method = memory.openReaderOf handle method := by
  simp [openReaderOf]

theorem seen_readRow : seen (readRow handle memory.redacted) = seen (readRow handle memory) := by
  unfold readRow
  rw [openReaderOf_redacted]
  cases memory.openReaderOf handle "readNextCarbonRow" with
  | error error => simp
  | ok reader => cases hrows : reader.remaining <;> simp [hrows]

theorem seen_readRows :
    seen (readRows handle arguments memory.redacted) = seen (readRows handle arguments memory) := by
  unfold readRows
  rw [openReaderOf_redacted]
  cases Argument.intAt arguments 0 "readNextBatchRow" with
  | error error => simp
  | ok size =>
    dsimp only
    split
    · simp
    · cases memory.openReaderOf handle "readNextBatchRow" with
      | error error => simp
      | ok reader =>
        dsimp only
        split <;> simp

theorem seen_closeReader :
    seen (closeReader handle memory.redacted) = seen (closeReader handle memory) := by
  unfold closeReader
  rw [reader_redacted]
  cases memory.reader handle "close" <;> simp

@[simp] theorem fieldOfRow_redacted (memory : Memory) (handle : Handle) (arguments : List Argument)
    (method : String) :
    memory.redacted.fieldOfRow handle arguments method =
      memory.fieldOfRow handle arguments method := by
  simp [fieldOfRow]

@[simp] theorem getWith_redacted (method wanted : String) (take : Value → Option Returned)
    (handle : Handle) (arguments : List Argument) (memory : Memory) :
    getWith method wanted take handle arguments memory.redacted =
      getWith method wanted take handle arguments memory := by
  simp [getWith]

theorem seen_writeRecord :
    seen (writeRecord handle arguments memory.redacted) =
      seen (writeRecord handle arguments memory) := by
  unfold writeRecord
  rw [writer_redacted]
  cases Argument.textsAt arguments 0 "write" with
  | error error => simp
  | ok record =>
    cases memory.writer handle "write" with
    | error error => simp
    | ok writer =>
      dsimp only
      split
      · simp
      · cases readRecord writer.schema record <;> simp

theorem seen_closeWriter :
    seen (closeWriter handle memory.redacted) = seen (closeWriter handle memory) := by
  unfold closeWriter
  rw [writer_redacted]
  cases memory.writer handle "close" with
  | error error => simp
  | ok writer =>
    let closed := ManagedObject.writer { writer with newestFirst := [], closed := true }
    have hput : (memory.redacted.put handle closed).redacted =
        (memory.put handle closed).redacted := by
      simp
    have hstore := Store.redacted_redacted (memory.store.commit writer.path writer.schema
      (WriterState.committed writer) writer.writtenBy)
    dsimp only
    split
    · simp
    · split
      · exact congrArg (Reply.returned · _) hput
      · simp only [Reply.seen_reporting]
        exact congrArg (fun state ↦ (Reply.returned state Returned.nothing).reporting _)
          (redacted_with_store hput hstore)

/-! ### Schemas and configurations -/

theorem seen_schemaOf {find : Memory → String → Except CallError StoredFile} (method : String)
    (h : ∀ path, find memory.redacted path = find memory path) :
    seen (schemaOf find method arguments memory.redacted) =
      seen (schemaOf find method arguments memory) := by
  unfold schemaOf
  cases Argument.textAt arguments 0 method with
  | error error => simp
  | ok path =>
    dsimp only
    rw [h]
    cases find memory path <;> simp

theorem seen_schemaFields :
    seen (schemaFields handle memory.redacted) = seen (schemaFields handle memory) := by
  unfold schemaFields
  rw [schema_redacted]
  cases memory.schema handle "getFields" <;> simp

theorem seen_fieldType :
    seen (fieldType handle memory.redacted) = seen (fieldType handle memory) := by
  unfold fieldType
  rw [field_redacted]
  cases memory.field handle "getDataType" <;> simp

theorem seen_elementType :
    seen (elementType handle memory.redacted) = seen (elementType handle memory) := by
  unfold elementType
  rw [type_redacted]
  cases memory.type handle "getElementType" with
  | error error => simp
  | ok type =>
    dsimp only
    split <;> simp

/-! ### Settings -/

variable {key value twin : String}

/-- An option of a reader comes to the same for values that are the same once the secrets are taken
out. -/
theorem seen_setReaderOption (h : redact key value = redact key twin) :
    seen (setReaderOption handle [.text key, .text value] memory.redacted) =
      seen (setReaderOption handle [.text key, .text twin] memory) :=
  seen_changeReader _ fun plan ↦ by simp [ReaderPlan.redacted, Options.redacted_set, h]

/-- So does an option of a writer. -/
theorem seen_setWriterOption (h : redact key value = redact key twin) :
    seen (setWriterOption handle [.text key, .text value] memory.redacted) =
      seen (setWriterOption handle [.text key, .text twin] memory) :=
  seen_changeWriter _ fun plan ↦ by simp [WriterPlan.redacted, Options.redacted_set, h]

/-- So does an entry of a configuration. -/
theorem seen_setEntry (h : redact key value = redact key twin) :
    seen (setEntry handle [.text key, .text value] memory.redacted) =
      seen (setEntry handle [.text key, .text twin] memory) := by
  have hread : ∀ content, Argument.textAt [.text key, .text content] 0 "set" = .ok key ∧
      Argument.textAt [.text key, .text content] 1 "set" = .ok content := fun _ ↦ ⟨rfl, rfl⟩
  unfold setEntry
  rw [(hread value).1, (hread value).2, (hread twin).1, (hread twin).2, configuration_redacted]
  cases memory.configuration handle "set" with
  | error error => simp [Except.map]
  | ok entries =>
    simp [Except.map, ManagedObject.redacted, Dictionary.mapItems_insert,
      Dictionary.mapItems_redact, h]

/-! ### Every operation -/

/-- What an operation returns and reports, and what it leaves once the secrets are taken out, is the
same if the secrets are taken out before. Only the values of settings that are got are others. -/
theorem perform_redacted {operation : Operation} (h : operation ≠ .getEntry) (handle : Handle)
    (arguments : List Argument) (memory : Memory) :
    seen (perform operation handle arguments memory.redacted) =
      seen (perform operation handle arguments memory) := by
  have hfailed : ∀ error, seen (.failed memory.redacted error : Reply Memory Returned) =
      seen (.failed memory error) := fun error ↦ by simp
  cases operation with
  | newNamedReaderBuilder | newReaderBuilder =>
    simp only [perform, newNamedReaderBuilder, newReaderBuilder]
    split <;> simp
  | setProjection | setReaderOption | setBatch =>
    simp only [perform, setProjection, setReaderOption, setBatch]
    repeat' split
    all_goals first
      | exact hfailed _
      | exact seen_changeReader _ fun plan ↦ by simp [ReaderPlan.redacted, Options.redacted_set]
  | setOutputPath | setCsvSchema | setWriterOption | setWrittenBy | setSortColumns | setBlockSize
  | setBlockletSize | setUniqueIdentifier =>
    simp only [perform, setOutputPath, setCsvSchema, setWriterOption, setWrittenBy, setSortColumns,
      setBlockSize, setBlockletSize, setUniqueIdentifier]
    repeat' split
    all_goals first
      | exact hfailed _
      | exact seen_changeWriter _ fun plan ↦ by simp [WriterPlan.redacted, Options.redacted_set]
  | setEntry =>
    simp only [perform, setEntry, configuration_redacted]
    split
    · exact hfailed _
    · exact hfailed _
    · cases memory.configuration handle "set" with
      | error error => exact hfailed error
      | ok entries =>
        simp [Except.map, ManagedObject.redacted, Dictionary.mapItems_insert,
          Dictionary.mapItems_redact]
  | setReaderConfiguration => exact seen_setReaderConfiguration
  | buildReader => exact seen_buildReader
  | readRow => exact seen_readRow
  | readRows => exact seen_readRows
  | closeReader => exact seen_closeReader
  | buildWriter => exact seen_buildWriter
  | writeRecord => exact seen_writeRecord
  | closeWriter => exact seen_closeWriter
  | schemaOfIndexFile => exact seen_schemaOf _ fun path ↦ rfl
  | schemaOfDataFile => exact seen_schemaOf _ fun path ↦ rfl
  | schemaOfSchemaFile => exact seen_schemaOf _ fun path ↦ rfl
  | schemaFields => exact seen_schemaFields
  | fieldType => exact seen_fieldType
  | elementType => exact seen_elementType
  | newWriterBuilder | newConfiguration => simp [perform, newWriterBuilder, newConfiguration]
  | getEntry => exact absurd rfl h
  | versionDetails =>
    have hdetails : versionDetails arguments memory.redacted = versionDetails arguments memory :=
      rfl
    simp only [perform, hdetails, Reply.seen_ofExcept, redacted_redacted]
  | hasNextRow | rowLength | columnTypeName | elementTypeName | fieldName | typeName =>
    simp [perform, hasNextRow, rowLength, columnTypeName, elementTypeName, fieldName, typeName]
  | getShort | getInt | getLong | getDouble | getFloat | getBoolean | getString | getDecimal
  | getVarchar | getArray => simp [perform]

/-- Setting a value comes to the same for values that are the same once the secrets are taken
out. -/
theorem perform_set_redacted {operation : Operation} (hsets : operation.SetsValue)
    (h : redact key value = redact key twin) (handle : Handle) (memory : Memory) :
    seen (perform operation handle [.text key, .text value] memory.redacted) =
      seen (perform operation handle [.text key, .text twin] memory) := by
  rcases hsets with rfl | rfl | rfl
  · exact seen_setReaderOption h
  · exact seen_setWriterOption h
  · exact seen_setEntry h

variable {first second : Memory} {operation : Operation}

/-- On backends that look the same an operation looks the same. -/
theorem echoes_perform (hoperation : operation ≠ .getEntry) (handle : Handle)
    (arguments : List Argument) (h : first.redacted = second.redacted) :
    (perform operation handle arguments first).Echoes redacted Eq
      (perform operation handle arguments second) := by
  refine Reply.echoes_of_seen ?_
  change seen _ = seen _
  rw [← perform_redacted hoperation handle arguments first, h, perform_redacted hoperation]

theorem echoes_perform_set (hsets : operation.SetsValue)
    (hvalue : redact key value = redact key twin) (handle : Handle)
    (h : first.redacted = second.redacted) :
    (perform operation handle [.text key, .text value] first).Echoes redacted Eq
      (perform operation handle [.text key, .text twin] second) := by
  refine Reply.echoes_of_seen ?_
  change seen _ = seen _
  rw [← perform_set_redacted hsets rfl, h, perform_set_redacted hsets hvalue]

/-- The values of a setting in backends that look the same are the same but for a secret. -/
theorem echoes_getEntry (handle : Handle) (key : String) (h : first.redacted = second.redacted) :
    (perform .getEntry handle [.text key] first).Echoes redacted
      (fun a b ↦ a.redacted key = b.redacted key)
      (perform .getEntry handle [.text key] second) := by
  have hgot : ∀ memory : Memory, (getEntry handle [.text key] memory).map (Returned.redacted key) =
      getEntry handle [.text key] memory.redacted := by
    intro memory
    change (memory.configuration handle "get" >>= _).map _ =
      (memory.redacted.configuration handle "get" >>= _)
    rw [configuration_redacted]
    rcases memory.configuration handle "get" with error | entries
    · rfl
    · exact congrArg (fun text ↦ Except.ok (Returned.text text))
        (Dictionary.get?_mapItems redact key entries).symm
  refine Reply.echoes_ofExcept h ?_
  exact endsAlike_of_map_eq ((hgot first).trans ((congrArg _ h).trans (hgot second).symm))

/-! ### Calls -/

theorem isShutDown_congr (h : first.redacted = second.redacted) :
    first.isShutDown = second.isShutDown :=
  (Memory.mk.inj h).2.2

theorem liveObjects_congr (h : first.redacted = second.redacted) :
    first.liveObjects = second.liveObjects := by
  rw [← liveObjects_redacted, h, liveObjects_redacted]

theorem echoes_invoke {related : Returned → Returned → Prop} {arguments twins : List Argument}
    (kind : MethodKind) (target : Option Handle)
    (hperform : ∀ first second : Memory, first.redacted = second.redacted →
      (perform operation (target.getD 0) arguments first).Echoes redacted related
        (perform operation (target.getD 0) twins second))
    (h : first.redacted = second.redacted) :
    (first.invoke kind target operation.method arguments).Echoes redacted related
      (second.invoke kind target operation.method twins) := by
  have hcounting : (first.counting operation.method).redacted =
      (second.counting operation.method).redacted := congrArg (·.counting operation.method) h
  have hrunning := isShutDown_congr h
  unfold invoke
  by_cases hdown : first.isShutDown = true
  · rw [if_pos hdown, if_pos (hrunning.symm.trans hdown)]
    exact Reply.echoes_failed h _
  · rw [if_neg hdown, if_neg (hrunning ▸ hdown : ¬ second.isShutDown = true)]
    by_cases hkind : operation.method.kind ≠ kind
    · rw [if_pos hkind, if_pos hkind]
      exact Reply.echoes_failed h _
    · rw [if_neg hkind, if_neg hkind, Operation.ofMethod?_method]
      exact (hperform _ _ hcounting).reporting _

theorem echoes_release (handle : Handle) (h : first.redacted = second.redacted) :
    (release handle first).Echoes redacted Eq (release handle second) := by
  have hheld : (first.object? handle).isSome = (second.object? handle).isSome := by
    have hobject := congrArg (·.object? handle) h
    simp only [object?_redacted] at hobject
    have hsome := congrArg Option.isSome hobject
    rwa [Option.isSome_map, Option.isSome_map] at hsome
  unfold release
  rw [isShutDown_congr h, hheld]
  split
  · exact Reply.echoes_failed h _
  · split
    · refine ⟨.ok (.ok rfl), ?_, rfl⟩
      change (first.vacate handle).redacted = (second.vacate handle).redacted
      rw [redacted_vacate, redacted_vacate, h]
    · exact Reply.echoes_failed h _

theorem echoes_shutdown (h : first.redacted = second.redacted) :
    (shutdown first).Echoes redacted Eq (shutdown second) := by
  obtain ⟨hstore, hslots, hrunning⟩ := Memory.mk.inj h
  have hvacant : first.slots.map (fun _ ↦ (none : Option ManagedObject)) =
      second.slots.map fun _ ↦ none := by
    have hnone := congrArg (Array.map fun _ ↦ (none : Option ManagedObject)) hslots
    rwa [Array.map_map, Array.map_map] at hnone
  unfold shutdown
  rw [hrunning]
  split
  · exact Reply.echoes_failed h _
  · rw [liveObjects_congr h, hvacant]
    refine Reply.Echoes.reporting ?_ _
    refine ⟨.ok (.ok rfl), ?_, rfl⟩
    simp only [Reply.returned, redacted, hstore]

end Memory

end ColumnStore
