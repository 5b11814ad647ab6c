import ColumnStore.Memory.Backend
import ColumnStore.Proofs.Memory.Objects

/-!
# What an operation makes of the backend

`Memory.Effect` lists everything that an operation can do to the objects and to the store, with the
outcome that goes with it, and `effect_perform` shows that every operation does one of these things,
whatever it is called on and with whatever arguments. What holds of every call is proved from this
list and not from the operations.
-/

set_option autoImplicit false

namespace ColumnStore

/-- The handles in a result. -/
def Returned.handles : Returned → List Handle
  | .object (some handle) => [handle]
  | .objects handles => handles
  | _ => []

/-- Operations that give their target a new state and nothing else: the steps of the builders, and
setting an entry of a configuration. -/
def Operation.settles : Operation → Bool
  | .setProjection | .setReaderOption | .setReaderConfiguration | .setBatch | .setOutputPath
  | .setCsvSchema | .setWriterOption | .setWrittenBy | .setSortColumns | .setBlockSize
  | .setBlockletSize | .setUniqueIdentifier | .setEntry => true
  | _ => false

/-- Objects that hold rows: readers, rows and writers. -/
def ManagedObject.holdsRows : ManagedObject → Bool
  | .reader _ | .row _ | .writer _ => true
  | _ => false

namespace Memory

/-- What an operation called on `handle` makes of the backend, with its outcome. -/
inductive Effect (operation : Operation) (handle : Handle) (before : Memory) :
    Outcome Returned → Memory → Prop
  /-- A failure that changes nothing. -/
  | refused (error : CallError) : Effect operation handle before (.failed error) before
  /-- An answer that changes nothing. -/
  | answered (result : Returned) (hresult : result.handles = []) :
      Effect operation handle before (.returned result) before
  /-- A new object, made without a target. -/
  | made (object : ManagedObject) (hkind : operation.method.kind ≠ .onObject)
      (hrows : object.holdsRows = false) (hreturns : operation.method.returns = .object) :
      Effect operation handle before (.returned (.object (some before.nextHandle)))
        (before.pin object)
  /-- A new object that describes a part of the target. -/
  | described (target object : ManagedObject) (htarget : before.object? handle = some target)
      (hpart : target.holdsRows = false) (hrows : object.holdsRows = false)
      (hoperation : operation = .fieldType ∨ operation = .elementType) :
      Effect operation handle before (.returned (.object (some before.nextHandle)))
        (before.pin object)
  /-- New objects that describe the parts of the target. -/
  | describedAll (target : ManagedObject) (objects : List ManagedObject)
      (htarget : before.object? handle = some target) (hpart : target.holdsRows = false)
      (hrows : ∀ object ∈ objects, object.holdsRows = false)
      (hoperation : operation = .schemaFields) :
      Effect operation handle before
        (.returned (.objects (List.range' before.nextHandle objects.length)))
        (before.pinAll objects)
  /-- A new state of a builder or a configuration. -/
  | settled (old new : ManagedObject) (hold : before.object? handle = some old)
      (hclass : new.className = old.className) (hrows : old.holdsRows = false ∧
        new.holdsRows = false) (result : Returned)
      (hresult : result = .object (some handle) ∨ result = .nothing)
      (hsettles : operation.settles = true) :
      Effect operation handle before (.returned result) (before.put handle new)
  /-- A reader builder whose options were handed over and that could not be finished. -/
  | unbuilt (plan : ReaderPlan) (hplan : before.object? handle = some (.readerBuilder plan))
      (error : CallError) (hoperation : operation = .buildReader) :
      Effect operation handle before (.failed error)
        { before with store := before.store.receive plan.path plan.options.entries }
  /-- A reader builder that broke off at a row without a column that is asked for. -/
  | broken (plan : ReaderPlan) (hplan : before.object? handle = some (.readerBuilder plan))
      (hoperation : operation = .buildReader) :
      Effect operation handle before .crashed
        { before with store := before.store.receive plan.path plan.options.entries }
  /-- A new reader. -/
  | opened (plan : ReaderPlan) (hplan : before.object? handle = some (.readerBuilder plan))
      (schema : Schema) (rows : List Row) (hoperation : operation = .buildReader) :
      Effect operation handle before (.returned (.object (some before.nextHandle)))
        (({ before with store := before.store.receive plan.path plan.options.entries } :
          Memory).pin (.reader ⟨schema, rows, false⟩))
  /-- A row that is handed out. -/
  | tookRow (reader : ReaderState) (hreader : before.object? handle = some (.reader reader))
      (hopen : reader.closed = false) (row : Row) (rest : List Row)
      (hrows : reader.remaining = row :: rest) (hoperation : operation = .readRow) :
      Effect operation handle before (.returned (.object (some before.nextHandle)))
        ((before.put handle (.reader { reader with remaining := rest })).pin
          (.row ⟨reader.schema, row⟩))
  /-- Rows that are handed out together. -/
  | tookRows (reader : ReaderState) (hreader : before.object? handle = some (.reader reader))
      (hopen : reader.closed = false) (count : Nat) (hoperation : operation = .readRows) :
      Effect operation handle before
        (.returned (.objects (List.range' before.nextHandle (reader.remaining.take count).length)))
        ((before.put handle
          (.reader { reader with remaining := reader.remaining.drop count })).pinAll
          ((reader.remaining.take count).map fun row ↦ .row ⟨reader.schema, row⟩))
  /-- A reader that is closed. -/
  | closedReader (hoperation : operation = .closeReader) (reader : ReaderState)
      (hreader : before.object? handle = some (.reader reader)) :
      Effect operation handle before (.returned .nothing)
        (before.put handle (.reader { reader with remaining := [], closed := true }))
  /-- A new writer. -/
  | began (plan : WriterPlan) (hplan : before.object? handle = some (.writerBuilder plan))
      (writer : WriterState) (hwriter : planned plan = .ok writer)
      (hoperation : operation = .buildWriter) :
      Effect operation handle before (.returned (.object (some before.nextHandle)))
        (({ before with store := before.store.receive writer.path plan.options.entries } :
          Memory).pin (.writer writer))
  /-- A record that a writer takes. -/
  | wrote (writer : WriterState) (hwriter : before.object? handle = some (.writer writer))
      (hopen : writer.closed = false) (record : List String) (row : Row)
      (hread : readRecord writer.schema record = .ok row) (hoperation : operation = .writeRecord) :
      Effect operation handle before (.returned .nothing)
        (before.put handle (.writer { writer with newestFirst := row :: writer.newestFirst }))
  /-- A writer without records that is closed. -/
  | closedEmpty (writer : WriterState) (hwriter : before.object? handle = some (.writer writer))
      (hopen : writer.closed = false) (hrows : writer.newestFirst = [])
      (hoperation : operation = .closeWriter) :
      Effect operation handle before (.returned .nothing)
        (before.put handle (.writer { writer with newestFirst := [], closed := true }))
  /-- A writer that commits its records as it is closed. -/
  | committed (writer : WriterState) (hwriter : before.object? handle = some (.writer writer))
      (hopen : writer.closed = false) (hrows : writer.newestFirst ≠ [])
      (hoperation : operation = .closeWriter) :
      Effect operation handle before (.returned .nothing)
        { before.put handle (.writer { writer with newestFirst := [], closed := true }) with
          store := before.store.commit writer.path writer.schema
            (WriterState.committed writer) writer.writtenBy }

/-- The reply of an operation is one of the effects that the operation can have. -/
def HasEffect (operation : Operation) (handle : Handle) (before : Memory)
    (reply : Reply Memory Returned) : Prop :=
  Effect operation handle before reply.outcome reply.state

variable {operation : Operation} {handle : Handle} {arguments : List Argument} {memory : Memory}

/-- An operation that only looks at the backend and whose result holds no handle. -/
theorem hasEffect_ofExcept {result : Except CallError Returned}
    (h : ∀ returned, result = .ok returned → returned.handles = []) :
    HasEffect operation handle memory (.ofExcept memory result) := by
  cases result with
  | error error => exact .refused error
  | ok returned => exact .answered returned (h returned rfl)

/-! ### Readers -/

theorem hasEffect_newReaderBuilder :
    HasEffect .newReaderBuilder handle memory (newReaderBuilder arguments memory) := by
  unfold newReaderBuilder
  cases Argument.textAt arguments 0 "builder" with
  | error error => exact .refused error
  | ok path => exact .made _ (by decide) rfl rfl

theorem hasEffect_newNamedReaderBuilder :
    HasEffect .newNamedReaderBuilder handle memory (newNamedReaderBuilder arguments memory) := by
  unfold newNamedReaderBuilder
  cases Argument.textAt arguments 0 "builder" with
  | error error => exact .refused error
  | ok path =>
    cases Argument.textAt arguments 1 "builder" with
    | error error => exact .refused error
    | ok table => exact .made _ (by decide) rfl rfl

theorem hasEffect_changeReader {method : String} {change : ReaderPlan → ReaderPlan}
    (hsettles : operation.settles = true) :
    HasEffect operation handle memory (changeReader handle method change memory) := by
  unfold changeReader
  cases hplan : memory.readerBuilder handle method with
  | error error => exact .refused error
  | ok plan =>
    exact .settled (.readerBuilder plan) (.readerBuilder (change plan))
      (readerBuilder_eq_ok_iff.mp hplan) rfl ⟨rfl, rfl⟩ _ (.inl rfl) hsettles

theorem hasEffect_setProjection :
    HasEffect .setProjection handle memory (setProjection handle arguments memory) := by
  unfold setProjection
  cases Argument.textsAt arguments 0 "projection" with
  | error error => exact .refused error
  | ok columns => exact hasEffect_changeReader rfl

theorem hasEffect_setReaderOption :
    HasEffect .setReaderOption handle memory (setReaderOption handle arguments memory) := by
  unfold setReaderOption
  cases Argument.textAt arguments 0 "withHadoopConf" with
  | error error => exact .refused error
  | ok key =>
    cases Argument.textAt arguments 1 "withHadoopConf" with
    | error error => exact .refused error
    | ok value => exact hasEffect_changeReader rfl

theorem hasEffect_setReaderConfiguration :
    HasEffect .setReaderConfiguration handle memory
      (setReaderConfiguration handle arguments memory) := by
  unfold setReaderConfiguration
  cases configurationArgument arguments memory with
  | error error => exact .refused error
  | ok entries => exact hasEffect_changeReader rfl

theorem hasEffect_setBatch :
    HasEffect .setBatch handle memory (setBatch handle arguments memory) := by
  unfold setBatch
  cases Argument.intAt arguments 0 "withBatch" with
  | error error => exact .refused error
  | ok size =>
    dsimp only
    split
    · exact .refused _
    · exact hasEffect_changeReader rfl

theorem hasEffect_buildReader :
    HasEffect .buildReader handle memory (buildReader handle memory) := by
  unfold buildReader
  cases hplan : memory.readerBuilder handle "build" with
  | error error => exact .refused error
  | ok plan =>
    have hobject := readerBuilder_eq_ok_iff.mp hplan
    dsimp only
    split
    · exact .unbuilt plan hobject _ rfl
    · split
      · exact .unbuilt plan hobject _ rfl
      · split
        · exact .opened plan hobject _ _ rfl
        · unfold openProjected
          split
          · exact .unbuilt plan hobject _ rfl
          · exact .unbuilt plan hobject _ rfl
          · split
            · exact .broken plan hobject rfl
            · exact .opened plan hobject _ _ rfl

theorem hasEffect_hasNextRow : HasEffect operation handle memory (hasNextRow handle memory) := by
  refine hasEffect_ofExcept fun returned h ↦ ?_
  cases hreader : memory.openReaderOf handle "hasNext" with
  | error error => simp [hreader, Except.map] at h
  | ok reader =>
    simp only [hreader, Except.map, Except.ok.injEq] at h
    rw [← h]
    rfl

theorem hasEffect_readRow : HasEffect .readRow handle memory (readRow handle memory) := by
  unfold readRow
  cases hreader : memory.openReaderOf handle "readNextCarbonRow" with
  | error error => exact .refused error
  | ok reader =>
    obtain ⟨hobject, hopen⟩ := openReaderOf_eq_ok_iff.mp hreader
    dsimp only
    split
    · exact .refused _
    · rename_i row rest hrows
      have heffect : Effect .readRow handle memory _ _ :=
        .tookRow reader hobject hopen row rest hrows rfl
      simpa only [HasEffect, returnNew, Reply.returned, nextHandle_put] using heffect

theorem hasEffect_readRows :
    HasEffect .readRows handle memory (readRows handle arguments memory) := by
  unfold readRows
  cases Argument.intAt arguments 0 "readNextBatchRow" with
  | error error => exact .refused error
  | ok size =>
    dsimp only
    split
    · exact .refused _
    · cases hreader : memory.openReaderOf handle "readNextBatchRow" with
      | error error => exact .refused error
      | ok reader =>
        obtain ⟨hobject, hopen⟩ := openReaderOf_eq_ok_iff.mp hreader
        dsimp only
        split
        · exact .refused _
        · have heffect : Effect .readRows handle memory _ _ :=
            .tookRows reader hobject hopen size.toInt.toNat rfl
          simpa only [HasEffect, returnAll, Reply.returned, List.length_map, nextHandle_put]
            using heffect

theorem hasEffect_closeReader :
    HasEffect .closeReader handle memory (closeReader handle memory) := by
  unfold closeReader
  cases hreader : memory.reader handle "close" with
  | error error => exact .refused error
  | ok reader => exact .closedReader rfl reader (reader_eq_ok_iff.mp hreader)

/-! ### Writers -/

theorem hasEffect_changeWriter {method : String} {change : WriterPlan → WriterPlan}
    (hsettles : operation.settles = true) :
    HasEffect operation handle memory (changeWriter handle method change memory) := by
  unfold changeWriter
  cases hplan : memory.writerBuilder handle method with
  | error error => exact .refused error
  | ok plan =>
    exact .settled (.writerBuilder plan) (.writerBuilder (change plan))
      (writerBuilder_eq_ok_iff.mp hplan) rfl ⟨rfl, rfl⟩ _ (.inl rfl) hsettles

theorem hasEffect_setOutputPath :
    HasEffect .setOutputPath handle memory (setOutputPath handle arguments memory) := by
  unfold setOutputPath
  cases Argument.textAt arguments 0 "outputPath" with
  | error error => exact .refused error
  | ok path => exact hasEffect_changeWriter rfl

theorem hasEffect_setCsvSchema :
    HasEffect .setCsvSchema handle memory (setCsvSchema handle arguments memory) := by
  unfold setCsvSchema
  cases Argument.textAt arguments 0 "withCsvInput" with
  | error error => exact .refused error
  | ok text =>
    dsimp only
    cases Schema.read text with
    | error error => exact .refused _
    | ok schema => exact hasEffect_changeWriter rfl

theorem hasEffect_setWriterOption :
    HasEffect .setWriterOption handle memory (setWriterOption handle arguments memory) := by
  unfold setWriterOption
  cases Argument.textAt arguments 0 "withHadoopConf" with
  | error error => exact .refused error
  | ok key =>
    cases Argument.textAt arguments 1 "withHadoopConf" with
    | error error => exact .refused error
    | ok value => exact hasEffect_changeWriter rfl

theorem hasEffect_setWrittenBy :
    HasEffect .setWrittenBy handle memory (setWrittenBy handle arguments memory) := by
  unfold setWrittenBy
  cases Argument.textAt arguments 0 "writtenBy" with
  | error error => exact .refused error
  | ok name => exact hasEffect_changeWriter rfl

theorem hasEffect_setSortColumns :
    HasEffect .setSortColumns handle memory (setSortColumns handle arguments memory) := by
  unfold setSortColumns
  cases Argument.textsAt arguments 0 "sortBy" with
  | error error => exact .refused error
  | ok columns => exact hasEffect_changeWriter rfl

theorem hasEffect_setBlockSize :
    HasEffect .setBlockSize handle memory (setBlockSize handle arguments memory) := by
  unfold setBlockSize
  cases Argument.intAt arguments 0 "withBlockSize" with
  | error error => exact .refused error
  | ok size =>
    dsimp only
    split
    · exact .refused _
    · exact hasEffect_changeWriter rfl

theorem hasEffect_setBlockletSize :
    HasEffect .setBlockletSize handle memory (setBlockletSize handle arguments memory) := by
  unfold setBlockletSize
  cases Argument.intAt arguments 0 "withBlockletSize" with
  | error error => exact .refused error
  | ok size =>
    dsimp only
    split
    · exact .refused _
    · exact hasEffect_changeWriter rfl

theorem hasEffect_setUniqueIdentifier :
    HasEffect .setUniqueIdentifier handle memory (setUniqueIdentifier handle arguments memory) := by
  unfold setUniqueIdentifier
  cases Argument.longAt arguments 0 "uniqueIdentifier" with
  | error error => exact .refused error
  | ok identifier => exact hasEffect_changeWriter rfl

theorem hasEffect_buildWriter :
    HasEffect .buildWriter handle memory (buildWriter handle memory) := by
  unfold buildWriter
  cases hplan : memory.writerBuilder handle "build" with
  | error error => exact .refused error
  | ok plan =>
    dsimp only
    cases hwriter : planned plan with
    | error error => exact .refused error
    | ok writer => exact .began plan (writerBuilder_eq_ok_iff.mp hplan) writer hwriter rfl

theorem hasEffect_writeRecord :
    HasEffect .writeRecord handle memory (writeRecord handle arguments memory) := by
  unfold writeRecord
  cases Argument.textsAt arguments 0 "write" with
  | error error => exact .refused error
  | ok record =>
    dsimp only
    cases hwriter : memory.writer handle "write" with
    | error error => exact .refused error
    | ok writer =>
      dsimp only
      split
      · exact .refused _
      · rename_i hopen
        cases hread : readRecord writer.schema record with
        | error error => exact .refused error
        | ok row =>
          exact .wrote writer (writer_eq_ok_iff.mp hwriter) (by simpa using hopen) record row hread
            rfl

theorem hasEffect_closeWriter :
    HasEffect .closeWriter handle memory (closeWriter handle memory) := by
  unfold closeWriter
  cases hwriter : memory.writer handle "close" with
  | error error => exact .refused error
  | ok writer =>
    have hobject := writer_eq_ok_iff.mp hwriter
    dsimp only
    split
    · exact .answered _ rfl
    · rename_i hopen
      split
      · rename_i hrows
        exact .closedEmpty writer hobject (by simpa using hopen) (by simpa using hrows) rfl
      · rename_i hrows
        exact .committed writer hobject (by simpa using hopen) (by simpa using hrows) rfl

/-! ### Schemas, configurations and rows -/

theorem hasEffect_schemaOf {find : Memory → String → Except CallError StoredFile} {method : String}
    (hkind : operation.method.kind ≠ .onObject) (hreturns : operation.method.returns = .object) :
    HasEffect operation handle memory (schemaOf find method arguments memory) := by
  unfold schemaOf
  cases Argument.textAt arguments 0 method with
  | error error => exact .refused error
  | ok path =>
    dsimp only
    cases find memory path with
    | error error => exact .refused error
    | ok file => exact .made _ hkind rfl hreturns

theorem hasEffect_schemaFields :
    HasEffect .schemaFields handle memory (schemaFields handle memory) := by
  unfold schemaFields
  cases hschema : memory.schema handle "getFields" with
  | error error => exact .refused error
  | ok schema =>
    exact .describedAll _ _ (schema_eq_ok_iff.mp hschema) rfl (by simp [ManagedObject.holdsRows])
      rfl

theorem hasEffect_fieldType : HasEffect .fieldType handle memory (fieldType handle memory) := by
  unfold fieldType
  cases hfield : memory.field handle "getDataType" with
  | error error => exact .refused error
  | ok field => exact .described _ _ (field_eq_ok_iff.mp hfield) rfl rfl (.inl rfl)

theorem hasEffect_elementType :
    HasEffect .elementType handle memory (elementType handle memory) := by
  unfold elementType
  cases htype : memory.type handle "getElementType" with
  | error error => exact .refused error
  | ok type =>
    dsimp only
    split
    · exact .described _ _ (type_eq_ok_iff.mp htype) rfl rfl (.inr rfl)
    · exact .refused _

theorem hasEffect_setEntry :
    HasEffect .setEntry handle memory (setEntry handle arguments memory) := by
  unfold setEntry
  cases Argument.textAt arguments 0 "set" with
  | error error => exact .refused error
  | ok key =>
    cases Argument.textAt arguments 1 "set" with
    | error error => exact .refused error
    | ok value =>
      dsimp only
      cases hentries : memory.configuration handle "set" with
      | error error => exact .refused error
      | ok entries =>
        exact .settled (.configuration entries) (.configuration (entries.insert key value))
          (configuration_eq_ok_iff.mp hentries) rfl ⟨rfl, rfl⟩ _ (.inr rfl) rfl

theorem hasEffect_map {α : Type} {found : Except CallError α} {answer : α → Returned}
    (h : ∀ a, (answer a).handles = []) :
    HasEffect operation handle memory (.ofExcept memory (found.map answer)) := by
  refine hasEffect_ofExcept fun returned hreturned ↦ ?_
  cases found with
  | error error => simp [Except.map] at hreturned
  | ok a =>
    simp only [Except.map, Except.ok.injEq] at hreturned
    rw [← hreturned]
    exact h a

theorem hasEffect_bind {α : Type} {found : Except CallError α}
    {answer : α → Except CallError Returned}
    (h : ∀ a returned, answer a = .ok returned → returned.handles = []) :
    HasEffect operation handle memory (.ofExcept memory (found >>= answer)) := by
  refine hasEffect_ofExcept fun returned hreturned ↦ ?_
  cases found with
  | error error => simp [bind, Except.bind] at hreturned
  | ok a => exact h a returned hreturned

/-- What the getters take of a field. -/
def takes : List (Value → Option Returned) :=
  [takeShort, takeInt, takeLong, takeDouble, takeFloat, takeBoolean, takeText, takeDecimal,
    takeArray]

/-- No getter returns an object. -/
theorem handles_of_takes {take : Value → Option Returned} (htake : take ∈ takes) {value : Value}
    {returned : Returned} (h : take value = some returned) : returned.handles = [] := by
  simp only [takes, List.mem_cons, List.not_mem_nil, or_false] at htake
  rcases htake with rfl | rfl | rfl | rfl | rfl | rfl | rfl | rfl | rfl <;>
    cases value <;> cases h <;> rfl

theorem hasEffect_getWith {method wantedClass : String} {take : Value → Option Returned}
    (htake : take ∈ takes) : HasEffect operation handle memory
      (.ofExcept memory (getWith method wantedClass take handle arguments memory)) := by
  refine hasEffect_bind fun field returned hreturned ↦ ?_
  split at hreturned
  · rename_i found hfound
    rw [← Except.ok.inj hreturned]
    exact handles_of_takes htake hfound
  · split at hreturned <;> simp at hreturned

theorem hasEffect_elementTypeName :
    HasEffect operation handle memory
      (.ofExcept memory (elementTypeName handle arguments memory)) := by
  refine hasEffect_bind fun field returned hreturned ↦ ?_
  split at hreturned
  · rw [← Except.ok.inj hreturned]
    rfl
  · simp at hreturned

theorem hasEffect_versionDetails :
    HasEffect operation handle memory (.ofExcept memory (versionDetails arguments memory)) := by
  refine hasEffect_bind fun path returned hreturned ↦ ?_
  cases hfile : memory.dataFile path with
  | error error => simp [hfile, bind, Except.bind] at hreturned
  | ok file =>
    simp only [hfile, bind, Except.bind, Except.ok.injEq] at hreturned
    rw [← hreturned]
    rfl

theorem hasEffect_getEntry :
    HasEffect operation handle memory
      (.ofExcept memory (getEntry handle arguments memory)) := by
  refine hasEffect_bind fun key returned hreturned ↦ ?_
  cases hentries : memory.configuration handle "get" with
  | error error => simp [hentries, bind, Except.bind] at hreturned
  | ok entries =>
    simp only [hentries, bind, Except.bind, Except.ok.injEq] at hreturned
    rw [← hreturned]
    rfl

/-- Every operation does one of the things that `Effect` lists. -/
theorem effect_perform (operation : Operation) (handle : Handle) (arguments : List Argument)
    (memory : Memory) :
    Effect operation handle memory (memory.perform operation handle arguments).outcome
      (memory.perform operation handle arguments).state := by
  cases operation with
  | newNamedReaderBuilder => exact hasEffect_newNamedReaderBuilder
  | newReaderBuilder => exact hasEffect_newReaderBuilder
  | setProjection => exact hasEffect_setProjection
  | setReaderOption => exact hasEffect_setReaderOption
  | setReaderConfiguration => exact hasEffect_setReaderConfiguration
  | setBatch => exact hasEffect_setBatch
  | buildReader => exact hasEffect_buildReader
  | hasNextRow => exact hasEffect_hasNextRow
  | readRow => exact hasEffect_readRow
  | readRows => exact hasEffect_readRows
  | closeReader => exact hasEffect_closeReader
  | rowLength => exact hasEffect_map fun _ ↦ rfl
  | columnTypeName => exact hasEffect_map fun _ ↦ rfl
  | elementTypeName => exact hasEffect_elementTypeName
  | getShort | getInt | getLong | getDouble | getFloat | getBoolean | getString | getVarchar
  | getDecimal | getArray => exact hasEffect_getWith (by simp [takes])
  | newWriterBuilder => exact .made _ (by decide) rfl rfl
  | setOutputPath => exact hasEffect_setOutputPath
  | setCsvSchema => exact hasEffect_setCsvSchema
  | setWriterOption => exact hasEffect_setWriterOption
  | setWrittenBy => exact hasEffect_setWrittenBy
  | setSortColumns => exact hasEffect_setSortColumns
  | setBlockSize => exact hasEffect_setBlockSize
  | setBlockletSize => exact hasEffect_setBlockletSize
  | setUniqueIdentifier => exact hasEffect_setUniqueIdentifier
  | buildWriter => exact hasEffect_buildWriter
  | writeRecord => exact hasEffect_writeRecord
  | closeWriter => exact hasEffect_closeWriter
  | schemaOfIndexFile => exact hasEffect_schemaOf (by decide) rfl
  | schemaOfDataFile => exact hasEffect_schemaOf (by decide) rfl
  | schemaOfSchemaFile => exact hasEffect_schemaOf (by decide) rfl
  | versionDetails => exact hasEffect_versionDetails
  | schemaFields => exact hasEffect_schemaFields
  | fieldName => exact hasEffect_map fun _ ↦ rfl
  | fieldType => exact hasEffect_fieldType
  | typeName => exact hasEffect_map fun _ ↦ rfl
  | elementType => exact hasEffect_elementType
  | newConfiguration => exact .made _ (by decide) rfl rfl
  | setEntry => exact hasEffect_setEntry
  | getEntry => exact hasEffect_getEntry

end Memory

end ColumnStore
