import ColumnStore.Console.Command
import ColumnStore.Proofs.Secrets.Backend

/-!
# What a client lets out

A client of the in-process backend behind faults is discreet if the secrets that have been set have
no part in what it does. Whatever is done with readers, rows, writers and schemas is discreet, and
setting a secret does the same whatever its value is: the value that is read back is not reported.
-/

set_option autoImplicit false

namespace ColumnStore

namespace Client

variable {α β : Type} {operation : Operation} {handle : Handle} {arguments : List Argument}

/-- The twin does what the action does if the secrets that have been set are not looked at. -/
abbrev Conceals (related : α → β → Prop) (action : Client (Faulty Memory) α)
    (twin : Client (Faulty Memory) β) : Prop :=
  Echoes Console.backend (Faulty.map Memory.redacted) related action twin

/-- The secrets that have been set have no part in what the action does. -/
abbrev Discreet (action : Client (Faulty Memory) α) : Prop :=
  Blind Console.backend (Faulty.map Memory.redacted) action

/-! ### Calls -/

theorem conceals_call {related : Returned → Returned → Prop} {twins : List Argument}
    (hrefl : ∀ a, related a a)
    (h : ∀ first second : Memory, first.redacted = second.redacted →
      (Memory.perform operation handle arguments first).Echoes Memory.redacted related
        (Memory.perform operation handle twins second)) :
    Conceals (EndsAlike related) (call handle operation arguments) (call handle operation twins) :=
  echoes_exchange <| Faulty.echoes_guard hrefl _ _ _ fun _ _ hview ↦
    Memory.echoes_invoke .onObject (some handle) h hview

theorem discreet_call (hoperation : operation ≠ .getEntry) (handle : Handle)
    (arguments : List Argument) : Discreet (call handle operation arguments) :=
  (conceals_call (fun _ ↦ rfl) fun _ _ hview ↦
    Memory.echoes_perform hoperation handle arguments hview).mono fun _ _ hends ↦ hends.eq

theorem discreet_callStatic (hoperation : operation ≠ .getEntry) (arguments : List Argument) :
    Discreet (callStatic operation arguments) :=
  blind_exchange <| Faulty.echoes_guard (fun _ ↦ rfl) _ _ _ fun _ _ hview ↦
    Memory.echoes_invoke .onClass none
      (fun _ _ hcounted ↦ Memory.echoes_perform hoperation _ arguments hcounted) hview

theorem discreet_construct (hoperation : operation ≠ .getEntry) (arguments : List Argument) :
    Discreet (construct operation arguments) :=
  blind_exchange <| Faulty.echoes_guard (fun _ ↦ rfl) _ _ _ fun _ _ hview ↦
    (Memory.echoes_invoke .constructor none
      (fun _ _ hcounted ↦ Memory.echoes_perform hoperation _ arguments hcounted) hview).andThen
        fun a _ heq ↦ heq ▸ endsAlike_refl (fun _ ↦ rfl) (Returned.toObject operation.method a)

theorem discreet_release (handle : Handle) : Discreet (release handle) :=
  blind_exchange <| Faulty.echoes_guard (fun _ ↦ rfl) _ _ _ fun _ _ hview ↦
    Memory.echoes_release handle hview

/-- Setting a value is echoed by setting another one that is the same without secrets. -/
theorem conceals_call_set (hsets : operation.SetsValue) (handle : Handle) (key value : String) :
    Conceals Eq (call handle operation [.text key, .text value])
      (call handle operation [.text key, .text (redact key value)]) :=
  (conceals_call (fun _ ↦ rfl) fun _ _ hview ↦ Memory.echoes_perform_set hsets
    (redact_redact key value).symm handle hview).mono fun _ _ hends ↦ hends.eq

/-! ### Giving up, and steps of builders -/

theorem discreet_discard (handle : Handle) : Discreet (discard handle) := by
  refine (discreet_release handle).bind_same fun result ↦ ?_
  cases result with
  | ok _ => exact blind_pure ()
  | error error => exact blind_report _

theorem discreet_discardAll (handles : List Handle) : Discreet (discardAll handles) :=
  blind_forM handles discreet_discard

theorem discreet_holding {action : Client (Faulty Memory) α} (h : Discreet action)
    (handle : Handle) : Discreet (holding handle action) :=
  (h.cleaning (discreet_discard handle)).bind_same fun result ↦
    (discreet_discard handle).bind_same fun _ ↦ blind_pure result

theorem discreet_holdingAll {action : Client (Faulty Memory) α} (h : Discreet action)
    (handles : List Handle) : Discreet (holdingAll handles action) :=
  (h.cleaning (discreet_discardAll handles)).bind_same fun result ↦
    (discreet_discardAll handles).bind_same fun _ ↦ blind_pure result

/-- A step of a builder is echoed if its call is. -/
theorem conceals_chain {twins : List Argument}
    (h : Conceals Eq (call handle operation arguments) (call handle operation twins)) :
    Conceals Eq (chain handle operation arguments) (chain handle operation twins) := by
  refine h.bind_same fun returned ↦ ?_
  cases returned.bind (Returned.toObject operation.method) with
  | error error => exact blind_pure _
  | ok other =>
    change Discreet (if other = handle then pure (.ok ()) else release other)
    split
    · exact blind_pure _
    · exact discreet_release other

theorem conceals_chain_expect {twins : List Argument} (name : String)
    (h : Conceals Eq (call handle operation arguments) (call handle operation twins)) :
    Conceals Eq (chain handle operation arguments >>= expect name .other)
      (chain handle operation twins >>= expect name .other) :=
  (conceals_chain h).bind_same fun _ ↦ blind_expect _ _ _

end Client

open Client

/-! ### Reader builders -/

namespace ReaderBuilder

theorem discreet_create {path : String} {table : Option String}
    {call : Client (Faulty Memory) (Except CallError Returned)} (h : Discreet call) :
    Discreet (create path table call) :=
  h.expect_bind fun _ ↦ (blind_report _).bind_same fun _ ↦ blind_pure _

theorem discreet_forPath (path : String) (table : Option String) :
    Discreet (forPath path table) := by
  cases table with
  | none => exact discreet_create (discreet_callStatic (by decide) _)
  | some name => exact discreet_create (discreet_callStatic (by decide) _)

theorem conceals_step {action twin : Client (Faulty Memory) Unit} (builder : ReaderBuilder)
    (h : Conceals Eq action twin) : Conceals Eq (builder.step action) (builder.step twin) :=
  (h.cleaning (discreet_discard _)).bind_same fun _ ↦ blind_pure builder

/-- A step that calls a method, no matter what it sets. -/
theorem discreet_chain (builder : ReaderBuilder) {operation : Operation}
    (hoperation : operation ≠ .getEntry) (name : String) (arguments : List Argument) :
    Discreet (builder.chain name operation arguments) :=
  conceals_chain_expect name (discreet_call hoperation _ _)

theorem discreet_stepped (builder : ReaderBuilder) {operation : Operation}
    (hoperation : operation ≠ .getEntry) (name : String) (arguments : List Argument) :
    Discreet (builder.step (builder.chain name operation arguments)) :=
  builder.conceals_step (builder.discreet_chain hoperation name arguments)

theorem conceals_option (builder : ReaderBuilder) (key value : String) :
    Conceals Eq (builder.option key value) (builder.option key (redact key value)) :=
  builder.conceals_step (conceals_chain_expect _ (conceals_call_set (.inl rfl) _ key value))

theorem conceals_options (builder : ReaderBuilder) (options : Options) :
    Conceals Eq (builder.options options) (builder.options options.redacted) := by
  refine echoes_foldlM_map options.entries builder fun builder entry ↦ ?_
  dsimp only
  exact builder.conceals_option entry.1 entry.2

theorem conceals_optionPairs (builder : ReaderBuilder) (texts : List String) :
    Conceals Eq (builder.optionPairs texts)
      (builder.optionPairs (texts.map Options.redactPair)) := by
  unfold optionPairs
  rw [Options.ofPairs_redactPair]
  cases Options.ofPairs texts with
  | ok options => exact builder.conceals_options options
  | error error => exact builder.conceals_step (echoes_refuse error)

theorem discreet_projection (builder : ReaderBuilder) (columns : List String) :
    Discreet (builder.projection columns) := by
  unfold projection
  split
  · exact blind_pure builder
  · exact builder.discreet_stepped (by decide) _ _

theorem discreet_configuration (builder : ReaderBuilder) (settings : Configuration) :
    Discreet (builder.configuration settings) :=
  builder.discreet_stepped (by decide) _ _

theorem discreet_batchSize (builder : ReaderBuilder) (size : Nat) :
    Discreet (builder.batchSize size) := by
  refine (builder.conceals_step ?_).bind_same fun builder ↦ blind_pure _
  cases readBatch size with
  | ok n => exact builder.discreet_chain (by decide) _ _
  | error error => exact echoes_refuse error

theorem discreet_build (builder : ReaderBuilder) : Discreet builder.build :=
  discreet_holding ((discreet_call (by decide) _ _).expect_bind fun _ ↦
    (blind_report _).bind_same fun _ ↦ blind_pure _) _

/-- The names and secrets of an object store may be other ones. -/
theorem conceals_buildRemote (builder : ReaderBuilder) (access secret endpoint : String) :
    Conceals Eq (builder.buildRemote access secret endpoint)
      (builder.buildRemote (redact Options.accessKey access) (redact Options.secretKey secret)
        (redact Options.endpointKey endpoint)) := by
  unfold buildRemote
  rw [← Options.redacted_objectStore]
  exact (builder.conceals_options _).bind_same discreet_build

end ReaderBuilder

/-! ### Readers -/

namespace Reader

variable {α : Type}

theorem discreet_whileOpen {action : Client (Faulty Memory) α} (reader : Reader)
    (h : Discreet action) : Discreet (reader.whileOpen action) := by
  unfold whileOpen
  split
  · exact echoes_refuse _
  · exact h

theorem discreet_hasNext (reader : Reader) : Discreet reader.hasNext :=
  reader.discreet_whileOpen ((discreet_call (by decide) _ _).bind_same fun _ ↦ blind_expect _ _ _)

theorem discreet_next (reader : Reader) : Discreet reader.next :=
  reader.discreet_whileOpen ((discreet_call (by decide) _ _).expect_bind fun _ ↦ blind_pure _)

theorem discreet_nextBatch (reader : Reader) (size : Nat) : Discreet (reader.nextBatch size) := by
  refine reader.discreet_whileOpen ?_
  cases readBatch size with
  | error error => exact echoes_refuse error
  | ok n =>
    exact (discreet_call (by decide) _ _).expect_bind fun _ ↦ blind_pure _

theorem discreet_close (reader : Reader) : Discreet reader.close := by
  unfold close
  split
  · exact blind_pure reader
  · exact (discreet_call (by decide) _ _).expect_bind fun _ ↦
      (blind_report _).bind_same fun _ ↦ blind_pure _

theorem discreet_drop (reader : Reader) : Discreet reader.drop := by
  unfold drop
  cases reader.closed with
  | true => exact discreet_discard _
  | false =>
    refine (blind_report _).bind_same fun _ ↦
      reader.discreet_close.attempt.bind_same fun result ↦ ?_
    cases result with
    | ok _ => exact discreet_discard _
    | error error => exact (blind_report _).bind_same fun _ ↦ discreet_discard _

theorem discreet_step (reader : Reader) : Discreet reader.step := by
  refine reader.discreet_hasNext.attempt.bind_same fun left ↦ ?_
  rcases left with error | _ | _
  · exact blind_pure _
  · exact blind_pure _
  · refine reader.discreet_next.attempt.bind_same fun row ↦ ?_
    cases row with
    | ok row => exact blind_pure _
    | error error =>
      change Discreet (if error.isEndOfData then _ else _)
      split <;> exact blind_pure _

theorem discreet_collect {use : Except Error HeldRow → Client (Faulty Memory) α} (reader : Reader)
    (h : ∀ item, Discreet (use item)) (limit : Nat) (results : List α) :
    Discreet (reader.collect use limit results) := by
  induction limit generalizing results with
  | zero => exact blind_pure results
  | succ limit ih =>
    refine reader.discreet_step.bind_same fun found ↦ ?_
    obtain ⟨_ | item, goesOn⟩ := found
    · exact blind_pure results
    · refine (h item).bind_same fun result ↦ ?_
      cases goesOn with
      | true => exact ih _
      | false => exact blind_pure _

theorem discreet_forRows {use : Except Error HeldRow → Client (Faulty Memory) α} (reader : Reader)
    (h : ∀ item, Discreet (use item)) (limit : Nat) : Discreet (reader.forRows limit use) :=
  (reader.discreet_collect h limit []).bind_same fun _ ↦ blind_pure _

end Reader

/-! ### Rows -/

namespace Accessor

variable {α : Type}

theorem discreet_bound (accessor : Accessor) (operation : Operation) :
    Discreet (accessor.bound operation) := by
  unfold bound
  cases accessor.row with
  | some handle => exact blind_pure handle
  | none => exact echoes_refuse _

theorem discreet_getField (accessor : Accessor) {operation : Operation}
    (hoperation : operation ≠ .getEntry) (take : Method → Returned → Except CallError α)
    (ordinal : Nat) : Discreet (accessor.getField operation take ordinal) := by
  have hcall : Discreet (accessor.callField operation ordinal) := by
    refine (accessor.discreet_bound operation).bind_same fun handle ↦ ?_
    split
    · exact echoes_refuse _
    · exact (discreet_call hoperation _ _).bind_same fun _ ↦ blind_expect _ _ _
  exact hcall.bind_same fun _ ↦ blind_expect _ _ _

theorem discreet_length (accessor : Accessor) : Discreet accessor.length := by
  refine (accessor.discreet_bound _).bind_same fun handle ↦
    (discreet_call (by decide) _ _).expect_bind fun _ ↦
      (blind_expect _ _ _).bind_same fun count ↦ ?_
  split
  · exact echoes_refuse _
  · exact blind_pure _

theorem discreet_typeName (accessor : Accessor) (ordinal : Nat) :
    Discreet (accessor.typeName ordinal) := by
  refine (accessor.discreet_getField (by decide) _ _).bind_same fun name ↦ ?_
  cases name with
  | some name => exact blind_pure name
  | none => exact echoes_refuse _

theorem discreet_elementTypeName (accessor : Accessor) (ordinal : Nat) :
    Discreet (accessor.elementTypeName ordinal) := by
  refine (accessor.discreet_getField (by decide) _ _).bind_same fun name ↦ ?_
  cases name with
  | some name => exact blind_pure name
  | none => exact echoes_refuse _

theorem discreet_readType (name : String) : Discreet (readType name) := by
  unfold readType
  cases DataType.read name with
  | ok type => exact blind_pure type
  | error error => exact echoes_refuse error

theorem discreet_type (accessor : Accessor) (ordinal : Nat) : Discreet (accessor.type ordinal) :=
  (accessor.discreet_typeName ordinal).bind_same discreet_readType

theorem discreet_elementType (accessor : Accessor) (ordinal : Nat) :
    Discreet (accessor.elementType ordinal) :=
  (accessor.discreet_elementTypeName ordinal).bind_same discreet_readType

theorem discreet_readItem (element : DataType) (ordinal : Nat) (item : Option String) :
    Discreet (readItem element ordinal item) := by
  unfold readItem
  cases item with
  | none => exact blind_pure Value.null
  | some text =>
    dsimp only
    cases Value.read text element none with
    | ok value => exact blind_pure value
    | error error => exact echoes_refuse _

theorem discreet_arrayValue (accessor : Accessor) (ordinal : Nat) :
    Discreet (accessor.arrayValue ordinal) :=
  (accessor.discreet_elementType ordinal).bind_same fun element ↦
    (accessor.discreet_getField (by decide) _ _).bind_same fun items ↦
      (blind_mapM items (discreet_readItem element ordinal)).bind_same fun _ ↦ blind_pure _

theorem discreet_valueOf (accessor : Accessor) (ordinal : Nat) (type : DataType) :
    Discreet (accessor.valueOf ordinal type) := by
  cases type with
  | array => exact accessor.discreet_arrayValue ordinal
  | _ => exact Echoes.map_same _ (accessor.discreet_getField (by decide) _ _)

theorem discreet_value (accessor : Accessor) (ordinal : Nat) :
    Discreet (accessor.value ordinal) := by
  refine (accessor.discreet_type ordinal).bind_same fun type ↦
    (accessor.discreet_valueOf ordinal type).attempt.bind_same fun result ↦ ?_
  cases result with
  | ok value => exact blind_pure value
  | error error =>
    change Discreet (if error.isNullPointer then pure Value.null else refuse error)
    split
    · exact blind_pure _
    · exact echoes_refuse _

theorem discreet_valuesFrom (accessor : Accessor) (ordinal count : Nat) :
    Discreet (accessor.valuesFrom ordinal count) := by
  induction count generalizing ordinal with
  | zero => exact blind_pure _
  | succ count ih =>
    exact (accessor.discreet_value ordinal).bind_same fun _ ↦
      (ih (ordinal + 1)).bind_same fun _ ↦ blind_pure _

theorem discreet_values (accessor : Accessor) : Discreet accessor.values :=
  accessor.discreet_length.bind_same fun count ↦ accessor.discreet_valuesFrom 0 count

theorem discreet_printedRow (accessor : Accessor) : Discreet accessor.printedRow :=
  accessor.discreet_length.bind_same fun count ↦
    (accessor.discreet_valuesFrom 0 count).bind_same fun _ ↦ blind_pure _

end Accessor

theorem Question.discreet_ask (question : Question) (accessor : Accessor) (ordinal : Nat) :
    Discreet (question.ask accessor ordinal) := by
  cases question with
  | length => exact (accessor.discreet_length.bind_same fun _ ↦ blind_pure _).map_same _
  | typeName => exact (accessor.discreet_typeName ordinal).map_same _
  | type => exact (accessor.discreet_type ordinal).map_same _
  | elementTypeName => exact (accessor.discreet_elementTypeName ordinal).map_same _
  | elementType => exact (accessor.discreet_elementType ordinal).map_same _
  | value => exact (accessor.discreet_value ordinal).map_same _
  | printed => exact ((accessor.discreet_value ordinal).map_same _).map_same _
  | printedRow => exact accessor.discreet_printedRow.map_same _
  | values => exact accessor.discreet_values.map_same _
  | _ => exact Echoes.map_same _ (accessor.discreet_getField (by decide) _ _)

/-! ### Writers -/

namespace WriterBuilder

theorem discreet_create : Discreet create :=
  (discreet_callStatic (by decide) _).expect_bind fun _ ↦ blind_pure _

theorem conceals_step {action twin : Client (Faulty Memory) Unit} (builder : WriterBuilder)
    (h : Conceals Eq action twin) : Conceals Eq (builder.step action) (builder.step twin) :=
  (h.cleaning (discreet_discard _)).bind_same fun _ ↦ blind_pure builder

/-- A step that calls a method, no matter what it sets. -/
theorem discreet_chain (builder : WriterBuilder) {operation : Operation}
    (hoperation : operation ≠ .getEntry) (name : String) (arguments : List Argument) :
    Discreet (builder.chain name operation arguments) :=
  conceals_chain_expect name (discreet_call hoperation _ _)

theorem discreet_stepped (builder : WriterBuilder) {operation : Operation}
    (hoperation : operation ≠ .getEntry) (name : String) (arguments : List Argument) :
    Discreet (builder.step (builder.chain name operation arguments)) :=
  builder.conceals_step (builder.discreet_chain hoperation name arguments)

theorem conceals_option (builder : WriterBuilder) (key value : String) :
    Conceals Eq (builder.option key value) (builder.option key (redact key value)) :=
  builder.conceals_step
    (conceals_chain_expect _ (conceals_call_set (.inr (.inl rfl)) _ key value))

theorem conceals_options (builder : WriterBuilder) (options : Options) :
    Conceals Eq (builder.options options) (builder.options options.redacted) := by
  refine echoes_foldlM_map options.entries builder fun builder entry ↦ ?_
  dsimp only
  exact builder.conceals_option entry.1 entry.2

theorem discreet_outputPath (builder : WriterBuilder) (path : String) :
    Discreet (builder.outputPath path) :=
  (builder.discreet_stepped (by decide) _ _).bind_same fun _ ↦ blind_pure _

theorem discreet_schemaText (builder : WriterBuilder) (text : String) :
    Discreet (builder.schemaText text) := by
  unfold schemaText
  cases Schema.read text with
  | error error => exact builder.conceals_step (echoes_refuse error)
  | ok schema =>
    exact (builder.discreet_stepped (by decide) _ _).bind_same fun _ ↦
      blind_pure _

theorem discreet_schemaOf (builder : WriterBuilder) (schema : Schema) :
    Discreet (builder.schemaOf schema) := by
  unfold schemaOf
  split
  · exact builder.conceals_step (echoes_refuse _)
  · exact builder.discreet_schemaText _

theorem discreet_writtenBy (builder : WriterBuilder) (name : String) :
    Discreet (builder.writtenBy name) :=
  (builder.discreet_stepped (by decide) _ _).bind_same fun _ ↦ blind_pure _

theorem discreet_sortBy (builder : WriterBuilder) (columns : List String) :
    Discreet (builder.sortBy columns) :=
  builder.discreet_stepped (by decide) _ _

theorem discreet_blockSize (builder : WriterBuilder) (size : Nat) :
    Discreet (builder.blockSize size) := by
  refine builder.conceals_step ?_
  split
  · exact builder.discreet_chain (by decide) _ _
  · exact echoes_refuse _

theorem discreet_blockletSize (builder : WriterBuilder) (size : Nat) :
    Discreet (builder.blockletSize size) := by
  refine builder.conceals_step ?_
  split
  · exact builder.discreet_chain (by decide) _ _
  · exact echoes_refuse _

theorem discreet_uniqueIdentifier (builder : WriterBuilder) (identifier : Int64) :
    Discreet (builder.uniqueIdentifier identifier) :=
  builder.discreet_stepped (by decide) _ _

theorem discreet_build (builder : WriterBuilder) : Discreet builder.build := by
  have hwrite : ∀ builder : WriterBuilder, Discreet (Client.holding builder.handle do
      let returned ← Client.call builder.handle .buildWriter []
      let handle ← Client.expect "build" (.build (builder.path.getD ""))
        (returned.bind (Returned.toObject Operation.buildWriter.method))
      Client.report ⟨.info, "writer built", [("path", builder.path.getD "")]⟩
      pure (⟨handle, builder.path.getD "", builder.schema, 0, false⟩ : Writer)) := fun builder ↦
    discreet_holding ((discreet_call (by decide) _ _).expect_bind fun _ ↦
      (blind_report _).bind_same fun _ ↦ blind_pure _) _
  unfold build
  by_cases hnamed : builder.named = true
  · rw [if_pos hnamed]
    exact (blind_pure builder).bind_same hwrite
  · rw [if_neg hnamed]
    exact (builder.discreet_writtenBy _).bind_same hwrite

end WriterBuilder

namespace Writer

theorem discreet_write (writer : Writer) (record : List String) :
    Discreet (writer.write record) := by
  unfold write
  split
  · exact echoes_refuse _
  · refine (discreet_call (by decide) _ _).bind_same fun returned ↦ ?_
    cases returned.bind (Returned.toNothing Operation.writeRecord.method) with
    | ok _ => exact blind_pure _
    | error error => exact echoes_refuse _

theorem discreet_close (writer : Writer) : Discreet writer.close := by
  unfold close
  split
  · exact blind_pure writer
  · exact (discreet_call (by decide) _ _).expect_bind fun _ ↦
      (blind_report _).bind_same fun _ ↦ blind_pure _

theorem discreet_drop (writer : Writer) : Discreet writer.drop := by
  unfold drop
  cases writer.closed with
  | true => exact discreet_discard _
  | false =>
    refine (blind_report _).bind_same fun _ ↦
      writer.discreet_close.attempt.bind_same fun result ↦ ?_
    cases result with
    | ok _ => exact discreet_discard _
    | error error => exact (blind_report _).bind_same fun _ ↦ discreet_discard _

end Writer

/-! ### Schemas -/

namespace SchemaReader

theorem discreet_text (handle : Handle) {operation : Operation} (h : operation ≠ .getEntry) :
    Discreet (text handle operation) := by
  refine (discreet_call h _ _).expect_bind fun content ↦ ?_
  cases content with
  | some content => exact blind_pure content
  | none => exact echoes_refuse _

theorem discreet_object (handle : Handle) {operation : Operation} (h : operation ≠ .getEntry) :
    Discreet (object handle operation) :=
  (discreet_call h _ _).bind_same fun _ ↦ blind_expect _ _ _

theorem discreet_typeOf (handle : Handle) : Discreet (typeOf handle) := by
  refine (discreet_text handle (by decide)).bind_same fun name ↦ ?_
  cases DataType.read name with
  | ok type => exact blind_pure type
  | error error => exact echoes_refuse error

theorem discreet_field (handle : Handle) : Discreet (field handle) := by
  refine (discreet_text handle (by decide)).bind_same fun name ↦
    (discreet_object handle (by decide)).bind_same fun type ↦ discreet_holding ?_ type
  refine (discreet_typeOf type).bind_same fun columnType ↦ ?_
  split
  · exact blind_pure _
  · refine (discreet_object type (by decide)).bind_same fun element ↦ discreet_holding ?_ element
    exact (discreet_typeOf element).bind_same fun _ ↦ blind_pure _

theorem discreet_read {operation : Operation} (h : operation ≠ .getEntry) (path : String) :
    Discreet (read operation path) := by
  refine (discreet_callStatic h _).expect_bind fun handle ↦ discreet_holding ?_ handle
  refine (discreet_call (by decide) _ _).expect_bind fun handles ↦ discreet_holdingAll ?_ handles
  refine (blind_mapM handles discreet_field).attempt.bind_same fun result ↦ ?_
  cases result with
  | error error => exact echoes_refuse _
  | ok fields => exact (blind_report _).bind_same fun _ ↦ blind_pure _

theorem discreet_versionDetails (path : String) : Discreet (versionDetails path) := by
  refine (discreet_callStatic (by decide) _).expect_bind fun details ↦ ?_
  cases details with
  | some text => exact blind_pure text
  | none => exact echoes_refuse _

end SchemaReader

/-! ### Configurations -/

namespace Configuration

theorem discreet_create : Discreet create :=
  Echoes.expect_bind (discreet_construct (by decide) _) fun _ ↦ blind_pure _

/-- What is got for a key is the same but for a secret. -/
theorem conceals_get (configuration : Configuration) (key : String) :
    Conceals (fun a b ↦ a.map (redact key) = b.map (redact key)) (configuration.get key)
      (configuration.get key) := by
  have hcall : Conceals (EndsAlike fun a b ↦ a.redacted key = b.redacted key)
      (call configuration.handle .getEntry [.text key])
      (call configuration.handle .getEntry [.text key]) :=
    conceals_call (fun _ ↦ rfl) fun _ _ hview ↦ Memory.echoes_getEntry _ key hview
  have htake : ∀ a b : Returned, a.redacted key = b.redacted key →
      EndsAlike (fun a b ↦ a.map (redact key) = b.map (redact key))
        (a.toText Operation.getEntry.method) (b.toText Operation.getEntry.method) := by
    intro a b hab
    refine endsAlike_of_map_eq ?_
    rw [← Returned.toText_redacted, hab, Returned.toText_redacted]
  exact hcall.bind fun _ _ hreturned ↦ echoes_expect _ _ (hreturned.bind htake)

/-- How a value is reported does not depend on a secret. -/
theorem reported_map_redact (key : String) (value : Option String) :
    reported key (value.map (redact key)) = reported key value := by
  cases value with
  | none => rfl
  | some value =>
    change (if isSecret key then "******" else redact key value) = _
    unfold redact reported
    split <;> rfl

theorem conceals_set (configuration : Configuration) (key value : String) :
    Conceals Eq (configuration.set key value) (configuration.set key (redact key value)) := by
  refine (conceals_call_set (.inr (.inr rfl)) _ key value).expect_bind fun _ ↦
    (configuration.conceals_get key).bind fun a b hab ↦ ?_
  rw [← reported_map_redact key a, hab, reported_map_redact]
  exact blind_report _

theorem conceals_ofOptions (options : Options) :
    Conceals Eq (ofOptions options) (ofOptions options.redacted) := by
  refine discreet_create.bind_same fun configuration ↦ ?_
  have hentries : Conceals Eq
      (options.entries.forM fun entry ↦ configuration.set entry.1 entry.2)
      (options.redacted.entries.forM fun entry ↦ configuration.set entry.1 entry.2) := by
    refine echoes_forM_map options.entries fun entry ↦ ?_
    dsimp only
    exact configuration.conceals_set entry.1 entry.2
  exact (hentries.cleaning (discreet_discard _)).bind_same fun _ ↦ blind_pure configuration

end Configuration

/-! ### Shutting down -/

theorem Client.discreet_liveObjects : Discreet liveObjects :=
  fun _ _ hresembles ↦
    ⟨.ok (Memory.liveObjects_congr (Faulty.mk.inj hresembles.state).2), hresembles⟩

/-- The end of a shutdown, once the objects that are left have been counted. -/
theorem Client.discreet_stop (name : String) : Discreet (do
    match ← exchange Backend.shutdown with
    | .ok _ => report ⟨.info, "runtime shut down", [("backend", name)]⟩
    | .error error => refuse (.bridge error.message) : Client (Faulty Memory) Unit) := by
  have hcall : Discreet
      (exchange Backend.shutdown : Client (Faulty Memory) (Except CallError Unit)) :=
    blind_exchange <| Faulty.echoes_guard (fun _ ↦ rfl) _ _ _ fun _ _ hview ↦
      Memory.echoes_shutdown hview
  refine hcall.bind_same fun result ↦ ?_
  cases result with
  | ok _ => exact blind_report _
  | error error => exact echoes_refuse _

theorem Client.discreet_shutdown : Discreet shutdown := by
  have hread : Discreet (read : Client (Faulty Memory) (Backend (Faulty Memory))) :=
    fun _ _ hresembles ↦ ⟨.ok rfl, hresembles⟩
  refine hread.bind_same fun backend ↦ discreet_liveObjects.bind_same fun live ↦ ?_
  dsimp only
  split
  · exact (blind_report _).bind_same fun _ ↦ discreet_stop backend.name
  · exact discreet_stop backend.name

theorem Client.discreet_hangUp : Discreet hangUp := by
  refine discreet_shutdown.tryCatch fun failure ↦ ?_
  cases failure with
  | error error => exact blind_report _
  | crash => exact echoes_throw _

end ColumnStore
