import ColumnStore.Proofs.Client.Calls

/-!
# What the objects of a client own

A builder, a reader, a row, a writer and a configuration own one handle each. Every step uses its
object up and hands over the one that comes of it; if the step fails, what was used up is given up.
Nothing that is needed on the way is left behind, not even by reading a schema that breaks off at
one of its columns. Asking an accessor owns nothing and changes nothing.
-/

set_option autoImplicit false

namespace ColumnStore

def ReaderBuilder.held (builder : ReaderBuilder) : Multiset Holding := {⟨builder.handle, false⟩}

def Reader.held (reader : Reader) : Multiset Holding := {⟨reader.handle, false⟩}

def HeldRow.held (row : HeldRow) : Multiset Holding := {⟨row.handle, true⟩}

def WriterBuilder.held (builder : WriterBuilder) : Multiset Holding := {⟨builder.handle, false⟩}

def Writer.held (writer : Writer) : Multiset Holding := {⟨writer.handle, false⟩}

def Configuration.held (configuration : Configuration) : Multiset Holding :=
  {⟨configuration.handle, false⟩}

open Client

/-! ### Builders -/

section Steps

variable {α β : Type} {holding : Holding} {held : α → Multiset Holding}

/-- A step uses a builder up, also if it fails. -/
theorem trades_step {a : α} {action : Client (Faulty Memory) Unit}
    (h : Keeps {holding} action) (hheld : held a = {holding}) :
    Trades {holding} (do
      Client.cleaning (Client.discard holding.handle) action
      pure a) (Delivers 0 held) := by
  exact (h.delivers.cleaning_all (clears_discard holding)).bind_delivers
    (fun _ ↦ trades_pure hheld.symm) fun _ ↦ rfl

/-- Steps one after the other. -/
theorem trades_foldlM {step : α → β → Client (Faulty Memory) α}
    (h : ∀ a item, Trades (held a) (step a item) (Delivers 0 held)) (items : List β) (a : α) :
    Trades (held a) (items.foldlM step a) (Delivers 0 held) := by
  induction items generalizing a with
  | nil => exact trades_pure rfl
  | cons item items ih =>
    rw [List.foldlM_cons]
    exact (h a item).bind_delivers (fun next ↦ ih next) fun _ ↦ rfl

/-- Going on with a builder in which something is remembered. -/
theorem Client.Trades.remember {given : Multiset Holding} {action : Client (Faulty Memory) α}
    {change : α → α} (h : Trades given action (Delivers 0 held))
    (hheld : ∀ a, held (change a) = held a) :
    Trades given (do
      let a ← action
      pure (change a)) (Delivers 0 held) :=
  h.bind_delivers (fun a ↦ trades_pure (hheld a).symm) fun _ ↦ rfl

/-- An action that changes an object and leaves it as it was if it fails. It does not break off. -/
abbrev Client.Alters (held : α → Multiset Holding) (a : α) (action : Client (Faulty Memory) α) :
    Prop :=
  Trades (held a) action fun result kept ↦
    kept = held a ∧ result ≠ .error .crash ∧ ∀ changed, result = .ok changed → held changed = held a

theorem alters_refuse (held : α → Multiset Holding) (a : α) {error : Error} :
    Alters held a (refuse error : Client (Faulty Memory) α) :=
  trades_refuse ⟨rfl, by rintro ⟨⟩, by rintro _ ⟨⟩⟩

theorem alters_pure (held : α → Multiset Holding) (a : α) {changed : α}
    (h : held changed = held a) : Alters held a (pure changed : Client (Faulty Memory) α) := by
  refine trades_pure ⟨rfl, by rintro ⟨⟩, ?_⟩
  rintro _ ⟨⟩
  exact h

/-- Whether it can be closed or not, something is given up after it. -/
theorem clears_closing {a : α} {close : Client (Faulty Memory) α}
    {next : Except Error α → Client (Faulty Memory) Unit} (h : Alters held a close)
    (hnext : ∀ ended, Clears (held a) (next ended)) : Clears (held a) (attempt close >>= next) := by
  refine h.attempt.bind ?_ ?_
  · rintro (error | changed) traded ⟨rfl, -⟩
    · exact hnext _
    · exact hnext _
  · rintro failure kept ⟨rfl, -, hcrash, -⟩
    exact absurd rfl hcrash

end Steps

namespace ReaderBuilder

variable {builder : ReaderBuilder}

theorem clears_drop (builder : ReaderBuilder) : Clears builder.held builder.drop :=
  clears_discard ⟨builder.handle, false⟩

theorem trades_forPath (path : String) (table : Option String) :
    Trades 0 (forPath path table) (Delivers 0 held) := by
  have hcreate : ∀ {operation : Operation} {arguments : List Argument},
      operation.method.kind = .onClass → operation.settles = false →
      operation.method.returns = .object → operation.handsOutRows = false →
      Trades 0 (create path table (callStatic operation arguments)) (Delivers 0 held) := by
    intro operation arguments hkind hsettles hreturns hrows
    refine (trades_callStatic hkind).object hsettles hreturns (fun other ↦ ?_) fun _ _ ↦ rfl
    refine trades_report_bind (trades_pure ?_)
    rw [hrows]
    exact (zero_add _).symm
  cases table with
  | none => exact hcreate rfl rfl rfl rfl
  | some table => exact hcreate rfl rfl rfl rfl

theorem trades_chain {operation : Operation} {arguments : List Argument} (name : String)
    (hkind : operation.method.kind = .onObject) (hsettles : operation.settles = true) :
    Trades builder.held (builder.step (builder.chain name operation arguments))
      (Delivers 0 held) :=
  trades_step (keeps_expect_chain hkind hsettles name) rfl

theorem trades_refused (error : Error) :
    Trades builder.held (builder.step (refuse error)) (Delivers 0 held) :=
  trades_step (trades_refuse rfl) rfl

theorem trades_option (key value : String) :
    Trades builder.held (builder.option key value) (Delivers 0 held) :=
  trades_chain _ rfl rfl

theorem trades_options (builder : ReaderBuilder) (options : Options) :
    Trades builder.held (builder.options options) (Delivers 0 held) :=
  trades_foldlM (fun _ _ ↦ trades_option _ _) options.entries builder

theorem trades_projection (columns : List String) :
    Trades builder.held (builder.projection columns) (Delivers 0 held) := by
  unfold projection
  split
  · exact trades_pure rfl
  · exact trades_chain _ rfl rfl

theorem trades_optionPairs (texts : List String) :
    Trades builder.held (builder.optionPairs texts) (Delivers 0 held) := by
  unfold optionPairs
  split
  · exact trades_options builder _
  · exact trades_refused _

theorem trades_configuration (configuration : Configuration) :
    Trades builder.held (builder.configuration configuration) (Delivers 0 held) :=
  trades_chain _ rfl rfl

theorem trades_batchSize (size : Nat) :
    Trades builder.held (builder.batchSize size) (Delivers 0 held) := by
  unfold batchSize
  generalize readBatch size = batch
  cases batch with
  | ok n =>
    have hstep : Trades builder.held
        (builder.step (builder.chain "withBatch" .setBatch [.int n])) (Delivers 0 held) :=
      trades_chain _ rfl rfl
    exact hstep.remember fun _ ↦ rfl
  | error error => exact (trades_refused error).remember fun _ ↦ rfl

/-- Building uses the builder up, also if it breaks off. -/
theorem trades_build (builder : ReaderBuilder) :
    Trades builder.held builder.build (Delivers 0 Reader.held) := by
  refine Trades.holding ⟨builder.handle, false⟩ ?_
  refine (trades_call rfl).object rfl rfl (fun other ↦ ?_) fun _ _ ↦ (add_zero _).symm
  exact trades_report_bind (trades_pure rfl)

theorem trades_buildRemote (access secret endpoint : String) :
    Trades builder.held (builder.buildRemote access secret endpoint) (Delivers 0 Reader.held) :=
  (trades_options builder _).bind_delivers trades_build fun _ ↦ rfl

end ReaderBuilder

namespace WriterBuilder

variable {builder : WriterBuilder}

theorem clears_drop (builder : WriterBuilder) : Clears builder.held builder.drop :=
  clears_discard ⟨builder.handle, false⟩

theorem trades_create : Trades 0 create (Delivers 0 held) := by
  refine (trades_callStatic rfl).object rfl rfl (fun other ↦ ?_) fun _ _ ↦ rfl
  exact trades_pure (zero_add _).symm

theorem trades_chain {operation : Operation} {arguments : List Argument} (name : String)
    (hkind : operation.method.kind = .onObject) (hsettles : operation.settles = true) :
    Trades builder.held (builder.step (builder.chain name operation arguments))
      (Delivers 0 held) :=
  trades_step (keeps_expect_chain hkind hsettles name) rfl

theorem trades_refused (error : Error) :
    Trades builder.held (builder.step (refuse error)) (Delivers 0 held) :=
  trades_step (trades_refuse rfl) rfl

theorem trades_outputPath (path : String) :
    Trades builder.held (builder.outputPath path) (Delivers 0 held) :=
  Trades.remember (trades_chain _ rfl rfl) fun _ ↦ rfl

theorem trades_schemaText (text : String) :
    Trades builder.held (builder.schemaText text) (Delivers 0 held) := by
  unfold schemaText
  split
  · exact trades_refused _
  · exact Trades.remember (trades_chain _ rfl rfl) fun _ ↦ rfl

theorem trades_schemaOf (schema : Schema) :
    Trades builder.held (builder.schemaOf schema) (Delivers 0 held) := by
  unfold schemaOf
  split
  · exact trades_refused _
  · exact trades_schemaText _

theorem trades_option (key value : String) :
    Trades builder.held (builder.option key value) (Delivers 0 held) :=
  trades_chain _ rfl rfl

theorem trades_options (builder : WriterBuilder) (options : Options) :
    Trades builder.held (builder.options options) (Delivers 0 held) :=
  trades_foldlM (fun _ _ ↦ trades_option _ _) options.entries builder

theorem trades_writtenBy (name : String) :
    Trades builder.held (builder.writtenBy name) (Delivers 0 held) :=
  Trades.remember (trades_chain _ rfl rfl) fun _ ↦ rfl

theorem trades_sortBy (columns : List String) :
    Trades builder.held (builder.sortBy columns) (Delivers 0 held) :=
  trades_chain _ rfl rfl

theorem trades_blockSize (size : Nat) :
    Trades builder.held (builder.blockSize size) (Delivers 0 held) := by
  unfold blockSize
  split
  · exact trades_chain _ rfl rfl
  · exact trades_refused _

theorem trades_blockletSize (size : Nat) :
    Trades builder.held (builder.blockletSize size) (Delivers 0 held) := by
  unfold blockletSize
  split
  · exact trades_chain _ rfl rfl
  · exact trades_refused _

theorem trades_uniqueIdentifier (identifier : Int64) :
    Trades builder.held (builder.uniqueIdentifier identifier) (Delivers 0 held) :=
  trades_chain _ rfl rfl

/-- Building uses the builder up, whether it fails at its name or at the writer. -/
theorem trades_build (builder : WriterBuilder) :
    Trades builder.held builder.build (Delivers 0 Writer.held) := by
  have hwrite : ∀ builder : WriterBuilder, Trades builder.held
      (Client.holding builder.handle do
        let returned ← Client.call builder.handle .buildWriter []
        let handle ← Client.expect "build" (.build (builder.path.getD ""))
          (returned.bind (Returned.toObject Operation.buildWriter.method))
        Client.report ⟨.info, "writer built", [("path", builder.path.getD "")]⟩
        pure (⟨handle, builder.path.getD "", builder.schema, 0, false⟩ : Writer))
      (Delivers 0 Writer.held) := by
    intro builder
    refine Trades.holding ⟨builder.handle, false⟩ ?_
    refine (trades_call rfl).object rfl rfl (fun other ↦ ?_) fun _ _ ↦ (add_zero _).symm
    exact trades_report_bind (trades_pure rfl)
  unfold build
  by_cases hnamed : builder.named = true
  · rw [if_pos hnamed]
    exact Trades.bind_delivers (trades_pure rfl) hwrite fun _ ↦ rfl
  · rw [if_neg hnamed]
    exact (trades_writtenBy _).bind_delivers hwrite fun _ ↦ rfl

end WriterBuilder

/-! ### Readers and rows -/

theorem HeldRow.clears_drop (row : HeldRow) : Clears row.held row.drop :=
  clears_discard ⟨row.handle, true⟩

theorem HeldRow.sum_held (handles : List Handle) :
    ((handles.map HeldRow.mk).map HeldRow.held).sum =
      (handles.map (Holding.mk · true) : List Holding) := by
  rw [List.map_map, ← sum_map_holding]
  rfl

namespace Reader

variable {α : Type} {reader : Reader}

theorem trades_whileOpen {given : Multiset Holding} {action : Client (Faulty Memory) α}
    {post : Except Failure α → Multiset Holding → Prop} (h : Trades given action post)
    (hclosed : post (.error (.error (.closed .reader))) given) :
    Trades given (reader.whileOpen action) post := by
  unfold whileOpen
  by_cases hopen : reader.closed = true
  · rw [if_pos hopen]
    exact trades_refuse hclosed
  · rw [if_neg hopen]
    exact h

theorem idle_hasNext (reader : Reader) : Idle reader.hasNext :=
  trades_whileOpen ((idle_call rfl rfl).bind fun _ ↦ idle_expect) rfl

theorem trades_next (reader : Reader) :
    Trades reader.held reader.next (Delivers reader.held fun row ↦ reader.held + row.held) := by
  refine trades_whileOpen ?_ rfl
  exact (trades_call rfl).object rfl rfl (fun other ↦ trades_pure rfl) fun _ _ ↦ rfl

/-- A batch is read as a whole or not at all. -/
theorem trades_nextBatch (reader : Reader) (size : Nat) :
    Trades reader.held (reader.nextBatch size)
      (Delivers reader.held fun rows ↦ reader.held + (rows.map HeldRow.held).sum) := by
  refine trades_whileOpen ?_ rfl
  generalize readBatch size = batch
  cases batch with
  | error error => exact trades_refuse rfl
  | ok n =>
    dsimp only
    refine (trades_call rfl).objects rfl rfl (fun others ↦ trades_pure ?_) fun _ _ ↦ rfl
    exact congrArg (reader.held + ·) (HeldRow.sum_held others).symm

theorem alters_close (reader : Reader) : Alters held reader reader.close := by
  unfold close
  by_cases hclosed : reader.closed = true
  · rw [if_pos hclosed]
    exact alters_pure held reader rfl
  · rw [if_neg hclosed]
    refine trades_call_bind rfl rfl fun result ↦ ?_
    refine trades_expect_bind (fun _ _ ↦ ?_) fun _ _ _ ↦ ⟨rfl, by rintro ⟨⟩, by rintro _ ⟨⟩⟩
    exact trades_report_bind (alters_pure held reader rfl)

theorem clears_drop (reader : Reader) : Clears reader.held reader.drop := by
  have hdiscard : Clears reader.held (Client.discard reader.handle) :=
    clears_discard ⟨reader.handle, false⟩
  unfold drop
  by_cases hclosed : reader.closed = true
  · simp only [hclosed]
    exact hdiscard
  · simp only [hclosed]
    refine trades_report_bind (clears_closing reader.alters_close fun ended ↦ ?_)
    cases ended with
    | ok closed => exact hdiscard
    | error error => exact trades_report_bind hdiscard

/-- What an item of an iteration owns. -/
def itemHeld : Option (Except Error HeldRow) → Multiset Holding
  | some (.ok row) => row.held
  | _ => 0

theorem trades_step (reader : Reader) :
    Trades reader.held reader.step
      (Delivers reader.held fun item ↦ reader.held + itemHeld item.1) := by
  have hnone : reader.held = reader.held + 0 := (add_zero _).symm
  refine Idle.bind_trades (idle_hasNext reader).attempt (fun asked ↦ ?_) fun _ ↦ rfl
  rcases asked with error | _ | _
  · exact trades_pure hnone
  · exact trades_pure hnone
  · refine (trades_next reader).attempt_delivers.bind_delivers (fun read ↦ ?_) fun _ ↦ rfl
    cases read with
    | ok row => exact trades_pure rfl
    | error error =>
      dsimp only
      by_cases hend : error.isEndOfData = true
      · rw [if_pos hend]
        exact trades_pure hnone
      · rw [if_neg hend]
        exact trades_pure hnone

variable {use : Except Error HeldRow → Client (Faulty Memory) α}

/-- A use that gives up its row leaves only the reader. -/
theorem keeps_collect
    (huse : ∀ item, Trades (itemHeld (some item)) (use item) fun _ kept ↦ kept = 0)
    (limit : Nat) (results : List α) : Keeps reader.held (reader.collect use limit results) := by
  induction limit generalizing results with
  | zero => exact trades_pure rfl
  | succ limit ih =>
    refine (trades_step reader).bind_delivers ?_ fun _ ↦ rfl
    rintro ⟨_ | item, goesOn⟩
    · exact trades_pure (add_zero _).symm
    · dsimp only
      rw [add_comm]
      refine ((huse item).frame reader.held).bind ?_ ?_
      · rintro result traded ⟨own, rfl, rfl⟩
        rw [zero_add]
        by_cases hgoesOn : goesOn = true
        · rw [if_pos hgoesOn]
          exact ih _
        · rw [if_neg hgoesOn]
          exact trades_pure rfl
      · rintro failure kept ⟨own, rfl, rfl⟩
        exact zero_add _

theorem keeps_forRows
    (huse : ∀ item, Trades (itemHeld (some item)) (use item) fun _ kept ↦ kept = 0)
    (limit : Nat) : Keeps reader.held (reader.forRows limit use) :=
  (keeps_collect huse limit []).bind fun _ ↦ trades_pure rfl

end Reader

/-! ### Writers -/

namespace Writer

theorem alters_write (writer : Writer) (record : List String) :
    Alters held writer (writer.write record) := by
  unfold write
  by_cases hclosed : writer.closed = true
  · rw [if_pos hclosed]
    exact alters_refuse held writer
  · rw [if_neg hclosed]
    refine trades_call_bind rfl rfl fun result ↦ ?_
    cases result.bind (Returned.toNothing Operation.writeRecord.method) with
    | ok written => exact alters_pure held writer rfl
    | error error => exact alters_refuse held writer

theorem alters_writeValues (writer : Writer) (values : Row) :
    Alters held writer (writer.writeValues values) :=
  writer.alters_write (Value.cells values)

theorem alters_close (writer : Writer) : Alters held writer writer.close := by
  unfold close
  by_cases hclosed : writer.closed = true
  · rw [if_pos hclosed]
    exact alters_pure held writer rfl
  · rw [if_neg hclosed]
    refine trades_call_bind rfl rfl fun result ↦ ?_
    refine trades_expect_bind (fun _ _ ↦ ?_) fun _ _ _ ↦ ⟨rfl, by rintro ⟨⟩, by rintro _ ⟨⟩⟩
    exact trades_report_bind (alters_pure held writer rfl)

theorem clears_drop (writer : Writer) : Clears writer.held writer.drop := by
  have hdiscard : Clears writer.held (Client.discard writer.handle) :=
    clears_discard ⟨writer.handle, false⟩
  unfold drop
  by_cases hclosed : writer.closed = true
  · simp only [hclosed]
    exact hdiscard
  · simp only [hclosed]
    refine trades_report_bind (clears_closing writer.alters_close fun ended ↦ ?_)
    cases ended with
    | ok closed => exact hdiscard
    | error error => exact trades_report_bind hdiscard

end Writer

/-! ### Configurations -/

namespace Configuration

theorem clears_drop (configuration : Configuration) :
    Clears configuration.held configuration.drop :=
  clears_discard ⟨configuration.handle, false⟩

theorem trades_create : Trades 0 create (Delivers 0 held) := by
  refine (trades_construct rfl rfl rfl (by rintro ⟨⟩)).bind ?_ ?_
  · intro result traded hpost
    refine trades_expect_bind ?_ ?_
    · rintro handle rfl
      obtain rfl := hpost
      exact trades_pure rfl
    · rintro error failed rfl
      exact hpost
  · rintro failure kept hpost
    exact hpost.elim

theorem idle_get (configuration : Configuration) (key : String) : Idle (configuration.get key) :=
  (idle_call rfl rfl).bind fun _ ↦ idle_expect

theorem keeps_set (configuration : Configuration) (key value : String) :
    Keeps configuration.held (configuration.set key value) := by
  refine trades_call_bind rfl rfl fun result ↦ ?_
  refine trades_expect_bind (fun _ _ ↦ ?_) fun _ _ _ ↦ rfl
  refine ((idle_get configuration key).frame _).bind fun stored ↦ ?_
  exact trades_report rfl

/-- A configuration of which an entry cannot be set is given up. -/
theorem trades_ofOptions (options : Options) : Trades 0 (ofOptions options) (Delivers 0 held) := by
  refine trades_create.bind_delivers (fun configuration ↦ ?_) fun _ ↦ rfl
  have hset : Keeps configuration.held
      (options.entries.forM fun entry ↦ configuration.set entry.1 entry.2) :=
    keeps_forM fun entry ↦ keeps_set configuration entry.1 entry.2
  exact (hset.delivers.cleaning_all (clears_drop configuration)).bind_delivers
    (fun _ ↦ trades_pure rfl) fun _ ↦ rfl

end Configuration

/-! ### Schemas -/

namespace SchemaReader

variable {operation : Operation} {handle : Handle}

theorem idle_text (hkind : operation.method.kind = .onObject) (hlooks : operation.looks = true) :
    Idle (text handle operation) := by
  refine (idle_call hkind hlooks).bind fun returned ↦ idle_expect.bind fun content ↦ ?_
  cases content with
  | some content => exact trades_pure rfl
  | none => exact trades_refuse rfl

theorem trades_object (hkind : operation.method.kind = .onObject)
    (hsettles : operation.settles = false) (hreturns : operation.method.returns = .object) :
    Trades {⟨handle, false⟩} (object handle operation)
      (Delivers {⟨handle, false⟩} fun other ↦
        {⟨handle, false⟩} + {⟨other, operation.handsOutRows⟩}) := by
  have hpure : object handle operation = (call handle operation [] >>= fun returned ↦
      expect operation.method.name .other
        (returned.bind (Returned.toObject operation.method)) >>= pure :
      Client (Faulty Memory) Handle) := by
    simp only [object, bind_pure]
  rw [hpure]
  exact (trades_call hkind).object hsettles hreturns (fun other ↦ trades_pure rfl) fun _ _ ↦ rfl

theorem idle_typeOf (handle : Handle) : Idle (typeOf handle) := by
  refine (idle_text rfl rfl).bind fun name ↦ ?_
  cases DataType.read name with
  | ok type => exact trades_pure rfl
  | error error => exact trades_refuse rfl

/-- A column is read from its object, which is kept. -/
theorem keeps_field (handle : Handle) : Keeps {⟨handle, false⟩} (field handle) := by
  refine Keeps.bind ((idle_text rfl rfl).frame _) fun name ↦ ?_
  refine (trades_object rfl rfl rfl).bind_delivers (fun type ↦ ?_) fun _ ↦ rfl
  refine Keeps.holding ⟨type, false⟩ ?_
  refine Keeps.bind ((idle_typeOf type).frame _) fun columnType ↦ ?_
  by_cases hscalar : columnType ≠ .array
  · rw [if_pos hscalar]
    exact trades_pure rfl
  · rw [if_neg hscalar]
    have hobject : Trades {⟨type, false⟩} (object type .elementType)
        (Delivers {⟨type, false⟩} fun element ↦ {⟨type, false⟩} + {⟨element, false⟩}) :=
      trades_object rfl rfl rfl
    rw [add_comm]
    refine (hobject.frame_delivers _).bind_delivers (fun element ↦ ?_) fun _ ↦ rfl
    rw [add_right_comm]
    refine Keeps.holding ⟨element, false⟩ ?_
    exact Keeps.bind ((idle_typeOf element).frame _) fun _ ↦ trades_pure rfl

/-- Reading a schema leaves nothing behind, also if it breaks off at a column. -/
theorem idle_read {operation : Operation} (hkind : operation.method.kind = .onClass)
    (hsettles : operation.settles = false) (hreturns : operation.method.returns = .object)
    (hrows : operation.handsOutRows = false) (path : String) : Idle (read operation path) := by
  refine (trades_callStatic hkind).object hsettles hreturns (fun handle ↦ ?_) fun _ _ ↦ rfl
  rw [hrows]
  refine Keeps.holding ⟨handle, false⟩ ?_
  rw [zero_add]
  refine (trades_call rfl).objects rfl rfl (fun handles ↦ ?_) fun _ _ ↦ rfl
  refine Keeps.holdingAll handles false ?_
  have hfields : Keeps (handles.map fun handle ↦ {⟨handle, false⟩}).sum (handles.mapM field) :=
    keeps_mapM fun handle _ ↦ keeps_field handle
  rw [sum_map_holding] at hfields
  refine Keeps.bind (hfields.attempt.frame_left _) fun read ↦ ?_
  cases read with
  | error error => exact trades_refuse rfl
  | ok fields => exact trades_report_bind (trades_pure rfl)

theorem idle_versionDetails (path : String) : Idle (versionDetails path) := by
  refine (idle_callStatic rfl rfl).bind fun returned ↦ idle_expect.bind fun details ↦ ?_
  cases details with
  | some text => exact trades_pure rfl
  | none => exact trades_refuse rfl

end SchemaReader

end ColumnStore
