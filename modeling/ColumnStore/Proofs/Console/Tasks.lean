import ColumnStore.Proofs.Client.Looking
import ColumnStore.Proofs.Console.Workbench

/-!
# What tasks leave on a workbench

A task always comes to an end, and the handles that are in use then are those that the workbench
holds: `Task.Tidy`. A task that fails leaves nothing new. This is shown for the ways in which tasks
are put together and from there for every command.
-/

set_option autoImplicit false

namespace ColumnStore

open Client

namespace Task

variable {α β : Type} {given left rest : Multiset Holding} {bench : Workbench} {name : String}
  {shelf : Shelf (Faulty Memory) α} {held : α → Multiset Holding}

/-- A task that was given handles has ended: it left a workbench that holds all that is in use, and
if it failed then nothing new. -/
def Settled (given : Multiset Holding) (result : Except Failure (Except Mishap Answer × Workbench))
    (kept : Multiset Holding) : Prop :=
  ∃ answer after, result = .ok (answer, after) ∧ after.Ordered ∧ kept = after.held ∧
    ∀ mishap, answer = .error mishap → after.held ≤ given

/-- A task leaves no handle in use but those that the workbench holds. -/
def Tidy (task : Task (Faulty Memory)) : Prop :=
  ∀ bench : Workbench, bench.Ordered → Trades bench.held (task bench) (Settled bench.held)

theorem tidy_lacking : Tidy lacking :=
  fun bench hordered ↦ trades_pure ⟨_, bench, rfl, hordered, rfl, fun _ _ ↦ le_rfl⟩

/-- A task that has an answer. -/
theorem trades_answer {answer : Answer} {after : Workbench} {kept : Multiset Holding}
    (hordered : after.Ordered) (hkept : kept = after.held) :
    Trades kept (pure (.ok answer, after) : Client (Faulty Memory) _) (Settled given) :=
  trades_pure ⟨_, after, rfl, hordered, hkept, by rintro _ ⟨⟩⟩

/-- Going on after an action that takes a part of what the workbench holds, beside the rest. If it
fails, what it leaves is what the workbench lacks. -/
theorem trades_after {action : Client (Faulty Memory) α} {next : α → Task (Faulty Memory)}
    (h : Trades given action (Delivers left held)) (hordered : bench.Ordered)
    (hle : left ≤ given) (hleft : left + rest = bench.held)
    (hnext : ∀ a, Trades (held a + rest) (next a bench) (Settled (given + rest))) :
    Trades (given + rest) (after action next bench) (Settled (given + rest)) := by
  refine ((h.frame_delivers rest).settle).bind ?_ ?_
  · rintro ended traded ⟨_, ⟨⟩, hdelivers⟩
    cases ended with
    | ok a =>
      obtain rfl := hdelivers
      exact hnext a
    | error failure =>
      obtain rfl := hdelivers
      refine trades_pure ⟨_, bench, rfl, hordered, hleft, fun mishap _ ↦ ?_⟩
      rw [← hleft]
      exact add_le_add_left hle rest
  · rintro failure kept ⟨ended, hended, -⟩
    cases hended

/-- Making an object and keeping it. -/
theorem trades_make (hshelf : shelf.Lawful held) {action : Client (Faulty Memory) α}
    (h : Trades given action (Delivers left fun a ↦ left + held a)) (hordered : bench.Ordered)
    (hle : left ≤ given) (hleft : left + rest = bench.held) (name : String) :
    Trades (given + rest) (make shelf name action bench) (Settled (given + rest)) := by
  refine trades_after h hordered hle hleft fun a ↦ ?_
  -- What the action left goes back to the workbench, and the object that it made is put on it.
  rw [add_right_comm, hleft]
  exact (hshelf.trades_put hordered name a).bind_reached fun after hafter ↦
    trades_answer hafter rfl

/-- An action that needs nothing from the workbench makes an object. -/
theorem tidy_make (hshelf : shelf.Lawful held) {action : Client (Faulty Memory) α}
    (h : Trades 0 action (Delivers 0 held)) (name : String) : Tidy (make shelf name action) := by
  intro bench hordered
  have hmake : Trades 0 action (Delivers 0 fun a ↦ 0 + held a) := by
    simp only [zero_add]
    exact h
  have htask := trades_make hshelf hmake hordered le_rfl (zero_add bench.held) name
  rw [zero_add] at htask
  exact htask

/-- An action that needs nothing from the workbench has an answer. -/
theorem tidy_answering {action : Client (Faulty Memory) Answer} (h : Idle action) :
    Tidy (answering action) := by
  intro bench hordered
  have htask : Trades (0 + bench.held) (answering action bench) (Settled (0 + bench.held)) :=
    trades_after h.delivers hordered le_rfl (zero_add bench.held) fun answer ↦
      trades_answer hordered (zero_add bench.held)
  rw [zero_add] at htask
  exact htask

/-- A task on an object is tidy if it is when the object is there. -/
theorem tidy_onObject (hshelf : shelf.Lawful held) {task : α → Task (Faulty Memory)}
    (h : ∀ object (bench : Workbench), bench.Ordered → shelf.find? name bench = some object →
      Trades (held object + (shelf.without name bench).held) (task object bench)
        (Settled (held object + (shelf.without name bench).held))) :
    Tidy (onObject shelf name task) := by
  intro bench hordered
  unfold onObject
  cases hfind : shelf.find? name bench with
  | none => exact tidy_lacking bench hordered
  | some object =>
    have htask := h object bench hordered hfind
    rw [add_comm, hshelf.held_without hordered hfind] at htask
    exact htask

/-- A task that only needs to know an object. -/
theorem tidy_onObject_of_tidy {task : α → Task (Faulty Memory)} (h : ∀ object, Tidy (task object)) :
    Tidy (onObject shelf name task) := by
  intro bench hordered
  unfold onObject
  cases shelf.find? name bench with
  | none => exact tidy_lacking bench hordered
  | some object => exact h object bench hordered

/-- Asking an object. -/
theorem tidy_ask (hshelf : shelf.Lawful held) {action : α → Client (Faulty Memory) Answer}
    (h : ∀ object, Keeps (held object) (action object)) : Tidy (ask shelf name action) := by
  refine tidy_onObject hshelf fun object bench hordered hfind ↦ ?_
  have hheld := hshelf.held_without hordered hfind
  rw [add_comm] at hheld
  exact trades_after (h object).delivers hordered le_rfl hheld fun answer ↦
    trades_answer hordered hheld

/-- Changing an object. -/
theorem tidy_alter (hshelf : shelf.Lawful held) {action : α → Client (Faulty Memory) α}
    (h : ∀ object, Alters held object (action object)) : Tidy (alter shelf name action) := by
  refine tidy_onObject hshelf fun object bench hordered hfind ↦ ?_
  have hheld := hshelf.held_without hordered hfind
  rw [add_comm] at hheld
  have hdelivers : Trades (held object) (action object) (Delivers (held object) held) := by
    refine (h object).mono ?_
    rintro (failure | changed) kept ⟨rfl, -, hchanged⟩
    · rfl
    · exact (hchanged changed rfl).symm
  refine trades_after hdelivers hordered le_rfl hheld fun changed ↦ ?_
  refine trades_answer (hshelf.ordered_holding hordered name changed) ?_
  have hholding := hshelf.held_holding_of_some hordered hfind changed
  rw [← hheld, add_assoc, add_comm] at hholding
  exact ((add_left_cancel hholding).trans (add_comm _ _)).symm

/-- Using an object up for another one. -/
theorem tidy_turn {target : Shelf (Faulty Memory) β} {made : β → Multiset Holding}
    (hshelf : shelf.Lawful held) (htarget : target.Lawful made)
    {action : α → Client (Faulty Memory) β}
    (h : ∀ object, Trades (held object) (action object) (Delivers 0 made)) :
    Tidy (turn shelf target name action) := by
  refine tidy_onObject hshelf fun object bench hordered hfind ↦ ?_
  have hmake : Trades (held object) (action object) (Delivers 0 fun b ↦ 0 + made b) := by
    simp only [zero_add]
    exact h object
  exact trades_make htarget hmake (hshelf.ordered_without hordered name) (Multiset.zero_le _)
    (zero_add _) name

/-- Giving an object up. -/
theorem tidy_drop (hshelf : shelf.Lawful held) : Tidy (drop shelf name) := by
  refine tidy_onObject hshelf fun object bench hordered hfind ↦ ?_
  have hwithout := hshelf.ordered_without hordered name
  have hdelivers : Trades (held object) ((fun _ ↦ Answer.nothing) <$> shelf.drop object)
      (Delivers 0 fun _ ↦ 0) := by
    refine (hshelf.clears object).map _ ?_ ?_
    · exact fun _ _ hkept ↦ hkept.2
    · exact fun _ _ hkept ↦ hkept.2
  exact trades_after hdelivers hwithout (Multiset.zero_le _) (zero_add _) fun answer ↦
    trades_answer hwithout (zero_add _)

end Task

/-! ### Commands -/

theorem ReaderStep.trades_take (builder : ReaderBuilder) (step : ReaderStep) :
    Trades builder.held (step.take builder) (Delivers 0 ReaderBuilder.held) := by
  cases step with
  | projection columns => exact ReaderBuilder.trades_projection columns
  | option key value => exact ReaderBuilder.trades_option key value
  | options entries => exact ReaderBuilder.trades_options builder entries
  | optionPairs texts => exact ReaderBuilder.trades_optionPairs texts
  | batchSize size => exact ReaderBuilder.trades_batchSize size

theorem WriterStep.trades_take (builder : WriterBuilder) (step : WriterStep) :
    Trades builder.held (step.take builder) (Delivers 0 WriterBuilder.held) := by
  cases step with
  | outputPath path => exact WriterBuilder.trades_outputPath path
  | schemaText text => exact WriterBuilder.trades_schemaText text
  | schema fields => exact WriterBuilder.trades_schemaOf fields
  | option key value => exact WriterBuilder.trades_option key value
  | options entries => exact WriterBuilder.trades_options builder entries
  | writtenBy name => exact WriterBuilder.trades_writtenBy name
  | sortBy columns => exact WriterBuilder.trades_sortBy columns
  | blockSize size => exact WriterBuilder.trades_blockSize size
  | blockletSize size => exact WriterBuilder.trades_blockletSize size
  | uniqueIdentifier identifier => exact WriterBuilder.trades_uniqueIdentifier identifier

theorem SchemaSource.idle_read (source : SchemaSource) (path : String) :
    Idle (source.read path) := by
  cases source with
  | indexFile => exact SchemaReader.idle_read rfl rfl rfl rfl path
  | dataFile => exact SchemaReader.idle_read rfl rfl rfl rfl path
  | schemaFile => exact SchemaReader.idle_read rfl rfl rfl rfl path

theorem Question.idle_ask (question : Question) (accessor : Accessor) (ordinal : Nat) :
    Idle (question.ask accessor ordinal) := by
  obtain ⟨handle, hlooks⟩ := accessor.exists_looksAt
  exact (Question.looks_ask hlooks question ordinal).idle

/-- The values of a row are read and the row is given up, whether that works or not. -/
theorem trades_valuesOf (item : Except Error HeldRow) :
    Trades (Reader.itemHeld (some item)) (valuesOf item) fun _ kept ↦ kept = 0 := by
  cases item with
  | error error => exact trades_pure rfl
  | ok row =>
    have hvalues : Idle (row.accessor.values : Client (Faulty Memory) Row) :=
      ((Accessor.looksAt_some row.handle).values).idle
    have hkeeps : Keeps (0 + row.held) (attempt row.accessor.values) := by
      rw [zero_add]
      exact Idle.frame (Keeps.attempt hvalues) _
    have htrades := hkeeps.cleaning_bind row.clears_drop
    rw [zero_add] at htrades
    exact htrades

/-- Rows are put on their shelf one after the other. -/
theorem trades_putRows (name : String) (number : Nat) (rows : List HeldRow) {bench : Workbench}
    (hordered : bench.Ordered) :
    Trades (bench.held + (rows.map HeldRow.held).sum) (putRows name number bench rows)
      Workbench.Reached := by
  induction rows generalizing number bench with
  | nil => exact trades_pure ⟨bench, rfl, hordered, add_zero _⟩
  | cons row rows ih =>
    rw [List.map_cons, List.sum_cons, ← add_assoc]
    refine ((Shelf.lawful_rows.trades_put hordered _ row).frame _).bind ?_ ?_
    · rintro _ _ ⟨_, ⟨after, ⟨⟩, hafter, rfl⟩, rfl⟩
      exact ih (number + 1) hafter
    · rintro failure kept ⟨own, ⟨after, hended, -⟩, -⟩
      cases hended

namespace Task

theorem tidy_fetchRows (name : String) (size : Nat) (rows : String) :
    Tidy (fetchRows name size rows) := by
  refine tidy_onObject Shelf.lawful_readers fun reader bench hordered hfind ↦ ?_
  have hheld := Shelf.lawful_readers.held_without hordered hfind
  rw [add_comm] at hheld
  refine trades_after (reader.trades_nextBatch size) hordered le_rfl hheld fun fetched ↦ ?_
  rw [add_right_comm, hheld]
  exact (trades_putRows rows 0 fetched hordered).bind_reached fun after hafter ↦
    trades_answer hafter rfl

/-- Reading a row leaves the reader where it is. -/
theorem tidy_next (name row : String) :
    Tidy (onObject .readers name fun reader ↦ make .rows row reader.next) := by
  refine tidy_onObject Shelf.lawful_readers fun reader bench hordered hfind ↦ ?_
  have hheld := Shelf.lawful_readers.held_without hordered hfind
  rw [add_comm] at hheld
  exact trades_make Shelf.lawful_rows reader.trades_next hordered le_rfl hheld row

theorem tidy_atLocation (location : Location) {task : String → Task (Faulty Memory)}
    (h : ∀ path, Tidy (task path)) : Tidy (atLocation location task) := by
  intro bench hordered
  have hget : Trades bench.held (get : Client (Faulty Memory) (Connection (Faulty Memory)))
      fun result kept ↦ (∃ connection, result = .ok connection) ∧ kept = bench.held :=
    fun before howns log ↦ ⟨bench.held, ⟨⟨_, rfl⟩, rfl⟩, .refl howns⟩
  refine hget.bind ?_ ?_
  · rintro connection traded ⟨-, rfl⟩
    cases connection.state.inner.store.locate location with
    | none => exact tidy_lacking bench hordered
    | some path => exact h path bench hordered
  · rintro failure kept ⟨⟨connection, hended⟩, -⟩
    cases hended

end Task

theorem StoreCommand.idle_perform (command : StoreCommand) : Idle command.perform := by
  intro before howns log
  exact ⟨0, rfl, rfl, .of_object? howns.memory rfl rfl rfl⟩

theorem ObjectKind.tidy_drop (name : String) (kind : ObjectKind) :
    Task.Tidy (kind.drop name) := by
  cases kind with
  | readerBuilder => exact Task.tidy_drop Shelf.lawful_readerBuilders
  | reader => exact Task.tidy_drop Shelf.lawful_readers
  | row => exact Task.tidy_drop Shelf.lawful_rows
  | accessor => exact Task.tidy_drop Shelf.lawful_accessors
  | writerBuilder => exact Task.tidy_drop Shelf.lawful_writerBuilders
  | writer => exact Task.tidy_drop Shelf.lawful_writers
  | configuration => exact Task.tidy_drop Shelf.lawful_configurations

open ColumnStore.Task in
/-- Every command leaves what it is given on the workbench, or gives it up. -/
theorem Command.tidy_task (command : Command) : Tidy command.task := by
  cases command with
  | store command => exact tidy_answering (command.idle_perform.map _)
  | readerBuilder name path table =>
    exact tidy_make Shelf.lawful_readerBuilders (ReaderBuilder.trades_forPath path table) name
  | builderPath name =>
    exact tidy_ask Shelf.lawful_readerBuilders fun builder ↦ trades_pure rfl
  | readerStep name step =>
    exact tidy_turn Shelf.lawful_readerBuilders Shelf.lawful_readerBuilders fun builder ↦
      step.trades_take builder
  | readerConfiguration settings name =>
    exact tidy_onObject_of_tidy fun settings ↦
      tidy_turn Shelf.lawful_readerBuilders Shelf.lawful_readerBuilders fun builder ↦
        ReaderBuilder.trades_configuration settings
  | buildReader name =>
    exact tidy_turn Shelf.lawful_readerBuilders Shelf.lawful_readers ReaderBuilder.trades_build
  | buildRemoteReader name access secret endpoint =>
    exact tidy_turn Shelf.lawful_readerBuilders Shelf.lawful_readers fun builder ↦
      ReaderBuilder.trades_buildRemote access secret endpoint
  | hasNext name =>
    exact tidy_ask Shelf.lawful_readers fun reader ↦ Idle.frame (reader.idle_hasNext.map _) _
  | next name row => exact tidy_next name row
  | nextBatch name size target => exact tidy_fetchRows name size target
  | rows name limit =>
    exact tidy_ask Shelf.lawful_readers fun reader ↦
      (Reader.keeps_forRows trades_valuesOf _).map _
  | closeReader name => exact tidy_alter Shelf.lawful_readers Reader.alters_close
  | describeReader name => exact tidy_ask Shelf.lawful_readers fun reader ↦ trades_pure rfl
  | newAccessor name => exact tidy_make Shelf.lawful_accessors (trades_pure rfl) name
  | accessor name row =>
    exact tidy_onObject_of_tidy fun row ↦
      tidy_make Shelf.lawful_accessors (trades_pure rfl) name
  | bind name row =>
    exact tidy_onObject_of_tidy fun row ↦
      tidy_alter Shelf.lawful_accessors fun accessor ↦ alters_pure _ accessor rfl
  | ask name question ordinal =>
    exact tidy_ask Shelf.lawful_accessors fun accessor ↦ (question.idle_ask accessor ordinal).map _
  | askAll name questions ordinal =>
    refine tidy_ask Shelf.lawful_accessors fun accessor ↦ ?_
    obtain ⟨handle, hlooks⟩ := accessor.exists_looksAt
    exact ((Looks.mapM fun question ↦
      (Question.looks_ask hlooks question ordinal).attempt).map _).idle
  | writerBuilder name =>
    exact tidy_make Shelf.lawful_writerBuilders WriterBuilder.trades_create name
  | writerStep name step =>
    exact tidy_turn Shelf.lawful_writerBuilders Shelf.lawful_writerBuilders fun builder ↦
      step.trades_take builder
  | buildWriter name =>
    exact tidy_turn Shelf.lawful_writerBuilders Shelf.lawful_writers WriterBuilder.trades_build
  | write name record =>
    exact tidy_alter Shelf.lawful_writers fun writer ↦ writer.alters_write record
  | writeValues name values =>
    exact tidy_alter Shelf.lawful_writers fun writer ↦ writer.alters_writeValues values
  | closeWriter name => exact tidy_alter Shelf.lawful_writers Writer.alters_close
  | describeWriter name => exact tidy_ask Shelf.lawful_writers fun writer ↦ trades_pure rfl
  | configuration name =>
    exact tidy_make Shelf.lawful_configurations Configuration.trades_create name
  | configurationOf name entries =>
    exact tidy_make Shelf.lawful_configurations (Configuration.trades_ofOptions entries) name
  | setEntry name key value =>
    exact tidy_ask Shelf.lawful_configurations fun settings ↦ (settings.keeps_set key value).map _
  | getEntry name key =>
    exact tidy_ask Shelf.lawful_configurations fun settings ↦
      Idle.frame ((settings.idle_get key).map _) _
  | schema source location =>
    exact tidy_atLocation location fun path ↦ tidy_answering ((source.idle_read path).map _)
  | versionDetails location =>
    exact tidy_atLocation location fun path ↦
      tidy_answering ((SchemaReader.idle_versionDetails path).map _)
  | drop kind name => exact kind.tidy_drop name

end ColumnStore
