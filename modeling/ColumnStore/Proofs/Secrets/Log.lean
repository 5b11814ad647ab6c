import ColumnStore.Proofs.Secrets.Client

/-!
# Secrets and the log

Two scripts that are the same once the secrets are taken out of them report the same, event by
event, whatever calls fail or return meanwhile and whatever matters enough to be kept. A command is
echoed by the command without the secrets, on consoles with the same objects at hand; what it
answers may differ, for a setting can be got, but no answer is reported.
-/

set_option autoImplicit false

namespace ColumnStore

open Client

/-! ### Commands without secrets -/

/-- The step with the secrets taken out. -/
def ReaderStep.redacted : ReaderStep → ReaderStep
  | .option key value => .option key (redact key value)
  | .options entries => .options entries.redacted
  | .optionPairs texts => .optionPairs (texts.map Options.redactPair)
  | step => step

/-- The step with the secrets taken out. -/
def WriterStep.redacted : WriterStep → WriterStep
  | .option key value => .option key (redact key value)
  | .options entries => .options entries.redacted
  | step => step

/-- The command with the secrets taken out. -/
def Command.redacted : Command → Command
  | .readerStep name step => .readerStep name step.redacted
  | .buildRemoteReader name access secret endpoint =>
    .buildRemoteReader name (redact Options.accessKey access) (redact Options.secretKey secret)
      (redact Options.endpointKey endpoint)
  | .writerStep name step => .writerStep name step.redacted
  | .configurationOf name entries => .configurationOf name entries.redacted
  | .setEntry name key value => .setEntry name key (redact key value)
  | command => command

theorem ReaderStep.conceals_take (builder : ReaderBuilder) (step : ReaderStep) :
    Conceals Eq (step.take builder) (step.redacted.take builder) := by
  cases step with
  | projection columns => exact builder.discreet_projection columns
  | option key value => exact builder.conceals_option key value
  | options entries => exact builder.conceals_options entries
  | optionPairs texts => exact builder.conceals_optionPairs texts
  | batchSize size => exact builder.discreet_batchSize size

theorem WriterStep.conceals_take (builder : WriterBuilder) (step : WriterStep) :
    Conceals Eq (step.take builder) (step.redacted.take builder) := by
  cases step with
  | outputPath path => exact builder.discreet_outputPath path
  | schemaText text => exact builder.discreet_schemaText text
  | schema fields => exact builder.discreet_schemaOf fields
  | option key value => exact builder.conceals_option key value
  | options entries => exact builder.conceals_options entries
  | writtenBy name => exact builder.discreet_writtenBy name
  | sortBy columns => exact builder.discreet_sortBy columns
  | blockSize size => exact builder.discreet_blockSize size
  | blockletSize size => exact builder.discreet_blockletSize size
  | uniqueIdentifier identifier => exact builder.discreet_uniqueIdentifier identifier

theorem SchemaSource.discreet_read (source : SchemaSource) (path : String) :
    Discreet (source.read path) := by
  cases source with
  | indexFile => exact SchemaReader.discreet_read (by decide) path
  | dataFile => exact SchemaReader.discreet_read (by decide) path
  | schemaFile => exact SchemaReader.discreet_read (by decide) path

/-! ### Shelves -/

namespace Shelf

variable {α : Type} {shelf : Shelf (Faulty Memory) α}

/-- Giving up what lies on the shelf is discreet. -/
def Discreet (shelf : Shelf (Faulty Memory) α) : Prop :=
  ∀ object, Client.Discreet (shelf.drop object)

theorem discreet_readerBuilders : readerBuilders.Discreet := fun _ ↦ discreet_discard _

theorem discreet_readers : readers.Discreet := Reader.discreet_drop

theorem discreet_rows : rows.Discreet := fun _ ↦ discreet_discard _

theorem discreet_accessors : accessors.Discreet := fun _ ↦ blind_pure ()

theorem discreet_writerBuilders : writerBuilders.Discreet := fun _ ↦ discreet_discard _

theorem discreet_writers : writers.Discreet := Writer.discreet_drop

theorem discreet_configurations : configurations.Discreet := fun _ ↦ discreet_discard _

theorem Discreet.put (h : shelf.Discreet) (name : String) (object : α) (bench : Workbench) :
    Client.Discreet (shelf.put name object bench) := by
  unfold Shelf.put
  cases shelf.find? name bench with
  | none => exact blind_pure _
  | some old => exact (h old).bind_same fun _ ↦ blind_pure _

theorem Discreet.clear (h : shelf.Discreet) (bench : Workbench) :
    Client.Discreet (shelf.clear bench) :=
  (blind_forM (shelf.content bench) fun entry ↦ h entry.2).bind_same fun _ ↦ blind_pure _

end Shelf

theorem Workbench.discreet_clear (bench : Workbench) : Discreet bench.clear :=
  (Shelf.discreet_accessors.clear bench).bind_same fun bench ↦
    (Shelf.discreet_rows.clear bench).bind_same fun bench ↦
      (Shelf.discreet_readers.clear bench).bind_same fun bench ↦
        (Shelf.discreet_readerBuilders.clear bench).bind_same fun bench ↦
          (Shelf.discreet_writers.clear bench).bind_same fun bench ↦
            (Shelf.discreet_writerBuilders.clear bench).bind_same
              Shelf.discreet_configurations.clear

/-! ### Tasks -/

namespace Task

variable {α β γ : Type} {related : α → β → Prop} {shelf : Shelf (Faulty Memory) α}

/-- The twin does what the task does, as far as can be seen, and leaves the same objects at hand.
What the two answer may differ. -/
def Conceals (task twin : Task (Faulty Memory)) : Prop :=
  ∀ bench, Client.Conceals (fun ended twinEnded ↦ ended.2 = twinEnded.2) (task bench) (twin bench)

theorem conceals_lacking : Conceals lacking lacking := fun _ ↦ echoes_pure rfl

theorem conceals_after {action : Client (Faulty Memory) α} {twin : Client (Faulty Memory) β}
    {next : α → Task (Faulty Memory)} {twinNext : β → Task (Faulty Memory)}
    (h : Client.Conceals related action twin)
    (hnext : ∀ a b, related a b → Conceals (next a) (twinNext b)) :
    Conceals (after action next) (after twin twinNext) := by
  refine fun bench ↦ h.settle.bind fun ended twinEnded hends ↦ ?_
  cases hends with
  | ok hrelated => exact hnext _ _ hrelated bench
  | error failure => exact echoes_pure rfl

theorem conceals_answering {related : Answer → Answer → Prop}
    {action twin : Client (Faulty Memory) Answer} (h : Client.Conceals related action twin) :
    Conceals (answering action) (answering twin) :=
  conceals_after h fun _ _ _ _ ↦ echoes_pure rfl

theorem conceals_make (hshelf : shelf.Discreet) (name : String)
    {action twin : Client (Faulty Memory) α} (h : Client.Conceals Eq action twin) :
    Conceals (make shelf name action) (make shelf name twin) :=
  conceals_after h fun a _ heq bench ↦ heq ▸ (hshelf.put name a bench).bind_same fun _ ↦
    echoes_pure rfl

theorem conceals_onObject {task twin : α → Task (Faulty Memory)} (name : String)
    (h : ∀ object, Conceals (task object) (twin object)) :
    Conceals (onObject shelf name task) (onObject shelf name twin) := by
  intro bench
  unfold onObject
  cases shelf.find? name bench with
  | none => exact conceals_lacking bench
  | some object => exact h object bench

theorem conceals_ask {related : Answer → Answer → Prop}
    {action twin : α → Client (Faulty Memory) Answer} (name : String)
    (h : ∀ object, Client.Conceals related (action object) (twin object)) :
    Conceals (ask shelf name action) (ask shelf name twin) :=
  conceals_onObject name fun object ↦ conceals_answering (h object)

theorem conceals_alter {action : α → Client (Faulty Memory) α} (name : String)
    (h : ∀ object, Discreet (action object)) :
    Conceals (alter shelf name action) (alter shelf name action) :=
  conceals_onObject name fun object ↦ conceals_after (h object) fun _ _ heq _ ↦
    heq ▸ echoes_pure rfl

theorem conceals_turn {target : Shelf (Faulty Memory) γ} (htarget : target.Discreet) (name : String)
    {action twin : α → Client (Faulty Memory) γ}
    (h : ∀ object, Client.Conceals Eq (action object) (twin object)) :
    Conceals (turn shelf target name action) (turn shelf target name twin) :=
  conceals_onObject name fun object _ ↦ conceals_make htarget name (h object) _

theorem conceals_drop (hshelf : shelf.Discreet) (name : String) :
    Conceals (drop shelf name) (drop shelf name) :=
  conceals_onObject name fun object _ ↦ conceals_answering ((hshelf object).map_same _) _

theorem conceals_atLocation (location : Location) {task : String → Task (Faulty Memory)}
    (h : ∀ path, Conceals (task path) (task path)) :
    Conceals (atLocation location task) (atLocation location task) := by
  have hget : Client.Conceals (Connection.Resembles (Faulty.map Memory.redacted)) get get :=
    fun _ _ hresembles ↦ ⟨.ok hresembles, hresembles⟩
  have hlocate : ∀ memory : Memory,
      memory.redacted.store.locate location = memory.store.locate location := fun memory ↦ by
    cases location <;> rfl
  refine fun bench ↦ hget.bind fun first second hresembles ↦ ?_
  have hview : first.state.inner.redacted = second.state.inner.redacted :=
    (Faulty.mk.inj hresembles.state).2
  rw [← hlocate first.state.inner, hview, hlocate]
  cases second.state.inner.store.locate location with
  | none => exact conceals_lacking bench
  | some path => exact h path bench

end Task

/-! ### Commands -/

theorem discreet_valuesOf (item : Except Error HeldRow) : Discreet (valuesOf item) := by
  cases item with
  | error error => exact blind_pure _
  | ok row =>
    exact (row.accessor.discreet_values.attempt.cleaning (discreet_discard _)).bind_same fun _ ↦
      (discreet_discard _).bind_same fun _ ↦ blind_pure _

theorem discreet_putRows (name : String) (number : Nat) (rows : List HeldRow) (bench : Workbench) :
    Discreet (putRows name number bench rows) := by
  induction rows generalizing number bench with
  | nil => exact blind_pure bench
  | cons row rows ih =>
    exact (Shelf.discreet_rows.put _ row bench).bind_same fun bench ↦ ih (number + 1) bench

theorem Task.conceals_fetchRows (name : String) (size : Nat) (rows : String) :
    Conceals (fetchRows name size rows) (fetchRows name size rows) :=
  conceals_onObject name fun reader ↦ conceals_after (reader.discreet_nextBatch size)
    fun fetched _ heq bench ↦ heq ▸ (discreet_putRows rows 0 fetched bench).bind_same fun _ ↦
      echoes_pure rfl

/-- What is done to a store goes along with taking the secrets out of it. -/
theorem StoreCommand.run_congr {store other : Store} (command : StoreCommand)
    (h : store.redacted = other.redacted) :
    (command.run store).2.redacted = (command.run other).2.redacted := by
  cases command with
  | seed path schema content => exact congrArg (·.seed path schema content) h
  | _ => exact h

/-- What stores answer about the options that they received may differ. -/
theorem StoreCommand.conceals_perform (command : StoreCommand) :
    Conceals (fun _ _ ↦ True) command.perform command.perform := by
  intro first second hresembles
  obtain ⟨hfaults, hinner⟩ := Faulty.mk.inj hresembles.state
  have hstore := command.run_congr (Memory.mk.inj hinner).1
  refine ⟨.ok trivial, ?_, hresembles.log⟩
  exact (Faulty.mk.injEq _ _ _ _).mpr ⟨hfaults, Memory.redacted_with_store hinner hstore⟩

theorem ObjectKind.conceals_drop (name : String) (kind : ObjectKind) :
    Task.Conceals (kind.drop name) (kind.drop name) := by
  cases kind with
  | readerBuilder => exact Task.conceals_drop Shelf.discreet_readerBuilders name
  | reader => exact Task.conceals_drop Shelf.discreet_readers name
  | row => exact Task.conceals_drop Shelf.discreet_rows name
  | accessor => exact Task.conceals_drop Shelf.discreet_accessors name
  | writerBuilder => exact Task.conceals_drop Shelf.discreet_writerBuilders name
  | writer => exact Task.conceals_drop Shelf.discreet_writers name
  | configuration => exact Task.conceals_drop Shelf.discreet_configurations name

open ColumnStore.Task in
/-- A command is echoed by the command without its secrets. -/
theorem Command.conceals_task (command : Command) :
    Task.Conceals command.task command.redacted.task := by
  cases command with
  | store command =>
    have hanswer : Client.Conceals (fun _ _ ↦ True) (Answer.store <$> command.perform)
        (Answer.store <$> command.perform) := command.conceals_perform.map fun _ _ _ ↦ trivial
    exact conceals_answering hanswer
  | readerBuilder name path table =>
    exact conceals_make Shelf.discreet_readerBuilders name
      (ReaderBuilder.discreet_forPath path table)
  | builderPath name => exact conceals_ask name fun builder ↦ blind_pure _
  | readerStep name step =>
    exact conceals_turn Shelf.discreet_readerBuilders name fun builder ↦ step.conceals_take builder
  | readerConfiguration settings name =>
    exact conceals_onObject settings fun settings ↦
      conceals_turn Shelf.discreet_readerBuilders name fun builder ↦
        builder.discreet_configuration settings
  | buildReader name =>
    exact conceals_turn Shelf.discreet_readers name ReaderBuilder.discreet_build
  | buildRemoteReader name access secret endpoint =>
    exact conceals_turn Shelf.discreet_readers name fun builder ↦
      builder.conceals_buildRemote access secret endpoint
  | hasNext name => exact conceals_ask name fun reader ↦ reader.discreet_hasNext.map_same _
  | next name row =>
    exact conceals_onObject name fun reader ↦
      conceals_make Shelf.discreet_rows row reader.discreet_next
  | nextBatch name size target => exact conceals_fetchRows name size target
  | rows name limit =>
    exact conceals_ask name fun reader ↦
      (reader.discreet_forRows discreet_valuesOf _).map_same _
  | closeReader name => exact conceals_alter name Reader.discreet_close
  | describeReader name => exact conceals_ask name fun reader ↦ blind_pure _
  | newAccessor name => exact conceals_make Shelf.discreet_accessors name (blind_pure _)
  | accessor name row =>
    exact conceals_onObject row fun row ↦
      conceals_make Shelf.discreet_accessors name (blind_pure row.accessor)
  | bind name row =>
    exact conceals_onObject row fun row ↦ conceals_alter name fun _ ↦ blind_pure row.accessor
  | ask name question ordinal =>
    exact conceals_ask name fun accessor ↦ (question.discreet_ask accessor ordinal).map_same _
  | askAll name questions ordinal =>
    exact conceals_ask name fun accessor ↦ (blind_mapM questions fun question ↦
      (question.discreet_ask accessor ordinal).attempt).map_same _
  | writerBuilder name =>
    exact conceals_make Shelf.discreet_writerBuilders name WriterBuilder.discreet_create
  | writerStep name step =>
    exact conceals_turn Shelf.discreet_writerBuilders name fun builder ↦ step.conceals_take builder
  | buildWriter name => exact conceals_turn Shelf.discreet_writers name WriterBuilder.discreet_build
  | write name record => exact conceals_alter name fun writer ↦ writer.discreet_write record
  | writeValues name values =>
    exact conceals_alter name fun writer ↦ writer.discreet_write (Value.cells values)
  | closeWriter name => exact conceals_alter name Writer.discreet_close
  | describeWriter name => exact conceals_ask name fun writer ↦ blind_pure _
  | configuration name =>
    exact conceals_make Shelf.discreet_configurations name Configuration.discreet_create
  | configurationOf name entries =>
    exact conceals_make Shelf.discreet_configurations name
      (Configuration.conceals_ofOptions entries)
  | setEntry name key value =>
    exact conceals_ask name fun settings ↦ (settings.conceals_set key value).map_same _
  | getEntry name key =>
    have hanswer : ∀ settings : Configuration, Client.Conceals (fun _ _ ↦ True)
        (Answer.text <$> settings.get key) (Answer.text <$> settings.get key) := fun settings ↦
      (settings.conceals_get key).map fun _ _ _ ↦ trivial
    exact conceals_ask name hanswer
  | schema source location =>
    exact conceals_atLocation location fun path ↦
      conceals_answering ((source.discreet_read path).map_same _)
  | versionDetails location =>
    exact conceals_atLocation location fun path ↦
      conceals_answering ((SchemaReader.discreet_versionDetails path).map_same _)
  | drop kind name => exact kind.conceals_drop name

/-! ### Scripts -/

namespace Console

variable {first second : Console}

/-- Two consoles with the same objects at hand, whose connections look the same. -/
structure Resembles (first second : Console) : Prop where
  connection : first.connection.Resembles (Faulty.map Memory.redacted) second.connection
  bench : first.bench = second.bench

/-- Nothing is left to be reported after a report, and the events were the same. -/
theorem Resembles.report {α β : Type} (h : first.Resembles second) (result : Except Mishap α)
    (twin : Except Mishap β) (live other : Nat) :
    (first.report result live).1.events = (second.report twin other).1.events ∧
      (first.report result live).2.Resembles (second.report twin other).2 := by
  refine ⟨congrArg Log.events h.connection.log, ⟨h.connection.state, ?_⟩, h.bench⟩
  exact congrArg (fun log : Log ↦ Log.empty log.threshold) h.connection.log

/-- A command is reported like the command without its secrets, and the consoles still look the
same. -/
theorem Resembles.perform (h : first.Resembles second) (command : Command) :
    (perform command first).1.events = (Console.perform command.redacted second).1.events ∧
      (Console.perform command first).2.Resembles (Console.perform command.redacted second).2 := by
  obtain ⟨hends, hconnection⟩ := command.conceals_task first.bench _ _ h.connection
  unfold Console.perform run
  rw [← h.bench]
  generalize (command.task first.bench).run backend first.connection = ended at hends hconnection ⊢
  generalize (command.redacted.task first.bench).run backend second.connection = twinEnded
    at hends hconnection ⊢
  obtain ⟨result, after⟩ := ended
  obtain ⟨twinResult, twinAfter⟩ := twinEnded
  cases hends with
  | ok hbench => exact Resembles.report ⟨hconnection, hbench⟩ _ _ _ _
  | error failure =>
    have hafter : Resembles ⟨after, first.bench⟩ ⟨twinAfter, first.bench⟩ := ⟨hconnection, rfl⟩
    exact hafter.report _ _ _ _

theorem performAll_concat (commands : List Command) (command : Command) (console : Console) :
    performAll (commands ++ [command]) console =
      ((performAll commands console).1 ++ [(perform command (performAll commands console).2).1],
        (perform command (performAll commands console).2).2) := by
  unfold performAll
  simp only [List.foldl_append, List.foldl_cons, List.foldl_nil, List.reverse_cons]

/-- A script is reported like the script without its secrets. -/
theorem Resembles.performAll (h : first.Resembles second) (commands : List Command) :
    (performAll commands first).1.map Report.events =
        (Console.performAll (commands.map Command.redacted) second).1.map Report.events ∧
      (Console.performAll commands first).2.Resembles
        (Console.performAll (commands.map Command.redacted) second).2 := by
  induction commands using List.reverseRecOn with
  | nil => exact ⟨rfl, h⟩
  | append_singleton commands command ih =>
    obtain ⟨hevents, hafter⟩ := ih
    obtain ⟨hlast, hend⟩ := hafter.perform command
    rw [List.map_append, List.map_singleton, performAll_concat, performAll_concat]
    refine ⟨?_, hend⟩
    rw [List.map_append, List.map_append, hevents, List.map_singleton, List.map_singleton, hlast]

theorem Resembles.finish (h : first.Resembles second) (ending : Ending) :
    (first.finish ending).1.events = (second.finish ending).1.events := by
  obtain ⟨-, hcleared⟩ := first.bench.discreet_clear _ _ h.connection
  have hbench := h.bench
  unfold Console.finish run
  rw [← hbench]
  cases ending with
  | shutdown => exact congrArg Log.events (discreet_shutdown _ _ hcleared).2.log
  | hangUp => exact congrArg Log.events (discreet_hangUp _ _ hcleared).2.log

/-! ### The log -/

/-- What a script reports: at the start, with each command and at the end. -/
def events (store : Store) (faults : List Fault) (threshold : Level) (commands : List Command)
    (ending : Ending) : List (List Event) :=
  let (started, console) := start store faults threshold
  let (reports, console) := performAll commands console
  started :: (reports.map Report.events ++ [(console.finish ending).1.events])

/-- A script reports what the script without its secrets reports. -/
theorem events_redacted (store : Store) (faults : List Fault) (threshold : Level)
    (commands : List Command) (ending : Ending) :
    events store faults threshold commands ending =
      events store faults threshold (commands.map Command.redacted) ending := by
  have hstart : Resembles (start store faults threshold).2 (start store faults threshold).2 :=
    ⟨⟨rfl, rfl⟩, rfl⟩
  obtain ⟨hevents, hafter⟩ := hstart.performAll commands
  exact congrArg₂ (fun told last ↦ _ :: (told ++ [last])) hevents (hafter.finish ending)

/-- Secrets have no part in the log. Two scripts that are the same but for the values of secrets
report the same events, with every detail and of every level, whatever calls fail or return as
planned and whatever matters enough to be kept. -/
theorem events_eq_of_redacted_eq (store : Store) (faults : List Fault) (threshold : Level)
    {first second : List Command} (h : first.map Command.redacted = second.map Command.redacted)
    (ending : Ending) :
    events store faults threshold first ending = events store faults threshold second ending := by
  rw [events_redacted, h, ← events_redacted]

/-- Two scripts with other secrets in configurations, in options, in a pair and in the keys to an
object store, while a secret cannot be read back once. -/
theorem events_of_other_secrets :
    let script (secret pair : String) : List Command :=
      [.configuration "c", .setEntry "c" "fs.s3a.secret.key" secret,
        .setEntry "c" "fs.s3a.secret.key" secret, .configurationOf "d" ⟨[("db.password", secret)]⟩,
        .writerBuilder "w", .writerStep "w" (.option "My.Password" secret),
        .readerBuilder "b" "s3a://t" none, .readerStep "b" (.options ⟨[("x.secret", secret)]⟩),
        .readerStep "b" (.optionPairs [pair]), .readerConfiguration "c" "b",
        .buildRemoteReader "b" secret secret "http://store"]
    let first := script "one" " fs.s3a.access.key =one"
    let second := script "two" " fs.s3a.access.key =t=w=o"
    let faults : List Fault := [⟨"get", none, 0, 1, .fails .shutDown⟩]
    first.map Command.redacted = second.map Command.redacted ∧
      events .empty faults .debug first .hangUp = events .empty faults .debug second .hangUp ∧
      ⟨.info, "configuration entry set", [("key", "fs.s3a.secret.key"), ("value", "******")]⟩ ∈
        (events .empty faults .debug first .hangUp).flatten := by
  intro script first second faults
  have hsecret : ∀ key ∈ ["fs.s3a.secret.key", "db.password", "My.Password", "x.secret",
      Options.accessKey, Options.secretKey], redact key "one" = redact key "two" := by
    decide +kernel
  have hpair : Options.redactPair " fs.s3a.access.key =one" =
      Options.redactPair " fs.s3a.access.key =t=w=o" := by
    decide +kernel
  have h : first.map Command.redacted = second.map Command.redacted := by
    simp only [List.forall_mem_cons] at hsecret
    obtain ⟨hkey, hdatabase, hpassword, hoption, haccess, hstore, -⟩ := hsecret
    simp [first, second, script, Command.redacted, ReaderStep.redacted, WriterStep.redacted,
      Options.redacted, Dictionary.mapItems, hkey, hdatabase, hpassword, hoption, haccess, hstore,
      hpair]
  exact ⟨h, events_eq_of_redacted_eq .empty faults .debug h .hangUp, by decide +kernel⟩

end Console

end ColumnStore
