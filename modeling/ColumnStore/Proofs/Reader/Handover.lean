import ColumnStore.Console.Command
import ColumnStore.Proofs.Client.Recorded
import ColumnStore.Proofs.Memory.Settings
import ColumnStore.Proofs.Options.LastWins
import ColumnStore.Proofs.Reader.Projection
import Mathlib.Data.List.Nodup

/-!
# Options handed over to the storage layer

A builder of a reader is told options in several ways, one by one or many at a time, and other calls
may be made on the backend in between. Building the reader hands each key over once, with the value
that it was set to last, whatever comes of the build.
-/

set_option autoImplicit false

namespace ColumnStore

/-- Options as they are received over a path. -/
def receivedOver (path : String) (entries : List (String × String)) : List ReceivedOption :=
  entries.map fun entry ↦ ⟨path, entry.1, entry.2⟩

/-- The options that a step sets, in their order. -/
def ReaderStep.sets : ReaderStep → List (String × String)
  | .option key value => [(key, value)]
  | .options settings => settings.entries
  | .optionPairs texts => texts.filterMap fun text ↦ (Options.readPair text).toOption
  | .projection _ | .batchSize _ => []

/-- Texts that can all be read set what is read. -/
theorem ReaderStep.sets_optionPairs {texts : List String} {entries : List (String × String)}
    (h : texts.mapM Options.readPair = .ok entries) : (optionPairs texts).sets = entries := by
  have hread := mapM_eq_ok_iff.mp h
  show texts.filterMap (fun text ↦ (Options.readPair text).toOption) = entries
  clear h
  induction hread with
  | nil => rfl
  | cons htext _ ih =>
    rw [List.filterMap_cons, htext, ih]
    rfl

/-- Something that a builder of a reader is told. -/
inductive ReaderSetting where
  | step (step : ReaderStep)
  | configuration (settings : Configuration)

namespace ReaderSetting

/-- Tells it to the builder. -/
def take {σ : Type} (builder : ReaderBuilder) : ReaderSetting → Client σ ReaderBuilder
  | .step taken => taken.take builder
  | .configuration settings => builder.configuration settings

/-- The options that it sets, in their order: those of a configuration are the ones that it holds
now, with ascending keys. -/
def sets (memory : Memory) : ReaderSetting → List (String × String)
  | .step taken => taken.sets
  | .configuration settings =>
    match memory.object? settings.handle with
    | some (.configuration entries) =>
      entries.mergeSort fun entry other ↦ (Text.compareTexts entry.1 other.1).isLE
    | _ => []

end ReaderSetting

namespace Memory

/-- A builder of a reader over a path, on a backend that was started over some store, once it has
been told settings, with what the settings were to set at the time. In between, calls may be made
that spare the builder. -/
inductive Told (path : String) : List (String × String) → ReaderBuilder → Memory → Prop
  | forPath {store : Store} {calls : List Call} {table : Option String} {builder : ReaderBuilder}
      {before : Log} {after : Connection Memory}
      (hrun : (ReaderBuilder.forPath path table).run backend ⟨(start store).after calls, before⟩ =
        (.ok builder, after)) :
      Told path [] builder after.state
  | setting {sets : List (String × String)} {builder next : ReaderBuilder} {memory : Memory}
      {before : Log} {after : Connection Memory} (setting : ReaderSetting)
      (htold : Told path sets builder memory)
      (hrun : (setting.take builder).run backend ⟨memory, before⟩ = (.ok next, after)) :
      Told path (sets ++ setting.sets memory) next after.state
  | beside {sets : List (String × String)} {builder : ReaderBuilder} {memory : Memory} (call : Call)
      (htold : Told path sets builder memory) (hcall : call.spares builder.handle) :
      Told path sets builder (memory.reply call).state

/-- What is known of a builder that has been told settings. -/
structure Knows (memory : Memory) (builder : ReaderBuilder) (path : String)
    (sets : List (String × String)) : Prop where
  samePath : builder.path = path
  plan : ∃ plan : ReaderPlan, memory.Holds builder.handle (.readerBuilder plan) ∧
    plan.path = path ∧ Options.LastWins sets plan.options.entries
  ascend : memory.SettingsAscend

variable {memory : Memory} {builder : ReaderBuilder} {path table : String}
  {sets more : List (String × String)} {plan : ReaderPlan} {operation : Operation}
  {arguments : List Argument}

/-! ### Telling the builder -/

/-- The action ends with a failure, or with a builder that knows what was set. -/
def Informs (action : Client Memory ReaderBuilder) (memory : Memory) (path : String)
    (sets : List (String × String)) : Prop :=
  Client.Ends backend action memory fun result after ↦
    ∀ next, result = .ok next → after.Knows next path sets

theorem Informs.bind {next : ReaderBuilder → Client Memory ReaderBuilder}
    {action : Client Memory ReaderBuilder} (h : Informs action memory path sets)
    (hnext : ∀ builder after, Knows after builder path sets →
      Informs (next builder) after path more) :
    Informs (action >>= next) memory path more := by
  refine Client.Ends.bind h ?_ ?_
  · intro builder after hknows
    exact hnext builder after (hknows builder rfl)
  · rintro failure after - next ⟨⟩

theorem Informs.of_run {action : Client Memory ReaderBuilder} (h : Informs action memory path sets)
    {log : Log} {next : ReaderBuilder} {after : Connection Memory}
    (hrun : action.run backend ⟨memory, log⟩ = (.ok next, after)) :
    after.state.Knows next path sets := by
  have hended := h log
  rw [hrun] at hended
  exact hended next rfl

/-- The action ends with a failure. -/
def Fails {α : Type} (action : Client Memory α) (memory : Memory) : Prop :=
  Client.Ends backend action memory fun result _ ↦ ∃ failure, result = .error failure

theorem fails_refuse {α : Type} (error : Error) :
    Fails (Client.refuse error : Client Memory α) memory :=
  Client.ends_refuse ⟨_, rfl⟩

theorem Fails.bind {α β : Type} {action : Client Memory α} (h : Fails action memory)
    (next : α → Client Memory β) : Fails (action >>= next) memory := by
  refine Client.Ends.bind h ?_ ?_
  · rintro a after ⟨failure, ⟨⟩⟩
  · rintro failure after -
    exact ⟨failure, rfl⟩

/-- A step that fails informs nobody. -/
theorem Fails.step {action : Client Memory Unit} (h : Fails action memory)
    (builder : ReaderBuilder) : Fails (builder.step action) memory := by
  have hcleaned : Fails (Client.cleaning builder.drop action) memory := by
    refine Client.Ends.tryCatch h ?_ ?_
    · rintro a after ⟨failure, ⟨⟩⟩
    · rintro failure after -
      refine Client.Ends.bind (Client.ends_discard builder.handle after) ?_ ?_
      · exact fun _ _ _ ↦ Client.ends_throw ⟨failure, rfl⟩
      · exact fun failure _ _ ↦ ⟨failure, rfl⟩
  exact hcleaned.bind _

theorem Fails.informs {action : Client Memory ReaderBuilder} (h : Fails action memory) :
    Informs action memory path sets := by
  refine h.mono ?_
  rintro result after ⟨failure, rfl⟩ next ⟨⟩

/-- A call of a builder that is refused fails. -/
theorem fails_chain (h : memory.Holds builder.handle (.readerBuilder plan)) (name : String)
    (hkind : operation.method.kind = .onObject) {error : CallError}
    (hperform : perform operation builder.handle arguments (memory.counting operation.method) =
      .failed (memory.counting operation.method) error) :
    Fails (builder.chain name operation arguments) memory := by
  have hcall := runs_call h.running hkind (congrArg Reply.outcome hperform)
    (congrArg Reply.state hperform)
  have hchain : Client.Runs backend (Client.chain builder.handle operation arguments) memory
      (.ok (.error error)) (memory.counting operation.method) :=
    hcall.bind (Client.runs_pure _)
  exact hchain.bind (fails_refuse _)

/-- A step that changes the plan leaves a builder with the new plan. -/
theorem runs_changing (h : memory.Holds builder.handle (.readerBuilder plan)) (name : String)
    (hkind : operation.method.kind = .onObject) {method : String} {change : ReaderPlan → ReaderPlan}
    (hperform : perform operation builder.handle arguments (memory.counting operation.method) =
      changeReader builder.handle method change (memory.counting operation.method)) :
    Client.Runs backend (builder.step (builder.chain name operation arguments)) memory
      (.ok builder)
      ((memory.counting operation.method).put builder.handle (.readerBuilder (change plan))) := by
  unfold changeReader at hperform
  rw [readerBuilder_eq_ok_iff.mpr (h.counting operation.method).object] at hperform
  have hchain := (runs_chain h.running hkind hperform).bind
    (Client.runs_expect_ok name .other ())
  exact (Client.Runs.cleaning hchain).bind (Client.runs_pure builder)

/-- A builder with a new plan knows what the plan holds. -/
theorem Knows.put (h : memory.Knows builder path sets) (counted : Method) {changed : ReaderPlan}
    (hpath : changed.path = path) (hsets : Options.LastWins more changed.options.entries) :
    ((memory.counting counted).put builder.handle (.readerBuilder changed)).Knows builder path
      more := by
  obtain ⟨plan, hholds, -⟩ := h.plan
  have hcounted : (memory.counting counted).SettingsAscend := h.ascend
  exact ⟨h.samePath, ⟨changed, (hholds.counting counted).put _, hpath, hsets⟩,
    hcounted.put builder.handle trivial⟩

/-- The action ends with a builder that knows what was set, and the store has received nothing. -/
def Instructs (action : Client Memory ReaderBuilder) (memory : Memory) (path : String)
    (sets : List (String × String)) : Prop :=
  Client.Ends backend action memory fun result after ↦
    ∃ next, result = .ok next ∧ after.Knows next path sets ∧
      after.store.received = memory.store.received

theorem Instructs.informs {action : Client Memory ReaderBuilder}
    (h : Instructs action memory path sets) : Informs action memory path sets := by
  refine h.mono ?_
  rintro result after ⟨_, rfl, hknows, -⟩ next ⟨⟩
  exact hknows

theorem Knows.instructs_option (h : memory.Knows builder path sets) (key value : String) :
    Instructs (builder.option key value) memory path (sets ++ [(key, value)]) := by
  obtain ⟨plan, hholds, hpath, hsets⟩ := h.plan
  refine Client.Ends.mono (runs_changing hholds _ rfl rfl) ?_
  rintro result after ⟨rfl, rfl⟩
  exact ⟨builder, rfl, h.put _ hpath (hsets.set key value), rfl⟩

/-- Options are set one by one. -/
theorem Knows.instructs_options (h : memory.Knows builder path sets) (options : Options) :
    Instructs (builder.options options) memory path (sets ++ options.entries) := by
  obtain ⟨entries⟩ := options
  show Instructs (entries.foldlM (fun builder entry ↦ builder.option entry.1 entry.2) builder)
    memory path (sets ++ entries)
  -- On the options that are left; each one that is set is told to the builder for the rest.
  induction entries generalizing builder memory sets with
  | nil =>
    rw [List.append_nil]
    exact Client.ends_pure ⟨builder, rfl, h, rfl⟩
  | cons entry rest ih =>
    rw [List.foldlM_cons, ← List.singleton_append, ← List.append_assoc]
    refine Client.Ends.bind (h.instructs_option entry.1 entry.2) ?_ ?_
    · rintro builder after ⟨_, ⟨⟩, hknows, hreceived⟩
      refine (ih hknows).mono ?_
      rintro result last ⟨next, hnext, hlast, hsame⟩
      exact ⟨next, hnext, hlast, hsame.trans hreceived⟩
    · rintro failure after ⟨_, ⟨⟩, -⟩

theorem Knows.congr_right {settled : List (String × String)}
    (h : memory.Knows builder path (sets ++ settled)) (hsettled : Options.LastWins more settled) :
    memory.Knows builder path (sets ++ more) := by
  obtain ⟨plan, hholds, hpath, hsets⟩ := h.plan
  exact ⟨h.samePath, ⟨plan, hholds, hpath, hsets.congr_right hsettled⟩, h.ascend⟩

theorem Knows.informs_optionPairs (h : memory.Knows builder path sets) (texts : List String) :
    Informs (builder.optionPairs texts) memory path
      (sets ++ (ReaderStep.optionPairs texts).sets) := by
  unfold ReaderBuilder.optionPairs Options.ofPairs
  cases hread : texts.mapM Options.readPair with
  | error error => exact ((fails_refuse error).step builder).informs
  | ok entries =>
    rw [ReaderStep.sets_optionPairs hread]
    refine (h.instructs_options (.ofEntries entries)).informs.mono ?_
    intro result after hknows next hnext
    exact (hknows next hnext).congr_right (Options.lastWins_ofEntries entries)

/-- A configuration sets its entries with ascending keys. -/
theorem Knows.informs_configuration (h : memory.Knows builder path sets)
    (settings : Configuration) :
    Informs (builder.configuration settings) memory path
      (sets ++ (ReaderSetting.configuration settings).sets memory) := by
  obtain ⟨plan, hholds, hpath, hsets⟩ := h.plan
  have hstep : perform .setReaderConfiguration builder.handle [.object settings.handle]
      (memory.counting Operation.setReaderConfiguration.method) =
        setReaderConfiguration builder.handle [.object settings.handle]
          (memory.counting Operation.setReaderConfiguration.method) := rfl
  cases hentries : configurationArgument [.object settings.handle]
      (memory.counting Operation.setReaderConfiguration.method) with
  | error error =>
    rw [setReaderConfiguration, hentries] at hstep
    exact ((fails_chain hholds _ rfl hstep).step builder).informs
  | ok entries =>
    rw [setReaderConfiguration, hentries] at hstep
    have hobject : memory.object? settings.handle = some (.configuration entries) :=
      (narrowed_eq_ok_iff fun object ↦ by cases object <;> simp).mp hentries
    have hascending : (ReaderSetting.configuration settings).sets memory = entries := by
      have hpairwise : entries.Ascending := h.ascend settings.handle _ hobject
      simp only [ReaderSetting.sets, hobject]
      exact List.mergeSort_of_pairwise (hpairwise.imp fun hlt ↦ by rw [hlt]; rfl)
    rw [hascending]
    refine Client.Ends.mono (runs_changing hholds _ rfl hstep) ?_
    rintro result after ⟨rfl, rfl⟩ next ⟨⟩
    exact h.put _ hpath (hsets.setAll entries)

theorem Knows.informs_projection (h : memory.Knows builder path sets) (columns : List String) :
    Informs (builder.projection columns) memory path sets := by
  obtain ⟨plan, hholds, hpath, hsets⟩ := h.plan
  by_cases hcolumns : columns = []
  · subst hcolumns
    refine Client.ends_pure ?_
    rintro next ⟨⟩
    exact h
  · refine (runs_projection hholds hcolumns).mono ?_
    rintro result after ⟨rfl, rfl⟩ next ⟨⟩
    exact h.put _ hpath hsets

theorem Knows.informs_setBatch (h : memory.Knows builder path sets) (n : Int32) :
    Informs (builder.step (builder.chain "withBatch" .setBatch [.int n])) memory path sets := by
  obtain ⟨plan, hholds, hpath, hsets⟩ := h.plan
  have hperform : perform .setBatch builder.handle [.int n]
      (memory.counting Operation.setBatch.method) =
        setBatch builder.handle [.int n] (memory.counting Operation.setBatch.method) := rfl
  unfold setBatch at hperform
  rw [show Argument.intAt [.int n] 0 "withBatch" = .ok n from rfl] at hperform
  dsimp only at hperform
  by_cases hpositive : n ≤ 0
  · rw [if_pos hpositive] at hperform
    exact ((fails_chain hholds _ rfl hperform).step builder).informs
  · rw [if_neg hpositive] at hperform
    refine Client.Ends.mono (runs_changing hholds _ rfl hperform) ?_
    rintro result after ⟨rfl, rfl⟩ next ⟨⟩
    exact h.put _ hpath hsets

theorem Knows.informs_batchSize (h : memory.Knows builder path sets) (size : Nat) :
    Informs (builder.batchSize size) memory path sets := by
  unfold ReaderBuilder.batchSize
  refine Informs.bind (?_ : Informs _ memory path sets) fun next after hknows ↦ Client.ends_pure ?_
  · cases readBatch size with
    | error error => exact ((fails_refuse error).step builder).informs
    | ok n => exact h.informs_setBatch n
  · rintro _ ⟨⟩
    exact ⟨hknows.samePath, hknows.plan, hknows.ascend⟩

/-- A step informs the builder of what it sets. -/
theorem Knows.informs_take (h : memory.Knows builder path sets) (setting : ReaderSetting) :
    Informs (setting.take builder) memory path (sets ++ setting.sets memory) := by
  cases setting with
  | configuration settings => exact h.informs_configuration settings
  | step taken =>
    cases taken with
    | option key value => exact (h.instructs_option key value).informs
    | options options => exact (h.instructs_options options).informs
    | optionPairs texts => exact h.informs_optionPairs texts
    | projection columns => exact (List.append_nil sets).symm ▸ h.informs_projection columns
    | batchSize size => exact (List.append_nil sets).symm ▸ h.informs_batchSize size

/-! ### Making the builder -/

/-- A new builder knows its path. -/
theorem informs_create (h : memory.SettingsAscend) (hkind : operation.method.kind = .onClass)
    (hperform : perform operation 0 arguments (memory.counting operation.method) =
      (memory.counting operation.method).returnNew
        (.readerBuilder ⟨path, table, none, .empty, none⟩)) (named : Option String) :
    Informs (ReaderBuilder.create path named (Client.callStatic operation arguments)) memory path
      [] := by
  by_cases hdown : memory.isShutDown = true
  · have hrefused : backend.callStatic operation.method arguments memory =
        .failed memory .shutDown := if_pos hdown
    have hcall := Client.runs_callStatic (congrArg Reply.outcome hrefused)
      (congrArg Reply.state hrefused)
    have hfails : Fails (ReaderBuilder.create path named (Client.callStatic operation arguments))
        memory := hcall.bind ((fails_refuse _).bind _)
    exact hfails.informs
  · have hrunning : memory.isShutDown = false := Bool.eq_false_iff.mpr hdown
    have hcounted : (memory.counting operation.method).SettingsAscend := h
    have hnew := @holds_pin (memory.counting operation.method) hrunning
      (.readerBuilder ⟨path, table, none, .empty, none⟩)
    refine (runs_callStatic hrunning hkind (congrArg Reply.outcome hperform)
      (congrArg Reply.state hperform)).bind ?_
    refine (Client.runs_expect_ok _ _ memory.nextHandle).bind ?_
    refine (Client.runs_report _).bind (Client.ends_pure ?_)
    rintro next ⟨⟩
    exact ⟨rfl, ⟨_, hnew, rfl, Options.lastWins_nil⟩, hcounted.pin trivial⟩

theorem informs_forPath (h : memory.SettingsAscend) (path : String) (table : Option String) :
    Informs (ReaderBuilder.forPath path table) memory path [] := by
  cases table with
  | none => exact informs_create h rfl rfl none
  | some table => exact informs_create h rfl rfl (some table)

/-- A builder knows what it has been told. -/
theorem Told.knows (h : Told path sets builder memory) : memory.Knows builder path sets := by
  induction h with
  | forPath hrun => exact (informs_forPath (settingsAscend_after _ _) path _).of_run hrun
  | setting setting _ hrun ih => exact (ih.informs_take setting).of_run hrun
  | beside call _ hcall ih =>
    obtain ⟨plan, hholds, hpath, hsets⟩ := ih.plan
    obtain ⟨hobject, hrunning⟩ := object?_reply_of_spares hcall hholds.object
    exact ⟨ih.samePath, ⟨plan, ⟨hrunning.trans hholds.running, hobject⟩, hpath, hsets⟩,
      SettingsAscend.reply ih.ascend call⟩

/-! ### Building the reader -/

/-- How a build ends that has all the keys that it needs. -/
inductive Unlocked : Outcome Returned → Prop
  | crashed : Unlocked .crashed
  | returned (reader : Handle) : Unlocked (.returned (.object (some reader)))
  | notFound (reason : String) : Unlocked (.failed (.fileNotFound reason))
  | illegal (reason : String) : Unlocked (.failed (.illegalArgument reason))

/-- The store takes in the options of a builder, whatever comes of the build. -/
theorem store_buildReader (h : memory.object? builder.handle = some (.readerBuilder plan)) :
    (buildReader builder.handle memory).state.store =
      memory.store.receive plan.path plan.options.entries := by
  unfold buildReader
  rw [readerBuilder_eq_ok_iff.mpr h]
  dsimp only
  split
  · rfl
  · split
    · rfl
    · split
      · rfl
      · unfold openProjected
        split
        · rfl
        · rfl
        · split <;> rfl

/-- A build is refused for want of an access key, or it ends in another way. -/
theorem outcome_buildReader (h : memory.object? builder.handle = some (.readerBuilder plan)) :
    (LacksKey plan ∧ ∃ reason,
      (buildReader builder.handle memory).outcome = .failed (.accessDenied reason)) ∨
    (¬ LacksKey plan ∧ Unlocked (buildReader builder.handle memory).outcome) := by
  unfold buildReader
  rw [readerBuilder_eq_ok_iff.mpr h]
  dsimp only
  split
  · rename_i hdenied
    exact .inl ⟨by simpa [LacksKey] using hdenied, _, rfl⟩
  · rename_i hallowed
    refine .inr ⟨by simpa [LacksKey] using hallowed, ?_⟩
    split
    · exact .notFound _
    · split
      · exact .returned _
      · unfold openProjected
        split
        · exact .illegal _
        · exact .illegal _
        · split
          · exact .crashed
          · exact .returned _

theorem release_keeps_store (handle : Nat) (memory : Memory) :
    (backend.release handle memory).state.store = memory.store ∧
      (backend.release handle memory).outcome ≠ .crashed := by
  show (release handle memory).state.store = _ ∧ (release handle memory).outcome ≠ .crashed
  unfold release
  split
  · exact ⟨rfl, by rintro ⟨⟩⟩
  · split
    · exact ⟨rfl, by rintro ⟨⟩⟩
    · exact ⟨rfl, by rintro ⟨⟩⟩

/-- Giving up a handle changes neither the store nor how the action ends. -/
theorem ends_holding_store {α : Type} {action : Client Memory α}
    {post : Except Failure α → Store → Prop}
    (h : Client.Ends backend action memory fun result after ↦ post result after.store)
    (handle : Nat) :
    Client.Ends backend (Client.holding handle action) memory
      fun result after ↦ post result after.store := by
  have hdiscard : ∀ before : Memory, Client.Ends backend (Client.discard handle) before
      fun result after ↦ result = .ok () ∧ after.store = before.store := by
    refine fun before ↦ (Client.ends_discard handle before).mono ?_
    rintro result after ⟨hresult, rfl⟩
    obtain ⟨hstore, hgoesOn⟩ := release_keeps_store handle before
    exact ⟨hresult.resolve_right hgoesOn, hstore⟩
  have hcleaned : Client.Ends backend (Client.cleaning (Client.discard handle) action) memory
      fun result after ↦ post result after.store := by
    refine Client.Ends.tryCatch h (fun _ _ ↦ id) fun failure after hpost ↦ ?_
    refine (hdiscard after).bind ?_ ?_
    · rintro _ last ⟨-, hstore⟩
      exact Client.ends_throw (hstore ▸ hpost)
    · rintro _ last ⟨⟨⟩, -⟩
  refine hcleaned.bind (fun a after hpost ↦ ?_) fun _ _ ↦ id
  refine (hdiscard after).bind ?_ ?_
  · rintro _ last ⟨-, hstore⟩
    exact Client.ends_pure (hstore ▸ hpost)
  · rintro _ last ⟨⟨⟩, -⟩

/-- The result says that access was denied. -/
def DeniesAccess (path : String) (result : Except Failure Reader) : Prop :=
  ∃ reason, result = .error (.error (.build path ("AccessDeniedException: " ++ reason)))

theorem deniesAccess_accessDenied (path reason : String) :
    DeniesAccess path
      (.error (.error (.ofCall "build" (.build path) (.accessDenied reason)))) := by
  have hclass : CallError.simpleName "java.nio.file.AccessDeniedException" ++ ": " =
      "AccessDeniedException: " := by
    decide +kernel
  refine ⟨reason, ?_⟩
  rw [← hclass]
  rfl

/-- Another exception begins with another letter. -/
theorem not_deniesAccess_of_exception {path className reason : String} {c : Char}
    {rest : List Char} (hclass : (CallError.simpleName className).toList = c :: rest)
    (hc : c ≠ 'A') :
    ¬ DeniesAccess path
      (.error (.error (.ofCall "build" (.build path) (.exception className reason)))) := by
  rintro ⟨other, hsame⟩
  have htext : CallError.simpleName className ++ ": " ++ reason =
      "AccessDeniedException: " ++ other := by
    simpa [Error.ofCall, Error.ofException] using hsame
  have hhead := congrArg (fun text ↦ text.toList.head?) htext
  simp [String.toList_append, hclass] at hhead
  exact hc hhead

/-- Building the reader hands over the options, and says that access is denied exactly if a key is
lacking. -/
theorem ends_build_received (h : memory.Holds builder.handle (.readerBuilder plan)) :
    Client.Ends backend builder.build memory fun result after ↦
      after.store.received =
        memory.store.received ++ receivedOver plan.path plan.options.entries ∧
      (DeniesAccess builder.path result ↔ LacksKey plan) := by
  have hcounted := (h.counting Operation.buildReader.method).object
  have hreceived : (buildReader builder.handle
      (memory.counting Operation.buildReader.method)).state.store.received =
        memory.store.received ++ receivedOver plan.path plan.options.entries := by
    rw [store_buildReader hcounted]
    rfl
  refine @ends_holding_store memory Reader _ (fun result store ↦
    store.received = memory.store.received ++ receivedOver plan.path plan.options.entries ∧
      (DeniesAccess builder.path result ↔ LacksKey plan)) ?_ builder.handle
  have hcall : ∀ {outcome : Outcome Returned},
      (buildReader builder.handle (memory.counting Operation.buildReader.method)).outcome =
        outcome → Client.Runs backend (Client.call builder.handle .buildReader []) memory
          outcome.result
          (buildReader builder.handle (memory.counting Operation.buildReader.method)).state :=
    fun houtcome ↦ runs_call h.running rfl houtcome rfl
  rcases outcome_buildReader hcounted with ⟨hlacks, reason, houtcome⟩ | ⟨hhas, hends⟩
  · refine ((hcall houtcome).bind (Client.runs_expect_error _ _ _).bind_error).mono ?_
    rintro result after ⟨rfl, rfl⟩
    exact ⟨hreceived, iff_of_true (deniesAccess_accessDenied _ _) hlacks⟩
  · generalize houtcome : (buildReader builder.handle
      (memory.counting Operation.buildReader.method)).outcome = outcome at hends
    cases hends with
    | crashed =>
      refine (hcall houtcome).bind_error.mono ?_
      rintro result after ⟨rfl, rfl⟩
      refine ⟨hreceived, iff_of_false ?_ hhas⟩
      rintro ⟨reason, ⟨⟩⟩
    | returned reader =>
      refine (hcall houtcome).bind ((Client.runs_expect_ok _ _ reader).bind ?_)
      refine (Client.runs_report _).bind (Client.ends_pure ⟨hreceived, iff_of_false ?_ hhas⟩)
      rintro ⟨reason, ⟨⟩⟩
    | notFound reason | illegal reason =>
      refine ((hcall houtcome).bind (Client.runs_expect_error _ _ _).bind_error).mono ?_
      rintro result after ⟨rfl, rfl⟩
      exact ⟨hreceived, iff_of_false (not_deniesAccess_of_exception rfl (by decide)) hhas⟩

/-! ### Everything that is handed over -/

/-- The value last received for a key is the one that was handed over last. -/
theorem lastReceived?_of_received {store : Store} {earlier : List ReceivedOption}
    {entries : List (String × String)} (hdistinct : (entries.map Prod.fst).Nodup)
    (h : store.received = earlier ++ receivedOver path entries) {entry : String × String}
    (hmem : entry ∈ entries) : store.lastReceived? entry.1 = some entry.2 := by
  have hfound : (receivedOver path entries).reverse.find? (fun option ↦ option.key == entry.1) =
      some ⟨path, entry.1, entry.2⟩ := by
    have hisSome : ((receivedOver path entries).reverse.find?
        fun option ↦ option.key == entry.1).isSome := by
      rw [List.find?_isSome]
      refine ⟨⟨path, entry.1, entry.2⟩, ?_, by simp⟩
      rw [List.mem_reverse, receivedOver]
      exact List.mem_map_of_mem hmem
    obtain ⟨found, hfind⟩ := Option.isSome_iff_exists.mp hisSome
    have hkey := List.find?_some hfind
    obtain ⟨other, hother, rfl⟩ := List.mem_map.mp
      (List.mem_reverse.mp (List.mem_of_find?_eq_some hfind))
    have hsame : other = entry :=
      List.inj_on_of_nodup_map hdistinct hother hmem (eq_of_beq hkey)
    rw [hfind, hsame]
  rw [Store.lastReceived?, h, List.reverse_append, List.find?_append, hfound]
  rfl

/-- Building hands over each key that was set once, in the order in which the keys were first set
and with the value that was set last, however the build ends. Over a path in an object store, it
ends because access is denied exactly if no access key was set. -/
def HandsOver (action : Client Memory Reader) (memory : Memory) (path : String)
    (sets : List (String × String)) : Prop :=
  Client.Ends backend action memory fun result after ↦ ∃ entries,
    Options.LastWins sets entries ∧
      after.store.received = memory.store.received ++ receivedOver path entries ∧
      (∀ entry ∈ entries, after.store.lastReceived? entry.1 = some entry.2) ∧
      (isRemote path = true → (DeniesAccess path result ↔
        ∀ entry ∈ sets, Text.finishesWith "access.key" entry.1 = false))

theorem Knows.handsOver_build (h : memory.Knows builder path sets) :
    HandsOver builder.build memory path sets := by
  obtain ⟨plan, hholds, rfl, hsets⟩ := h.plan
  refine (ends_build_received hholds).mono ?_
  rintro result after ⟨hreceived, hdenies⟩
  refine ⟨plan.options.entries, hsets, hreceived,
    fun entry hmem ↦ lastReceived?_of_received hsets.nodup hreceived hmem, fun hremote ↦ ?_⟩
  rw [← h.samePath, hdenies]
  have hkeys : holdsAccessKey plan.options = false ↔
      ∀ entry ∈ sets, Text.finishesWith "access.key" entry.1 = false := by
    have hany : holdsAccessKey plan.options = false ↔
        ∀ key ∈ plan.options.entries.map Prod.fst, Text.finishesWith "access.key" key = false := by
      simp [holdsAccessKey]
    have hset : (∀ key ∈ sets.map Prod.fst, Text.finishesWith "access.key" key = false) ↔
        ∀ entry ∈ sets, Text.finishesWith "access.key" entry.1 = false := List.forall_mem_map
    rw [hany, ← hset]
    exact forall_congr' fun key ↦ imp_congr_left hsets.mem_keys_iff
  rw [← hkeys]
  exact and_iff_right hremote

theorem Knows.handsOver_buildRemote (h : memory.Knows builder path sets)
    (access secret endpoint : String) :
    HandsOver (builder.buildRemote access secret endpoint) memory path
      (sets ++ [(Options.accessKey, access), (Options.secretKey, secret),
        (Options.endpointKey, endpoint)]) := by
  have hentries : (Options.objectStore access secret endpoint).entries =
      [(Options.accessKey, access), (Options.secretKey, secret),
        (Options.endpointKey, endpoint)] := by
    rfl
  rw [← hentries]
  refine Client.Ends.bind (h.instructs_options (.objectStore access secret endpoint)) ?_ ?_
  · rintro next after ⟨_, ⟨⟩, hknows, hreceived⟩
    refine hknows.handsOver_build.mono ?_
    rintro result last ⟨entries, hlast⟩
    exact ⟨entries, hreceived ▸ hlast⟩
  · rintro failure after ⟨_, ⟨⟩, -⟩

/-- Texts of which one sets no key are not told to the backend: the builder is given up. -/
theorem ends_optionPairs_malformed {σ : Type} (other : Backend σ) (builder : ReaderBuilder)
    {texts : List String} (h : ∃ text ∈ texts, ¬ Options.IsPair text) (state : Recorded σ) :
    Client.Ends other.recorded (builder.optionPairs texts) state fun result after ↦
      (∃ failure, result = .error failure) ∧
        after = state.answerAll other [.release builder.handle] := by
  obtain ⟨error, hrefused⟩ := Options.exists_ofPairs_eq_error_iff.mpr h
  unfold ReaderBuilder.optionPairs
  rw [hrefused]
  have hcleaned : Client.Ends other.recorded (Client.cleaning builder.drop
      (Client.refuse error : Client (Recorded σ) Unit)) state fun result after ↦
        (∃ failure, result = .error failure) ∧
          after = state.answerAll other [.release builder.handle] := by
    refine Client.Ends.tryCatch (Client.runs_refuse error) ?_ ?_
    · rintro _ after ⟨⟨⟩, -⟩
    · rintro failure after ⟨-, rfl⟩
      refine Client.Ends.bind (Client.makes_discard builder.handle after) ?_ ?_
      · exact fun _ last hlast ↦ Client.ends_throw ⟨⟨failure, rfl⟩, hlast⟩
      · exact fun failure last hlast ↦ ⟨⟨failure, rfl⟩, hlast⟩
  refine hcleaned.bind ?_ fun failure after hended ↦ ?_
  · rintro _ after ⟨⟨failure, ⟨⟩⟩, -⟩
  · exact ⟨⟨failure, rfl⟩, hended.2⟩

/-- Whatever a builder of a reader has been told, and whatever was called beside it, building the
reader hands over each key once with the value that was set last, also if the three options of an
object store are set as the last ones. Texts of which one sets no key are refused before any call:
all that is done is to give the builder up. -/
theorem options_handed_over_once (h : Told path sets builder memory) :
    HandsOver builder.build memory path sets ∧
    (∀ access secret endpoint, HandsOver (builder.buildRemote access secret endpoint) memory path
      (sets ++ [(Options.accessKey, access), (Options.secretKey, secret),
        (Options.endpointKey, endpoint)])) ∧
    ∀ {σ : Type} (other : Backend σ) (texts : List String),
      (∃ text ∈ texts, ¬ Options.IsPair text) → ∀ state : Recorded σ,
        Client.Ends other.recorded (builder.optionPairs texts) state fun result after ↦
          (∃ failure, result = .error failure) ∧
            after = state.answerAll other [.release builder.handle] :=
  ⟨h.knows.handsOver_build, h.knows.handsOver_buildRemote,
    fun other _ hmalformed state ↦ ends_optionPairs_malformed other builder hmalformed state⟩

/-- A builder can be told any options, whatever the backend was started over. -/
theorem exists_told (store : Store) (path : String) (sets : List (String × String)) :
    ∃ builder memory, Told path sets builder memory := by
  induction sets using List.reverseRecOn with
  | nil =>
    have hruns := @runs_forPath (Connection.mk (start store) (.empty .debug)).state rfl path
    obtain ⟨log, hrun⟩ := hruns.run_eq
    exact ⟨_, _, @Told.forPath path store [] none _ _ _ hrun⟩
  | append_singleton sets entry ih =>
    obtain ⟨builder, memory, htold⟩ := ih
    have hended := htold.knows.instructs_option entry.1 entry.2 (.empty .debug)
    obtain ⟨next, hnext, -⟩ := hended
    exact ⟨next, _, .setting (.step (.option entry.1 entry.2)) htold (Prod.ext hnext rfl)⟩

/-- A builder over a path in an object store, told a key, another key and the first key again. -/
theorem options_handed_over_once_over_object_store :
    ∃ builder memory, Told "s3a://b/t" [("a", "1"), ("b", "2"), ("a", "3")] builder memory ∧
      HandsOver builder.build memory "s3a://b/t" [("a", "1"), ("b", "2"), ("a", "3")] := by
  obtain ⟨builder, memory, htold⟩ :=
    exists_told .empty "s3a://b/t" [("a", "1"), ("b", "2"), ("a", "3")]
  exact ⟨builder, memory, htold, (options_handed_over_once htold).1⟩

end Memory

end ColumnStore
