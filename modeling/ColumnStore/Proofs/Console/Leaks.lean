import ColumnStore.Proofs.Console.Tasks

/-!
# No handle leaks

The handles in use are at any time exactly those that the objects of the workbench own, whatever
commands have been performed and whatever calls have failed meanwhile. So the count of handles is
the count of objects, a command that fails leaves nothing new, and giving up all objects leaves no
handle. Calls fail by faults; `Fault.exists_verdicts_eq` says that these can let any calls fail at
any places.
-/

set_option autoImplicit false

namespace ColumnStore

open Client

namespace Console

variable {console : Console}

/-- All objects of the backend are owned by the workbench, and calls only fail as planned. -/
structure Tidy (console : Console) : Prop where
  ordered : console.bench.Ordered
  onlyFails : ∀ fault ∈ console.connection.state.faults, fault.OnlyFails
  owns : console.connection.state.inner.OwnsAll console.bench.held

theorem Tidy.live_eq (h : console.Tidy) : console.live = console.bench.objectCount :=
  h.owns.liveObjects_eq.trans console.bench.card_held

/-- An action that works with what the workbench holds. -/
theorem Tidy.run {α : Type} {action : Client (Faulty Memory) α}
    {post : Except Failure α → Multiset Holding → Prop} (h : console.Tidy)
    (haction : Trades console.bench.held action post) :
    ∃ kept, post (console.run action).1 kept ∧
      Faulty.Exchange console.bench.held kept console.connection.state
        (console.run action).2.connection.state :=
  haction console.connection.state ⟨h.onlyFails, h.owns.toOwns⟩ console.connection.log

/-- What a command makes of a console. -/
structure Becomes (before after : Console) : Prop where
  ordered : after.bench.Ordered
  exchange : Faulty.Exchange before.bench.held after.bench.held before.connection.state
    after.connection.state

theorem Becomes.tidy {before after : Console} (h : before.Becomes after) (hbefore : before.Tidy) :
    after.Tidy where
  ordered := h.ordered
  onlyFails := Fault.forall_onlyFails h.exchange.plans hbefore.onlyFails
  owns := h.exchange.memory.ownsAll hbefore.owns

/-- A command trades with what the workbench holds, and leaves nothing new if it fails. -/
theorem Tidy.perform (h : console.Tidy) (command : Command) :
    console.Becomes (perform command console).2 ∧
      ∀ mishap, (Console.perform command console).1.result = .error mishap →
        (Console.perform command console).2.bench.held ≤ console.bench.held := by
  obtain ⟨kept, ⟨answer, after, hresult, hordered, rfl, hfailed⟩, hexchange⟩ :=
    h.run (command.tidy_task console.bench h.ordered)
  have hperform : Console.perform command console =
      { (console.run (command.task console.bench)).2 with bench := after }.report answer
        (Console.live { (console.run (command.task console.bench)).2 with bench := after }) := by
    unfold Console.perform
    rcases hrun : console.run (command.task console.bench) with ⟨result, ended⟩
    rw [hrun] at hresult
    cases hresult
    rfl
  rw [hperform]
  exact ⟨⟨hordered, hexchange⟩, hfailed⟩

theorem Becomes.refl (h : console.Tidy) : console.Becomes console :=
  ⟨h.ordered, .refl ⟨h.onlyFails, h.owns.toOwns⟩⟩

theorem Becomes.trans {before middle after : Console} (hfirst : before.Becomes middle)
    (hlast : middle.Becomes after) : before.Becomes after :=
  ⟨hlast.ordered, hfirst.exchange.trans hlast.exchange⟩

/-- What commands make of a console does not depend on what is told of them. -/
theorem performAll_snd (commands : List Command) (console : Console) :
    (performAll commands console).2 =
      commands.foldl (fun console command ↦ (Console.perform command console).2) console := by
  unfold performAll
  exact (List.foldl_hom Prod.snd fun _ _ ↦ rfl).symm

theorem performAll_cons (command : Command) (commands : List Command) (console : Console) :
    (performAll (command :: commands) console).2 =
      (performAll commands (Console.perform command console).2).2 := by
  rw [performAll_snd, performAll_snd, List.foldl_cons]

/-- Commands trade with what the workbench holds. -/
theorem Tidy.performAll (h : console.Tidy) (commands : List Command) :
    console.Becomes (Console.performAll commands console).2 := by
  induction commands generalizing console with
  | nil => exact .refl h
  | cons command commands ih =>
    have hfirst := (h.perform command).1
    rw [performAll_cons]
    exact hfirst.trans (ih (hfirst.tidy h))

theorem tidy_start (store : Store) {faults : List Fault}
    (hfaults : ∀ fault ∈ faults, fault.OnlyFails) (threshold : Level) :
    (start store faults threshold).2.Tidy where
  ordered := Workbench.ordered_empty
  onlyFails := hfaults
  owns := by
    refine ⟨⟨rfl, Multiset.nodup_zero, fun holding hholding ↦ ?_⟩, ?_⟩
    · exact absurd hholding (Multiset.notMem_zero holding)
    · rintro holding ⟨object, hobject, -⟩
      simp [start, Connection.start, Connection.takeEvents, Memory.start, Memory.object?] at hobject

/-- At the end no handle is in use. -/
theorem Tidy.live_finish (h : console.Tidy) (ending : Ending) :
    (console.finish ending).1.live = 0 := by
  obtain ⟨kept, rfl, hexchange⟩ := h.run console.bench.trades_clear
  have hlive : (console.finish ending).1.live = (console.run console.bench.clear).2.live := rfl
  rw [hlive]
  exact (hexchange.memory.ownsAll h.owns).liveObjects_eq.trans Multiset.card_zero

/-- No handle leaks. Whatever commands have been performed, and whatever calls have failed meanwhile
before taking effect, but for giving up handles: the count of handles in use is the count of objects
at hand, a command that fails leaves no handle that was not in use before, and after the end no
handle is in use. -/
theorem live_eq_objectCount (store : Store) (faults : List Fault)
    (hfaults : ∀ fault ∈ faults, fault.OnlyFails) (threshold : Level) (commands : List Command) :
    let console := (performAll commands (start store faults threshold).2).2
    console.live = console.bench.objectCount ∧
      (∀ command mishap, (perform command console).1.result = .error mishap →
        (perform command console).2.bench.held ≤ console.bench.held) ∧
      ∀ ending, (console.finish ending).1.live = 0 := by
  have hstart := tidy_start store hfaults threshold
  have htidy := (hstart.performAll commands).tidy hstart
  exact ⟨htidy.live_eq, fun command ↦ (htidy.perform command).2, htidy.live_finish⟩

/-- A build that fails and a schema read that fails at its second column leave nothing but the
builder that was made in between. -/
theorem live_after_failed_build_and_schema :
    let store := Store.empty.seed "t" ⟨[.scalar "a" .int, .scalar "b" .int]⟩ [[.int 1, .int 2]]
    let faults : List Fault :=
      [⟨"build", none, 0, 1, .fails (.exception "java.io.IOException" "disk full")⟩,
        ⟨Operation.fieldName.method.name, none, 1, 1, .fails .shutDown⟩]
    let commands := [.readerBuilder "b" "t" none, .buildReader "b", .readerBuilder "c" "t" none,
      .schema .dataFile (.path "t")]
    let console := (performAll commands (start store faults .info).2).2
    (∀ fault ∈ faults, fault.OnlyFails) ∧ console.connection.state.faults.map Fault.times = [0, 0] ∧
      console.live = 1 ∧ (console.finish .shutdown).1.live = 0 := by
  intro store faults commands
  have hfaults : ∀ fault ∈ faults, fault.OnlyFails := by
    refine List.forall_mem_cons.mpr ⟨⟨⟨_, rfl⟩, by decide⟩, ?_⟩
    exact List.forall_mem_cons.mpr ⟨⟨⟨_, rfl⟩, by decide⟩, List.forall_mem_nil _⟩
  obtain ⟨hlive, -, hfinish⟩ := live_eq_objectCount store faults hfaults .info commands
  refine ⟨hfaults, by decide +kernel, hlive.trans ?_, hfinish .shutdown⟩
  decide +kernel

end Console

end ColumnStore
