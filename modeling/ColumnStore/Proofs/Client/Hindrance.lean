import ColumnStore.Proofs.Client.Lifecycle
import ColumnStore.Proofs.Managed.Fault
import ColumnStore.Proofs.Reader.Position

/-!
# Calls that do not get through

Faults in front of the in-process backend let any calls fail, in any order. A call that fails in
this way does nothing, and one that gets through is answered as it would be without the faults. So a
close either gets through, or it leaves the object and the backend as they are.
-/

set_option autoImplicit false

namespace ColumnStore

/-- The handles that an outcome returns. -/
def Outcome.handles : Outcome Returned → List Handle
  | .returned result => result.handles
  | _ => []

/-- The handles that the calls so far have returned. -/
def Recorded.handles {σ : Type} (state : Recorded σ) : List Handle :=
  state.records.flatMap fun record ↦ record.outcome.handles

/-- The in-process backend behind the faults. -/
def Recorded.memory (state : Recorded (Faulty Memory)) : Memory := state.inner.inner

theorem Memory.behind_eq (memory : Memory) (outcome : Outcome Returned) :
    memory.behind outcome = outcome.handles.map memory.object? := by
  cases outcome <;> rfl

theorem Recorded.handles_answer {σ : Type} (backend : Backend σ) (state : Recorded σ)
    (handle : Handle) (method : Method) (arguments : List Argument) :
    (state.answer backend (.onObject handle method arguments)).handles =
      state.handles ++ (backend.call handle method arguments state.inner).outcome.handles := by
  unfold handles
  rw [records_answer_onObject, List.flatMap_append, List.flatMap_singleton]

/-! ### Calls behind faults -/

/-- A call is answered as it would be without the faults, or it fails and does nothing. -/
theorem Recorded.answer_cases {state : Recorded (Faulty Memory)}
    (h : ∀ fault ∈ state.inner.faults, fault.Fails) (handle : Handle) (method : Method)
    (arguments : List Argument) :
    let call : Call := .onObject handle method arguments
    let outcome := (Memory.backend.withFaults.call handle method arguments state.inner).outcome
    let later := state.answer Memory.backend.withFaults call
    (∀ fault ∈ later.inner.faults, fault.Fails) ∧
      ((∃ error, outcome = .failed error) ∧ later.memory = state.memory ∧
          later.handles = state.handles ∨
        outcome = (state.memory.reply call).outcome ∧
          later.memory = (state.memory.reply call).state ∧
            later.handles = state.handles ++ (state.memory.reply call).outcome.handles) := by
  obtain ⟨hplans, hcases⟩ := @Faulty.guard_cases _ _ method.className method.name .ok
    (Memory.backend.call handle method arguments) state.inner h
  have hhandles := handles_answer Memory.backend.withFaults state handle method arguments
  refine ⟨Fault.forall_fails hplans h, ?_⟩
  rcases hcases with ⟨error, houtcome, hstate⟩ | ⟨houtcome, hstate⟩
  · refine .inl ⟨⟨error, houtcome⟩, hstate, hhandles.trans ?_⟩
    exact (congrArg (state.handles ++ Outcome.handles ·) houtcome).trans (List.append_nil _)
  · refine .inr ⟨houtcome, hstate, hhandles.trans ?_⟩
    exact congrArg (state.handles ++ Outcome.handles ·) houtcome

/-- A handle is given up, or not, and the commits are as they were. -/
theorem Faulty.commits_release (state : Faulty Memory) (h : ∀ fault ∈ state.faults, fault.Fails)
    (handle : Handle) :
    (Memory.backend.withFaults.release handle state).state.inner.store.commits =
      state.inner.store.commits := by
  rcases (@guard_cases _ _ "" releaseName (fun _ ↦ .ok ()) (Memory.backend.release handle) state
    h).2 with ⟨error, -, hstate⟩ | ⟨-, hstate⟩
  · exact congrArg (·.store.commits) hstate
  · refine (congrArg (·.store.commits) hstate).trans ?_
    show (Memory.release handle state.inner).state.store.commits = _
    unfold Memory.release
    split
    · rfl
    · split <;> rfl

theorem Faulty.commits_answerAll_release {state : Recorded (Faulty Memory)}
    (hfaults : ∀ fault ∈ state.inner.faults, fault.Fails) {handle : Handle} {calls : List Call}
    (h : calls <+: [.release handle]) :
    (state.answerAll Memory.backend.withFaults calls).memory.store.commits =
      state.memory.store.commits := by
  cases calls with
  | nil => rfl
  | cons call calls =>
    obtain ⟨rfl, hrest⟩ := List.cons_prefix_cons.mp h
    cases List.prefix_nil.mp hrest
    exact Faulty.commits_release state.inner hfaults handle

/-- A close that fails leaves the in-process backend as it was. -/
def Episode.LeavesMemory {ι : Type} (episode : Episode ι (Faulty Memory)) : Prop :=
  ∀ failure, episode.act = .close → episode.result = .error failure →
    episode.after.memory = episode.before.memory

namespace Lifecycle

variable {α ι : Type} {cycle : Lifecycle α ι} {object : α}
  {connection : Connection (Recorded (Faulty Memory))}

theorem Refuses.leavesMemory {episode : Episode ι (Faulty Memory)} (h : cycle.Refuses episode) :
    episode.LeavesMemory :=
  fun _ _ _ ↦ congrArg Recorded.memory h.2.1

/-- An open object is closed if the call reaches the backend, where it has to succeed. If it does
not reach it, the object and the backend stay as they are. -/
theorem Lawful.close_cases (h : cycle.Lawful) (hopen : cycle.closed object = false)
    (hfaults : ∀ fault ∈ connection.state.inner.faults, fault.Fails)
    (hreply : (connection.state.memory.reply (cycle.closeCall (cycle.handle object))).outcome =
      .returned .nothing) :
    let step := cycle.perform Memory.backend.withFaults .close object connection
    (∀ fault ∈ step.2.2.state.inner.faults, fault.Fails) ∧
      (cycle.closed step.2.1 = true ∧ step.1.result = .ok () ∧ step.2.2.state.memory =
          (connection.state.memory.reply (cycle.closeCall (cycle.handle object))).state ∨
        step.2.1 = object ∧ (∃ failure, step.1.result = .error failure) ∧
          step.2.2.state.memory = connection.state.memory ∧
            step.2.2.state.handles = connection.state.handles) := by
  obtain ⟨hlater, hcases⟩ := Recorded.answer_cases hfaults (cycle.handle object)
    cycle.closing.method []
  rcases cycle.perform_cases .close
      (h.closeOpen Memory.backend.withFaults connection.state hopen) with
    ⟨next, later, ⟨hstate, hok, hfails⟩, hperform⟩ |
      ⟨failure, later, ⟨hstate, hok, -⟩, hperform⟩
  all_goals
    intro step
    have hstep : step = _ := hperform
    rw [hstep]
    unfold closeCall at hstate
    rw [← hstate] at hlater hcases
    refine ⟨hlater, ?_⟩
  · rcases hcases with ⟨⟨error, houtcome⟩, -⟩ | ⟨houtcome, hmemory, -⟩
    · obtain ⟨_, ⟨⟩⟩ := hfails (by rw [houtcome]; nofun)
    · obtain ⟨_, ⟨⟩, -, hclosed⟩ := hok (houtcome.trans hreply)
      exact .inl ⟨hclosed, rfl, hmemory⟩
  · rcases hcases with ⟨-, hmemory, hhandles⟩ | ⟨houtcome, -⟩
    · exact .inr ⟨rfl, ⟨failure, rfl⟩, hmemory, hhandles⟩
    · obtain ⟨_, ⟨⟩, -⟩ := hok (houtcome.trans hreply)

theorem leavesMemory_use (request : ι) (object : α)
    (connection : Connection (Recorded (Faulty Memory))) :
    (cycle.perform Memory.backend.withFaults (.use request) object connection).1.LeavesMemory := by
  intro failure hact _
  rw [act_perform] at hact
  cases hact

theorem Lawful.leavesMemory_close (h : cycle.Lawful) (hopen : cycle.closed object = false)
    (hfaults : ∀ fault ∈ connection.state.inner.faults, fault.Fails)
    (hreply : (connection.state.memory.reply (cycle.closeCall (cycle.handle object))).outcome =
      .returned .nothing) :
    (cycle.perform Memory.backend.withFaults .close object connection).1.LeavesMemory := by
  intro failure _ hfailed
  rw [after_perform, before_perform]
  rcases (h.close_cases hopen hfaults hreply).2 with ⟨-, hok, -⟩ | ⟨-, -, hmemory, -⟩
  · cases hok.symm.trans hfailed
  · exact hmemory

end Lifecycle

end ColumnStore
