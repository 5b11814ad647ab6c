import ColumnStore.Proofs.Client.Fixing
import ColumnStore.Scenario.Basic

/-!
# What scenarios end with

`Scenario.Ends` says of a scenario what `Client.Ends` says of an action of a client: started on a
backend in a given state, it ends with an allowed result and an allowed state of the backend. The
surroundings are any that have a world of their own, which may be in any state at the start; nothing
is said of the world, but `Surroundings.Writes` says that nothing goes wrong with what is written.
-/

set_option autoImplicit false

namespace ColumnStore

/-- Whatever is written in the surroundings, and whenever, is written. -/
def Surroundings.Writes {τ : Type} (surroundings : Surroundings (StateM τ)) : Prop :=
  ∀ text world, ((surroundings.write text).run world).1 = none

/-- A sheet of any length takes everything that is written on it. -/
def Sheet.endless : Surroundings (StateM String) :=
  ⟨pure 0, fun text ↦ modifyGet fun sheet ↦ (none, sheet ++ text)⟩

theorem Sheet.writes_endless : Sheet.endless.Writes := fun _ _ ↦ rfl

namespace Scenario

variable {σ τ α β : Type} {backend : Backend σ} {surroundings : Surroundings (StateM τ)}
  {before : σ}

/-- Runs a scenario on a connection, in surroundings with a world. -/
def runIn (scenario : Scenario (StateM τ) σ α) (backend : Backend σ)
    (surroundings : Surroundings (StateM τ)) (connection : Connection σ) (world : τ) :
    (Except Stop α × Connection σ) × τ :=
  ((scenario.run (backend, surroundings)).run connection).run world

/-- Started on a backend in the state `before`, the scenario ends in a way that `post` allows. -/
def Ends (backend : Backend σ) (surroundings : Surroundings (StateM τ))
    (scenario : Scenario (StateM τ) σ α) (before : σ) (post : Except Stop α → σ → Prop) : Prop :=
  ∀ log world, post (scenario.runIn backend surroundings ⟨before, log⟩ world).1.1
    (scenario.runIn backend surroundings ⟨before, log⟩ world).1.2.state

variable {post : Except Stop α → σ → Prop} {last : Except Stop β → σ → Prop}

theorem Ends.mono {weaker : Except Stop α → σ → Prop} {scenario : Scenario (StateM τ) σ α}
    (h : Ends backend surroundings scenario before post)
    (hweaker : ∀ result state, post result state → weaker result state) :
    Ends backend surroundings scenario before weaker :=
  fun log world ↦ hweaker _ _ (h log world)

theorem Ends.and {other : Except Stop α → σ → Prop} {scenario : Scenario (StateM τ) σ α}
    (h : Ends backend surroundings scenario before post)
    (hother : Ends backend surroundings scenario before other) :
    Ends backend surroundings scenario before fun result state ↦
      post result state ∧ other result state :=
  fun log world ↦ ⟨h log world, hother log world⟩

/-! ### Single steps -/

theorem ends_pure {a : α} (h : post (.ok a) before) :
    Ends backend surroundings (pure a) before post :=
  fun _ _ ↦ h

theorem ends_throw {stop : Stop} (h : post (.error stop) before) :
    Ends backend surroundings (throw stop) before post :=
  fun _ _ ↦ h

theorem ends_refuse {error : ToolError} (h : post (.error (.error error)) before) :
    Ends backend surroundings (refuse error) before post :=
  fun _ _ ↦ h

theorem runIn_act (action : Client σ α) (connection : Connection σ) (world : τ) :
    (act action).runIn backend surroundings connection world =
      match action.run backend connection with
      | (.ok a, connection) => ((.ok a, connection), world)
      | (.error failure, connection) => ((.error failure.toStop, connection), world) := by
  unfold runIn act
  dsimp only [ReaderT.run, ExceptT.run, ExceptT.mk, StateT.run]
  rcases action.run backend connection with ⟨_ | a, connection⟩ <;> rfl

/-- An action of a client ends as it does for the client. -/
theorem ends_act {action : Client σ α} {allowed : Except Failure α → σ → Prop}
    (h : Client.Ends backend action before allowed)
    (hok : ∀ a state, allowed (.ok a) state → post (.ok a) state)
    (herror : ∀ failure state, allowed (.error failure) state →
      post (.error failure.toStop) state) :
    Ends backend surroundings (act action) before post := by
  intro log world
  have hallowed := h log
  rw [runIn_act]
  rcases haction : action.run backend ⟨before, log⟩ with ⟨failure | a, connection⟩
  · rw [haction] at hallowed
    exact herror failure _ hallowed
  · rw [haction] at hallowed
    exact hok a _ hallowed

theorem ends_act_of_runs {action : Client σ α} {result : Except Failure α} {after : σ}
    (h : Client.Runs backend action before result after)
    (hpost : post (result.mapError Failure.toStop) after) :
    Ends backend surroundings (act action) before post := by
  refine ends_act h ?_ ?_
  · rintro a _ ⟨rfl, rfl⟩
    exact hpost
  · rintro failure _ ⟨rfl, rfl⟩
    exact hpost

theorem runIn_write (text : String) (connection : Connection σ) (world : τ) :
    (write text : Scenario (StateM τ) σ Unit).runIn backend surroundings connection world =
      (((match ((surroundings.write text).run world).1 with
        | none => .ok ()
        | some reason => .error (.error (.output reason))), connection),
      ((surroundings.write text).run world).2) := by
  change StateT.run (surroundings.write text >>= _) world = _
  rw [StateT.run_bind]
  rcases (surroundings.write text).run world with ⟨_ | reason, world⟩ <;> rfl

/-- Writing leaves the backend as it is. -/
theorem ends_write (text : String) :
    Ends backend surroundings (write text) before fun result after ↦
      after = before ∧ (surroundings.Writes → result = .ok ()) := by
  intro log world
  rw [runIn_write]
  refine ⟨rfl, fun hwrites ↦ ?_⟩
  rw [hwrites text world]

/-! ### One after the other -/

theorem runIn_bind (scenario : Scenario (StateM τ) σ α) (next : α → Scenario (StateM τ) σ β)
    (connection : Connection σ) (world : τ) :
    (scenario >>= next).runIn backend surroundings connection world =
      match scenario.runIn backend surroundings connection world with
      | ((.ok a, connection), world) => (next a).runIn backend surroundings connection world
      | ((.error stop, connection), world) => ((.error stop, connection), world) := by
  have hrun : (scenario >>= next).runIn backend surroundings connection world =
      match scenario.runIn backend surroundings connection world with
      | ((result, connection), world) =>
        ((ExceptT.bindCont (fun a ↦ next a (backend, surroundings)) result).run connection).run
          world := rfl
  rw [hrun]
  rcases scenario.runIn backend surroundings connection world with ⟨⟨_ | a, connection⟩, world⟩ <;>
    rfl

theorem runIn_tryCatch (scenario : Scenario (StateM τ) σ α)
    (rescue : Stop → Scenario (StateM τ) σ α) (connection : Connection σ) (world : τ) :
    (tryCatch scenario rescue).runIn backend surroundings connection world =
      match scenario.runIn backend surroundings connection world with
      | ((.ok a, connection), world) => ((.ok a, connection), world)
      | ((.error stop, connection), world) =>
        (rescue stop).runIn backend surroundings connection world := by
  have hrun : (tryCatch scenario rescue).runIn backend surroundings connection world =
      StateT.run (StateT.run (ExceptT.tryCatch (scenario (backend, surroundings)) fun stop ↦
        rescue stop (backend, surroundings)) connection) world := rfl
  have hscenario : scenario.runIn backend surroundings connection world =
      StateT.run (StateT.run (scenario (backend, surroundings)) connection) world := rfl
  rw [hrun, hscenario, ExceptT.tryCatch, ExceptT.mk, StateT.run_bind, StateT.run_bind]
  rcases StateT.run (StateT.run (scenario (backend, surroundings)) connection) world with
    ⟨⟨_ | a, connection⟩, world⟩ <;> rfl

/-- A scenario goes on from where the one before it ended, unless that one ended early. -/
theorem Ends.bind {scenario : Scenario (StateM τ) σ α} {next : α → Scenario (StateM τ) σ β}
    (h : Ends backend surroundings scenario before post)
    (hok : ∀ a state, post (.ok a) state → Ends backend surroundings (next a) state last)
    (herror : ∀ stop state, post (.error stop) state → last (.error stop) state) :
    Ends backend surroundings (scenario >>= next) before last := by
  intro log world
  have hpost := h log world
  rw [runIn_bind]
  rcases hrun : scenario.runIn backend surroundings ⟨before, log⟩ world with
    ⟨⟨stop | a, ⟨state, log⟩⟩, world⟩
  · rw [hrun] at hpost
    exact herror stop state hpost
  · rw [hrun] at hpost
    exact hok a state hpost log world

/-- A scenario that begins with an action of a client. -/
theorem ends_act_bind {action : Client σ α} {next : α → Scenario (StateM τ) σ β}
    {allowed : Except Failure α → σ → Prop} (h : Client.Ends backend action before allowed)
    (hok : ∀ a state, allowed (.ok a) state → Ends backend surroundings (next a) state last)
    (herror : ∀ failure state, allowed (.error failure) state →
      last (.error failure.toStop) state) :
    Ends backend surroundings (act action >>= next) before last := by
  have hact : Ends backend surroundings (act action) before fun result state ↦ match result with
      | .ok a => allowed (.ok a) state
      | .error stop => last (.error stop) state :=
    ends_act h (fun _ _ hstate ↦ hstate) herror
  exact hact.bind hok fun _ _ hstate ↦ hstate

theorem ends_act_bind_of_runs {action : Client σ α} {next : α → Scenario (StateM τ) σ β} {a : α}
    {after : σ} (h : Client.Runs backend action before (.ok a) after)
    (hnext : Ends backend surroundings (next a) after last) :
    Ends backend surroundings (act action >>= next) before last := by
  refine ends_act_bind h ?_ ?_
  · rintro _ _ ⟨⟨⟩, rfl⟩
    exact hnext
  · rintro failure _ ⟨⟨⟩, -⟩

/-- How a scenario ended early is handed to the rescue, a result is not. -/
theorem Ends.tryCatch {scenario : Scenario (StateM τ) σ α} {rescue : Stop → Scenario (StateM τ) σ α}
    {last : Except Stop α → σ → Prop} (h : Ends backend surroundings scenario before post)
    (hok : ∀ a state, post (.ok a) state → last (.ok a) state)
    (herror : ∀ stop state, post (.error stop) state →
      Ends backend surroundings (rescue stop) state last) :
    Ends backend surroundings (tryCatch scenario rescue) before last := by
  intro log world
  have hpost := h log world
  rw [runIn_tryCatch]
  rcases hrun : scenario.runIn backend surroundings ⟨before, log⟩ world with
    ⟨⟨stop | a, ⟨state, log⟩⟩, world⟩
  · rw [hrun] at hpost
    exact herror stop state hpost log world
  · rw [hrun] at hpost
    exact hok a state hpost

/-! ### Cleaning up -/

/-- Where a scenario ends early, the cleanup is made before that is handed on. -/
theorem Ends.cleaning {scenario : Scenario (StateM τ) σ α} {cleanup : Client σ Unit}
    {last : Except Stop α → σ → Prop} (h : Ends backend surroundings scenario before post)
    (hok : ∀ a state, post (.ok a) state → last (.ok a) state)
    (herror : ∀ stop state, post (.error stop) state →
      Client.Ends backend cleanup state fun result after ↦
        result = .ok () ∧ last (.error stop) after) :
    Ends backend surroundings (Scenario.cleaning cleanup scenario) before last := by
  refine h.tryCatch hok fun stop state hstate ↦ ?_
  have hcleanup : Ends backend surroundings (act cleanup) state fun result after ↦
      result = .ok () ∧ last (.error stop) after :=
    ends_act (herror stop state hstate) (fun _ _ hafter ↦ ⟨rfl, hafter.2⟩)
      fun _ _ hafter ↦ nomatch hafter.1
  exact hcleanup.bind (fun _ _ hafter ↦ ends_throw hafter.2) fun _ _ hafter ↦ nomatch hafter.1

/-- A cleanup that is made however a scenario ends. -/
theorem Ends.afterwards {scenario : Scenario (StateM τ) σ α} {cleanup : Client σ Unit}
    {last : Except Stop α → σ → Prop} (h : Ends backend surroundings scenario before post)
    (hcleanup : ∀ result state, post result state →
      Client.Ends backend cleanup state fun cleaned after ↦
        cleaned = .ok () ∧ last result after) :
    Ends backend surroundings (Scenario.afterwards cleanup scenario) before last := by
  have hcleaned : Ends backend surroundings (Scenario.cleaning cleanup scenario) before
      fun result state ↦ match result with
        | .ok a => post (.ok a) state
        | .error stop => last (.error stop) state :=
    h.cleaning (fun _ _ hstate ↦ hstate) fun stop state hstate ↦ hcleanup _ state hstate
  refine hcleaned.bind (fun a state hstate ↦ ?_) fun stop state hstate ↦ hstate
  have hafter : Ends backend surroundings (act cleanup) state fun result after ↦
      result = .ok () ∧ last (.ok a) after :=
    ends_act (hcleanup _ state hstate) (fun _ _ hlast ↦ ⟨rfl, hlast.2⟩)
      fun _ _ hlast ↦ nomatch hlast.1
  exact hafter.bind (fun _ _ hlast ↦ ends_pure hlast.2) fun _ _ hlast ↦ nomatch hlast.1

/-! ### What scenarios leave as it is -/

variable {γ : Type} {view : σ → γ}

/-- However the scenario ends, the view of the backend is the same as before. -/
def Fixes (backend : Backend σ) (surroundings : Surroundings (StateM τ)) (view : σ → γ)
    (scenario : Scenario (StateM τ) σ α) : Prop :=
  ∀ before, Ends backend surroundings scenario before fun _ after ↦ view after = view before

theorem fixes_pure (a : α) : Fixes backend surroundings view (pure a) :=
  fun _ ↦ ends_pure rfl

theorem fixes_throw (stop : Stop) :
    Fixes backend surroundings view (throw stop : Scenario (StateM τ) σ α) :=
  fun _ ↦ ends_throw rfl

theorem fixes_act {action : Client σ α} (h : Client.Fixes backend view action) :
    Fixes backend surroundings view (act action) :=
  fun before ↦ ends_act (h before) (fun _ _ hstate ↦ hstate) fun _ _ hstate ↦ hstate

theorem fixes_line (text : String) : Fixes backend surroundings view (line text) :=
  fun _ ↦ (ends_write (text ++ "\n")).mono fun _ _ h ↦ congrArg view h.1

theorem Fixes.bind {scenario : Scenario (StateM τ) σ α} {next : α → Scenario (StateM τ) σ β}
    (h : Fixes backend surroundings view scenario)
    (hnext : ∀ a, Fixes backend surroundings view (next a)) :
    Fixes backend surroundings view (scenario >>= next) := by
  intro before
  refine Ends.bind (h before) (fun a state hstate ↦ ?_) fun stop state hstate ↦ hstate
  exact (hnext a state).mono fun _ _ hafter ↦ hafter.trans hstate

theorem Fixes.cleaning {scenario : Scenario (StateM τ) σ α} {cleanup : Client σ Unit}
    (h : Fixes backend surroundings view scenario)
    (hcleanup : Client.Fixes backend view cleanup) :
    Fixes backend surroundings view (Scenario.cleaning cleanup scenario) := by
  intro before
  refine Ends.tryCatch (h before) (fun a state hstate ↦ hstate) fun stop state hstate ↦ ?_
  refine ((fixes_act hcleanup).bind (fun _ ↦ fixes_throw stop) state).mono ?_
  exact fun _ _ hafter ↦ hafter.trans hstate

theorem Fixes.afterwards {scenario : Scenario (StateM τ) σ α} {cleanup : Client σ Unit}
    (h : Fixes backend surroundings view scenario)
    (hcleanup : Client.Fixes backend view cleanup) :
    Fixes backend surroundings view (Scenario.afterwards cleanup scenario) :=
  (h.cleaning hcleanup).bind fun a ↦ (fixes_act hcleanup).bind fun _ ↦ fixes_pure a

/-- Whatever is made of what a reader reads. -/
theorem fixes_reading {reader : Reader} {body : Scenario (StateM τ) σ α}
    {next : α → Scenario (StateM τ) σ β} (hbody : Fixes backend surroundings view body)
    (hclose : Client.Fixes backend view reader.close)
    (hdrop : ∀ reader : Reader, Client.Fixes backend view reader.drop)
    (hnext : ∀ a, Fixes backend surroundings view (next a)) :
    Fixes backend surroundings view (reading reader body next) := by
  have hread := hbody.bind fun a ↦ (fixes_act hclose).bind fun closed ↦ fixes_pure (a, closed)
  exact (hread.cleaning (hdrop reader)).bind fun read ↦ (hnext read.1).afterwards (hdrop read.2)

end Scenario

end ColumnStore
