import ColumnStore.Client.Connection

/-!
# What client actions end with

`Client.Ends` says that an action, started on a backend in a given state, ends in an allowed way:
with an allowed result and an allowed state of the backend. What has been reported before plays no
part, since no action looks into the log. The lemmas follow the ways in which actions are put
together: an action that ends early hands its failure on, and a cleanup is made on that way too.
`Client.Runs` is the case of one result and one state.
-/

set_option autoImplicit false

namespace ColumnStore

/-- What a client gets of the outcome of a call. -/
def Outcome.result {α : Type} : Outcome α → Except Failure (Except CallError α)
  | .returned result => .ok (.ok result)
  | .failed error => .ok (.error error)
  | .crashed => .error .crash

namespace Client

variable {σ α β : Type} {backend : Backend σ} {before middle after : σ}

/-- Started on a backend in the state `before`, the action ends in a way that `post` allows. -/
def Ends (backend : Backend σ) (action : Client σ α) (before : σ)
    (post : Except Failure α → σ → Prop) : Prop :=
  ∀ log, post (action.run backend ⟨before, log⟩).1 (action.run backend ⟨before, log⟩).2.state

/-- Started on a backend in the state `before`, the action ends with `result` and leaves the
backend in the state `after`. -/
abbrev Runs (backend : Backend σ) (action : Client σ α) (before : σ)
    (result : Except Failure α) (after : σ) : Prop :=
  Ends backend action before fun ended state ↦ ended = result ∧ state = after

variable {post : Except Failure α → σ → Prop} {last : Except Failure β → σ → Prop}

theorem Ends.mono {weaker : Except Failure α → σ → Prop} {action : Client σ α}
    (h : Ends backend action before post)
    (hweaker : ∀ result state, post result state → weaker result state) :
    Ends backend action before weaker :=
  fun log ↦ hweaker _ _ (h log)

/-- What is known of an action in two ways holds together. -/
theorem Ends.and {other : Except Failure α → σ → Prop} {action : Client σ α}
    (h : Ends backend action before post) (hother : Ends backend action before other) :
    Ends backend action before fun result state ↦ post result state ∧ other result state :=
  fun log ↦ ⟨h log, hother log⟩

/-- Running an action that runs in one way on a connection. -/
theorem Runs.run_eq {action : Client σ α} {result : Except Failure α} {connection : Connection σ}
    (h : Runs backend action connection.state result after) :
    ∃ log, action.run backend connection = (result, ⟨after, log⟩) := by
  obtain ⟨hresult, hstate⟩ := h connection.log
  rcases hrun : action.run backend connection with ⟨ended, ⟨state, log⟩⟩
  rw [hrun] at hresult hstate
  subst hresult hstate
  exact ⟨log, rfl⟩

/-! ### Ending at once -/

theorem ends_pure {a : α} (h : post (.ok a) before) :
    Ends backend (pure a : Client σ α) before post :=
  fun _ ↦ h

theorem ends_throw {failure : Failure} (h : post (.error failure) before) :
    Ends backend (throw failure : Client σ α) before post :=
  fun _ ↦ h

theorem ends_refuse {error : Error} (h : post (.error (.error error)) before) :
    Ends backend (refuse error : Client σ α) before post :=
  fun _ ↦ h

theorem runs_pure (a : α) : Runs backend (pure a : Client σ α) before (.ok a) before :=
  ends_pure ⟨rfl, rfl⟩

theorem runs_refuse (error : Error) :
    Runs backend (refuse error : Client σ α) before (.error (.error error)) before :=
  ends_refuse ⟨rfl, rfl⟩

theorem runs_report (event : Event) : Runs backend (report event) before (.ok ()) before :=
  fun _ ↦ ⟨rfl, rfl⟩

/-! ### One action after the other -/

theorem run_bind (action : Client σ α) (next : α → Client σ β) (connection : Connection σ) :
    (action >>= next).run backend connection =
      match action.run backend connection with
      | (.ok a, connection) => (next a).run backend connection
      | (.error failure, connection) => (.error failure, connection) := by
  have hrun : (action >>= next).run backend connection =
      match action.run backend connection with
      | (result, connection) =>
        (ExceptT.bindCont (fun a ↦ next a backend) result).run connection := rfl
  rw [hrun]
  rcases action.run backend connection with ⟨_ | a, connection⟩ <;> rfl

theorem run_tryCatch (action : Client σ α) (rescue : Failure → Client σ α)
    (connection : Connection σ) :
    (tryCatch action rescue).run backend connection =
      match action.run backend connection with
      | (.ok a, connection) => (.ok a, connection)
      | (.error failure, connection) => (rescue failure).run backend connection := by
  have hrun : (tryCatch action rescue).run backend connection =
      StateT.run (ExceptT.tryCatch (action backend) fun failure ↦ rescue failure backend)
        connection := rfl
  have haction : action.run backend connection = StateT.run (action backend) connection := rfl
  rw [hrun, haction, ExceptT.tryCatch, ExceptT.mk, StateT.run_bind]
  rcases StateT.run (action backend) connection with ⟨_ | a, connection⟩ <;> rfl

/-- An action goes on from where the one before it ended, unless that one failed. -/
theorem Ends.bind {action : Client σ α} {next : α → Client σ β}
    (h : Ends backend action before post)
    (hok : ∀ a state, post (.ok a) state → Ends backend (next a) state last)
    (herror : ∀ failure state, post (.error failure) state → last (.error failure) state) :
    Ends backend (action >>= next) before last := by
  intro log
  have hpost := h log
  rw [run_bind]
  rcases hrun : action.run backend ⟨before, log⟩ with ⟨failure | a, ⟨state, log⟩⟩
  · rw [hrun] at hpost
    exact herror failure state hpost
  · rw [hrun] at hpost
    exact hok a state hpost log

/-- An action goes on from one that cannot fail. -/
theorem Ends.bind_of_ok {action : Client σ α} {next : α → Client σ β}
    (h : Ends backend action before post)
    (hnext : ∀ result state, post result state →
      ∃ a, result = .ok a ∧ Ends backend (next a) state last) :
    Ends backend (action >>= next) before last := by
  refine h.bind (fun a state hpost ↦ ?_) fun failure state hpost ↦ ?_
  · obtain ⟨_, ⟨⟩, hrest⟩ := hnext _ state hpost
    exact hrest
  · obtain ⟨_, ⟨⟩, -⟩ := hnext _ state hpost

/-- A failure is handed to the rescue, a result is not. -/
theorem Ends.tryCatch {action : Client σ α} {rescue : Failure → Client σ α}
    {last : Except Failure α → σ → Prop} (h : Ends backend action before post)
    (hok : ∀ a state, post (.ok a) state → last (.ok a) state)
    (herror : ∀ failure state, post (.error failure) state →
      Ends backend (rescue failure) state last) :
    Ends backend (tryCatch action rescue) before last := by
  intro log
  have hpost := h log
  rw [run_tryCatch]
  rcases hrun : action.run backend ⟨before, log⟩ with ⟨failure | a, ⟨state, log⟩⟩
  · rw [hrun] at hpost
    exact herror failure state hpost log
  · rw [hrun] at hpost
    exact hok a state hpost

theorem Runs.bind {action : Client σ α} {next : α → Client σ β} {a : α}
    (h : Runs backend action before (.ok a) middle) (hnext : Ends backend (next a) middle last) :
    Ends backend (action >>= next) before last := by
  refine Ends.bind_of_ok h ?_
  rintro _ _ ⟨rfl, rfl⟩
  exact ⟨a, rfl, hnext⟩

theorem Runs.bind_error {action : Client σ α} {next : α → Client σ β} {failure : Failure}
    (h : Runs backend action before (.error failure) after) :
    Runs backend (action >>= next) before (.error failure) after := by
  refine Ends.bind h ?_ ?_
  · rintro a state ⟨hresult, -⟩
    cases hresult
  · rintro failure state ⟨hresult, rfl⟩
    cases hresult
    exact ⟨rfl, rfl⟩

theorem Runs.map {action : Client σ α} {a : α} (f : α → β)
    (h : Runs backend action before (.ok a) after) :
    Runs backend (f <$> action) before (.ok (f a)) after := by
  rw [map_eq_pure_bind]
  exact h.bind (runs_pure (f a))

theorem Runs.map_error {action : Client σ α} {failure : Failure} (f : α → β)
    (h : Runs backend action before (.error failure) after) :
    Runs backend (f <$> action) before (.error failure) after := by
  rw [map_eq_pure_bind]
  exact h.bind_error

/-! ### Calls -/

theorem runs_exchange (call : Backend σ → σ → Reply σ α) (before : σ) :
    Runs backend (exchange call) before (call backend before).outcome.result
      (call backend before).state := by
  intro log
  unfold exchange
  dsimp only [run, ReaderT.run, StateT.run, ExceptT.run, ExceptT.mk]
  rcases call backend before with ⟨_ | _ | _, state, events⟩ <;> exact ⟨rfl, rfl⟩

theorem runs_call {handle : Handle} {operation : Operation} {arguments : List Argument}
    {outcome : Outcome Returned}
    (houtcome : (backend.call handle operation.method arguments before).outcome = outcome)
    (hstate : (backend.call handle operation.method arguments before).state = after) :
    Runs backend (call handle operation arguments) before outcome.result after := by
  subst houtcome hstate
  exact runs_exchange (fun backend ↦ backend.call handle operation.method arguments) before

theorem runs_callStatic {operation : Operation} {arguments : List Argument}
    {outcome : Outcome Returned}
    (houtcome : (backend.callStatic operation.method arguments before).outcome = outcome)
    (hstate : (backend.callStatic operation.method arguments before).state = after) :
    Runs backend (callStatic operation arguments) before outcome.result after := by
  subst houtcome hstate
  exact runs_exchange (fun backend ↦ backend.callStatic operation.method arguments) before

theorem runs_release {handle : Handle} {outcome : Outcome Unit}
    (houtcome : (backend.release handle before).outcome = outcome)
    (hstate : (backend.release handle before).state = after) :
    Runs backend (release handle) before outcome.result after := by
  subst houtcome hstate
  exact runs_exchange (fun backend ↦ backend.release handle) before

theorem runs_expect_ok (operation : String) (purpose : Purpose) (a : α) :
    Runs backend (expect operation purpose (.ok a)) before (.ok a) before :=
  runs_pure a

theorem runs_expect_error (operation : String) (purpose : Purpose) (error : CallError) :
    Runs backend (expect operation purpose (.error error) : Client σ α) before
      (.error (.error (.ofCall operation purpose error))) before :=
  runs_refuse _

/-! ### Cleaning up -/

/-- Giving up a handle always comes to an end, and the backend is in the state that the release
leaves. -/
theorem ends_discard (handle : Handle) (before : σ) :
    Ends backend (discard handle) before fun result state ↦
      (result = .ok () ∨ (backend.release handle before).outcome = .crashed) ∧
        state = (backend.release handle before).state := by
  refine Ends.bind (runs_release rfl rfl) ?_ ?_
  · rintro (error | _) state ⟨-, rfl⟩
    · exact (runs_report _).mono fun _ _ h ↦ ⟨.inl h.1, h.2⟩
    · exact ends_pure ⟨.inl rfl, rfl⟩
  · rintro failure state ⟨hresult, rfl⟩
    refine ⟨.inr ?_, rfl⟩
    cases houtcome : (backend.release handle before).outcome with
    | returned result => simp [houtcome, Outcome.result] at hresult
    | failed error => simp [houtcome, Outcome.result] at hresult
    | crashed => rfl

theorem Runs.cleaning {action : Client σ α} {cleanup : Client σ Unit} {a : α}
    (h : Runs backend action before (.ok a) after) :
    Runs backend (cleaning cleanup action) before (.ok a) after := by
  refine Ends.tryCatch h ?_ ?_
  · rintro a state ⟨hresult, rfl⟩
    exact ⟨hresult, rfl⟩
  · rintro failure state ⟨hresult, -⟩
    cases hresult

theorem Runs.cleaning_error {action : Client σ α} {cleanup : Client σ Unit} {failure : Failure}
    (h : Runs backend action before (.error failure) middle)
    (hcleanup : Runs backend cleanup middle (.ok ()) after) :
    Runs backend (Client.cleaning cleanup action) before (.error failure) after := by
  refine Ends.tryCatch h ?_ ?_
  · rintro a state ⟨hresult, -⟩
    cases hresult
  · rintro failure state ⟨hresult, rfl⟩
    cases hresult
    exact hcleanup.bind (ends_throw ⟨rfl, rfl⟩)

theorem Runs.holding {action : Client σ α} {handle : Handle} {a : α}
    (h : Runs backend action before (.ok a) middle)
    (hdiscard : Runs backend (discard handle) middle (.ok ()) after) :
    Runs backend (Client.holding handle action) before (.ok a) after :=
  h.cleaning.bind (hdiscard.bind (runs_pure a))

theorem Runs.holding_error {action : Client σ α} {handle : Handle} {failure : Failure}
    (h : Runs backend action before (.error failure) middle)
    (hdiscard : Runs backend (discard handle) middle (.ok ()) after) :
    Runs backend (Client.holding handle action) before (.error failure) after :=
  (h.cleaning_error hdiscard).bind_error

theorem Runs.attempt {action : Client σ α} {a : α}
    (h : Runs backend action before (.ok a) after) :
    Runs backend (attempt action) before (.ok (.ok a)) after := by
  refine Ends.tryCatch (h.map Except.ok) ?_ ?_
  · rintro a state ⟨hresult, rfl⟩
    exact ⟨hresult, rfl⟩
  · rintro failure state ⟨hresult, -⟩
    cases hresult

theorem Runs.attempt_error {action : Client σ α} {error : Error}
    (h : Runs backend action before (.error (.error error)) after) :
    Runs backend (Client.attempt action) before (.ok (.error error)) after := by
  refine Ends.tryCatch (h.map_error Except.ok) ?_ ?_
  · rintro a state ⟨hresult, -⟩
    cases hresult
  · rintro failure state ⟨hresult, rfl⟩
    cases hresult
    exact runs_pure (Except.error error)

/-- After an attempt an action goes on with the result or the error. -/
theorem Ends.attempt_bind {action : Client σ α} {next : Except Error α → Client σ β}
    (h : Ends backend action before post)
    (hok : ∀ a state, post (.ok a) state → Ends backend (next (.ok a)) state last)
    (herror : ∀ error state, post (.error (.error error)) state →
      Ends backend (next (.error error)) state last)
    (hcrash : ∀ state, post (.error .crash) state → last (.error .crash) state) :
    Ends backend (attempt action >>= next) before last := by
  intro log
  have hpost := h log
  unfold attempt
  rw [run_bind, run_tryCatch, map_eq_pure_bind, run_bind]
  rcases hrun : action.run backend ⟨before, log⟩ with ⟨(error | _) | a, ⟨state, log⟩⟩
  · rw [hrun] at hpost
    exact herror error state hpost log
  · rw [hrun] at hpost
    exact hcrash state hpost
  · rw [hrun] at hpost
    exact hok a state hpost log

end Client

end ColumnStore
