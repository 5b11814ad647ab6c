import ColumnStore.Managed.Fault
import ColumnStore.Proofs.Client.Run

/-!
# Actions that echo one another

Only a view of a backend's state can be seen. A twin echoes an action if the two, run on backends
that look the same, report the same, leave backends that look the same and end alike: with related
results or with the same failure. The echo of what is put together is put together from the echoes,
so in the end only the calls count. An action that is its own echo is blind: what the view hides has
no part in what it does.
-/

set_option autoImplicit false

namespace ColumnStore

/-- Related results, or the same error. -/
inductive EndsAlike {ε α β : Type} (related : α → β → Prop) : Except ε α → Except ε β → Prop
  | ok {a : α} {b : β} (h : related a b) : EndsAlike related (.ok a) (.ok b)
  | error (e : ε) : EndsAlike related (.error e) (.error e)

section EndsAlike

variable {ε α β α' β' : Type} {related : α → β → Prop} {last : α' → β' → Prop}
  {result : Except ε α} {twin : Except ε β}

theorem endsAlike_refl {related : α → α → Prop} (h : ∀ a, related a a) (result : Except ε α) :
    EndsAlike related result result := by
  cases result with
  | ok a => exact .ok (h a)
  | error e => exact .error e

theorem EndsAlike.eq {twin : Except ε α} (h : EndsAlike Eq result twin) : result = twin := by
  cases h with
  | ok h => rw [h]
  | error e => rfl

theorem EndsAlike.mono {weaker : α → β → Prop} (h : EndsAlike related result twin)
    (hweaker : ∀ a b, related a b → weaker a b) : EndsAlike weaker result twin := by
  cases h with
  | ok h => exact .ok (hweaker _ _ h)
  | error e => exact .error e

theorem endsAlike_of_map_eq {twin : Except ε α} {shown : α → α'}
    (h : result.map shown = twin.map shown) :
    EndsAlike (fun a b ↦ shown a = shown b) result twin := by
  cases result with
  | ok a =>
    cases twin with
    | ok b => exact .ok (Except.ok.inj h)
    | error e => cases h
  | error e =>
    cases twin with
    | ok b => cases h
    | error e =>
      cases h
      exact .error _

theorem EndsAlike.map {f : α → α'} {g : β → β'} (h : EndsAlike related result twin)
    (hlast : ∀ a b, related a b → last (f a) (g b)) :
    EndsAlike last (result.map f) (twin.map g) := by
  cases h with
  | ok h => exact .ok (hlast _ _ h)
  | error e => exact .error e

theorem EndsAlike.bind {next : α → Except ε α'} {twinNext : β → Except ε β'}
    (h : EndsAlike related result twin)
    (hnext : ∀ a b, related a b → EndsAlike last (next a) (twinNext b)) :
    EndsAlike last (result.bind next) (twin.bind twinNext) := by
  cases h with
  | ok h => exact hnext _ _ h
  | error e => exact .error e

end EndsAlike

/-! ### Replies -/

/-- Two replies that look the same and have related results. -/
structure Reply.Echoes {σ γ α β : Type} (view : σ → γ) (related : α → β → Prop)
    (reply : Reply σ α) (twin : Reply σ β) : Prop where
  outcome : EndsAlike (EndsAlike related) reply.outcome.result twin.outcome.result
  state : view reply.state = view twin.state
  events : reply.events = twin.events

namespace Reply

variable {σ γ α β : Type} {view : σ → γ} {related : α → β → Prop} {reply : Reply σ α}
  {twin : Reply σ β} {state other : σ}

theorem echoes_failed (h : view state = view other) (error : CallError) :
    Echoes view related (failed state error) (failed other error) :=
  ⟨.ok (.error error), h, rfl⟩

theorem echoes_ofExcept {result : Except CallError α} {twinResult : Except CallError β}
    (h : view state = view other) (hresult : EndsAlike related result twinResult) :
    Echoes view related (ofExcept state result) (ofExcept other twinResult) := by
  cases hresult with
  | ok hrelated => exact ⟨.ok (.ok hrelated), h, rfl⟩
  | error error => exact echoes_failed h error

theorem Echoes.reporting (h : Echoes view related reply twin) (event : Event) :
    Echoes view related (reply.reporting event) (twin.reporting event) :=
  ⟨h.outcome, h.state, congrArg (event :: ·) h.events⟩

end Reply

/-! ### Faults -/

namespace Faulty

variable {σ γ α : Type} {view : σ → γ} {related : α → α → Prop} {call twin : σ → Reply σ α}

/-- The faults and a view of the backend behind them. -/
def map (view : σ → γ) (state : Faulty σ) : Faulty γ := ⟨state.faults, view state.inner⟩

/-- Faults look at methods only, and what they return is the same for both calls. -/
theorem echoes_guard (hrefl : ∀ a, related a a) (className method : String)
    (planned : Returned → Except CallError α)
    (h : ∀ state other, view state = view other →
      (call state).Echoes view related (twin other)) (state other : Faulty σ)
    (hview : state.map view = other.map view) :
    (guard className method planned call state).Echoes (map view) related
      (guard className method planned twin other) := by
  obtain ⟨faults, inner⟩ := state
  obtain ⟨_, twinInner⟩ := other
  obtain ⟨rfl, hinner⟩ := Faulty.mk.inj hview
  have hleft : ∀ faults, map view ⟨faults, inner⟩ = map view ⟨faults, twinInner⟩ :=
    fun faults ↦ congrArg (Faulty.mk faults) hinner
  unfold guard
  dsimp only
  rcases Fault.due className method faults with ⟨_ | (returned | error), faults⟩
  · obtain ⟨houtcome, hstate, hevents⟩ := h inner twinInner hinner
    exact ⟨houtcome, congrArg (Faulty.mk faults) hstate, hevents⟩
  · exact Reply.echoes_ofExcept (hleft faults) (endsAlike_refl hrefl _)
  · exact Reply.echoes_failed (hleft faults) error

end Faulty

/-! ### Actions -/

/-- Two connections that look the same. -/
structure Connection.Resembles {σ γ : Type} (view : σ → γ) (first second : Connection σ) :
    Prop where
  state : view first.state = view second.state
  log : first.log = second.log

namespace Client

variable {σ γ α β α' β' : Type} {backend : Backend σ} {view : σ → γ} {related : α → β → Prop}
  {last : α' → β' → Prop} {action : Client σ α} {twin : Client σ β}

/-- On connections that look the same, the twin does what the action does, as far as can be seen,
and ends alike. -/
def Echoes (backend : Backend σ) (view : σ → γ) (related : α → β → Prop) (action : Client σ α)
    (twin : Client σ β) : Prop :=
  ∀ first second : Connection σ, first.Resembles view second →
    EndsAlike related (action.run backend first).1 (twin.run backend second).1 ∧
      (action.run backend first).2.Resembles view (twin.run backend second).2

/-- What the view hides has no part in what the action does. -/
abbrev Blind (backend : Backend σ) (view : σ → γ) (action : Client σ α) : Prop :=
  Echoes backend view Eq action action

theorem Echoes.mono {weaker : α → β → Prop} (h : Echoes backend view related action twin)
    (hweaker : ∀ a b, related a b → weaker a b) : Echoes backend view weaker action twin :=
  fun first second hresembles ↦ (h first second hresembles).imp_left fun hresult ↦
    hresult.mono hweaker

theorem echoes_pure {a : α} {b : β} (h : related a b) :
    Echoes backend view related (pure a) (pure b) :=
  fun _ _ hresembles ↦ ⟨.ok h, hresembles⟩

theorem blind_pure (a : α) : Blind backend view (pure a : Client σ α) := echoes_pure rfl

theorem echoes_throw (failure : Failure) :
    Echoes backend view related (throw failure) (throw failure) :=
  fun _ _ hresembles ↦ ⟨.error failure, hresembles⟩

theorem echoes_refuse (error : Error) :
    Echoes backend view related (refuse error) (refuse error) :=
  echoes_throw _

theorem blind_report (event : Event) : Blind backend view (report event) := by
  intro first second hresembles
  exact ⟨.ok rfl, hresembles.state, congrArg (Log.add · event) hresembles.log⟩

theorem echoes_expect {result : Except CallError α} {twinResult : Except CallError β}
    (operation : String) (purpose : Purpose) (h : EndsAlike related result twinResult) :
    Echoes backend view related (expect operation purpose result)
      (expect operation purpose twinResult) := by
  cases h with
  | ok h => exact echoes_pure h
  | error error => exact echoes_refuse _

theorem blind_expect (operation : String) (purpose : Purpose) (result : Except CallError α) :
    Blind backend view (expect operation purpose result) :=
  echoes_expect operation purpose (endsAlike_refl (fun _ ↦ rfl) result)

/-- Calls that echo one another. -/
theorem echoes_exchange {ask twinAsk : Backend σ → σ → Reply σ α} {related : α → α → Prop}
    (h : ∀ state other, view state = view other →
      (ask backend state).Echoes view related (twinAsk backend other)) :
    Echoes backend view (EndsAlike related) (exchange ask) (exchange twinAsk) := by
  rintro ⟨state, log⟩ ⟨other, _⟩ ⟨hstate, rfl⟩
  obtain ⟨houtcome, hafter, hevents⟩ := h state other hstate
  have hrun : ∀ (call : Backend σ → σ → Reply σ α) (state : σ),
      (exchange call).run backend ⟨state, log⟩ =
        ((call backend state).outcome.result,
          ⟨(call backend state).state, log.addAll (call backend state).events⟩) := by
    intro call state
    unfold exchange
    dsimp only [run, ReaderT.run, StateT.run, ExceptT.run, ExceptT.mk]
    rcases call backend state with ⟨_ | _ | _, state, events⟩ <;> rfl
  rw [hrun ask, hrun twinAsk]
  exact ⟨houtcome, hafter, congrArg log.addAll hevents⟩

theorem blind_exchange {ask : Backend σ → σ → Reply σ α}
    (h : ∀ state other, view state = view other →
      (ask backend state).Echoes view Eq (ask backend other)) :
    Blind backend view (exchange ask) :=
  (echoes_exchange h).mono fun _ _ hends ↦ hends.eq

/-! ### One action after the other -/

theorem Echoes.bind {next : α → Client σ α'} {twinNext : β → Client σ β'}
    (h : Echoes backend view related action twin)
    (hnext : ∀ a b, related a b → Echoes backend view last (next a) (twinNext b)) :
    Echoes backend view last (action >>= next) (twin >>= twinNext) := by
  intro first second hresembles
  have hends := h first second hresembles
  rw [run_bind, run_bind]
  generalize action.run backend first = ended at hends ⊢
  generalize twin.run backend second = twinEnded at hends ⊢
  obtain ⟨result, after⟩ := ended
  obtain ⟨twinResult, twinAfter⟩ := twinEnded
  obtain ⟨hresult, hafter⟩ := hends
  cases hresult with
  | ok hrelated => exact hnext _ _ hrelated after twinAfter hafter
  | error failure => exact ⟨.error failure, hafter⟩

/-- After actions with the same result the next ones start from it. -/
theorem Echoes.bind_same {twin : Client σ α} {next : α → Client σ α'} {twinNext : α → Client σ β'}
    (h : Echoes backend view Eq action twin)
    (hnext : ∀ a, Echoes backend view last (next a) (twinNext a)) :
    Echoes backend view last (action >>= next) (twin >>= twinNext) :=
  h.bind fun a _ heq ↦ heq ▸ hnext a

/-- What is expected of the result that actions have in common is expected of both. -/
theorem Echoes.expect_bind {ρ : Type} {action twin : Client σ ρ} {operation : String}
    {purpose : Purpose} {taken : ρ → Except CallError α} {next : α → Client σ α'}
    {twinNext : α → Client σ β'} (h : Echoes backend view Eq action twin)
    (hnext : ∀ a, Echoes backend view last (next a) (twinNext a)) :
    Echoes backend view last
      (action >>= fun result ↦ expect operation purpose (taken result) >>= next)
      (twin >>= fun result ↦ expect operation purpose (taken result) >>= twinNext) :=
  h.bind_same fun result ↦ (blind_expect operation purpose (taken result)).bind_same hnext

theorem Echoes.map {f : α → α'} {g : β → β'} (h : Echoes backend view related action twin)
    (hlast : ∀ a b, related a b → last (f a) (g b)) :
    Echoes backend view last (f <$> action) (g <$> twin) := by
  rw [map_eq_pure_bind, map_eq_pure_bind]
  exact h.bind fun a b hrelated ↦ echoes_pure (hlast a b hrelated)

theorem Echoes.map_same {twin : Client σ α} (f : α → α') (h : Echoes backend view Eq action twin) :
    Echoes backend view Eq (f <$> action) (f <$> twin) :=
  h.map fun _ _ heq ↦ congrArg f heq

theorem Echoes.tryCatch {rescue : Failure → Client σ α} {twinRescue : Failure → Client σ β}
    (h : Echoes backend view related action twin)
    (hrescue : ∀ failure, Echoes backend view related (rescue failure) (twinRescue failure)) :
    Echoes backend view related (tryCatch action rescue) (tryCatch twin twinRescue) := by
  intro first second hresembles
  have hends := h first second hresembles
  rw [run_tryCatch, run_tryCatch]
  generalize action.run backend first = ended at hends ⊢
  generalize twin.run backend second = twinEnded at hends ⊢
  obtain ⟨result, after⟩ := ended
  obtain ⟨twinResult, twinAfter⟩ := twinEnded
  obtain ⟨hresult, hafter⟩ := hends
  cases hresult with
  | ok hrelated => exact ⟨.ok hrelated, hafter⟩
  | error failure => exact hrescue failure after twinAfter hafter

theorem Echoes.cleaning {cleanup : Client σ Unit} (h : Echoes backend view related action twin)
    (hcleanup : Blind backend view cleanup) :
    Echoes backend view related (Client.cleaning cleanup action) (Client.cleaning cleanup twin) :=
  h.tryCatch fun failure ↦ hcleanup.bind_same fun _ ↦ echoes_throw failure

theorem Echoes.attempt (h : Echoes backend view related action twin) :
    Echoes backend view (EndsAlike related) (Client.attempt action) (Client.attempt twin) := by
  refine (h.map fun _ _ hrelated ↦ EndsAlike.ok hrelated).tryCatch fun failure ↦ ?_
  cases failure with
  | error error => exact echoes_pure (.error error)
  | crash => exact echoes_throw _

theorem Blind.attempt (h : Blind backend view action) :
    Blind backend view (Client.attempt action) :=
  (Echoes.attempt h).mono fun _ _ hends ↦ hends.eq

theorem Echoes.settle (h : Echoes backend view related action twin) :
    Echoes backend view (EndsAlike related) (Client.settle action) (Client.settle twin) :=
  (h.map fun _ _ hrelated ↦ EndsAlike.ok hrelated).tryCatch fun failure ↦
    echoes_pure (.error failure)

/-! ### Actions repeated -/

theorem blind_mapM {use : α → Client σ β} (items : List α)
    (h : ∀ item, Blind backend view (use item)) : Blind backend view (items.mapM use) := by
  induction items with
  | nil => exact blind_pure []
  | cons item items ih =>
    rw [List.mapM_cons]
    exact (h item).bind_same fun result ↦ ih.bind_same fun results ↦ blind_pure (result :: results)

theorem blind_forM {use : α → Client σ Unit} (items : List α)
    (h : ∀ item, Blind backend view (use item)) : Blind backend view (items.forM use) := by
  induction items with
  | nil => exact blind_pure ()
  | cons item items ih =>
    exact (h item).bind_same fun _ ↦ ih

/-- What is done with items is echoed if it is for the items changed. -/
theorem echoes_forM_map {use : α → Client σ Unit} {change : α → α} (items : List α)
    (h : ∀ item, Echoes backend view Eq (use item) (use (change item))) :
    Echoes backend view Eq (items.forM use) ((items.map change).forM use) := by
  induction items with
  | nil => exact blind_pure ()
  | cons item items ih =>
    exact (h item).bind_same fun _ ↦ ih

theorem echoes_foldlM_map {step : β → α → Client σ β} {change : α → α} (items : List α) (start : β)
    (h : ∀ b item, Echoes backend view Eq (step b item) (step b (change item))) :
    Echoes backend view Eq (items.foldlM step start) ((items.map change).foldlM step start) := by
  induction items generalizing start with
  | nil => exact blind_pure start
  | cons item items ih =>
    rw [List.map_cons, List.foldlM_cons, List.foldlM_cons]
    exact (h start item).bind_same fun b ↦ ih b

end Client

end ColumnStore
