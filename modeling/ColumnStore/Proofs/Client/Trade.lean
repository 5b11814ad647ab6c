import ColumnStore.Console.Basic
import ColumnStore.Proofs.Client.Run
import ColumnStore.Proofs.Managed.Fault
import ColumnStore.Proofs.Memory.Exchange

/-!
# What client actions do with handles

`Client.Trades` says which handles an action is given and which it keeps, however it ends and
whatever calls fail on the way. The lemmas follow the ways in which actions are put together, as
those for `Client.Ends` do, and a frame of other handles can be added to any of them. An action is
`Client.Idle` if it neither needs nor keeps a handle.
-/

set_option autoImplicit false

namespace ColumnStore

/-! ### Backends behind faults -/

namespace Faulty

variable {before middle after : Faulty Memory} {given traded kept rest : Multiset Holding}

/-- The handles are in use on a backend behind faults that only let calls fail. -/
structure Owns (state : Faulty Memory) (held : Multiset Holding) : Prop where
  onlyFails : ∀ fault ∈ state.faults, fault.OnlyFails
  memory : state.inner.Owns held

/-- An exchange behind the same faults. -/
structure Exchange (given kept : Multiset Holding) (before after : Faulty Memory) : Prop where
  plans : after.faults.map Fault.plan = before.faults.map Fault.plan
  memory : Memory.Exchange given kept before.inner after.inner

theorem Owns.fails {state : Faulty Memory} (h : state.Owns given) :
    ∀ fault ∈ state.faults, fault.Fails :=
  fun fault hfault ↦ (h.onlyFails fault hfault).1

theorem Owns.left {state : Faulty Memory} (h : state.Owns (given + rest)) : state.Owns given :=
  ⟨h.onlyFails, h.memory.left⟩

theorem Exchange.owns (h : Exchange given kept before after) (howns : before.Owns given) :
    after.Owns kept :=
  ⟨Fault.forall_onlyFails h.plans howns.onlyFails, h.memory.owns howns.memory⟩

theorem Exchange.refl {state : Faulty Memory} (howns : state.Owns given) :
    Exchange given given state state :=
  ⟨rfl, .refl howns.memory⟩

theorem Exchange.trans (hfirst : Exchange given traded before middle)
    (hlast : Exchange traded kept middle after) : Exchange given kept before after :=
  ⟨hlast.plans.trans hfirst.plans, hfirst.memory.trans hlast.memory⟩

theorem Exchange.frame (h : Exchange given kept before after)
    (howns : before.Owns (given + rest)) : Exchange (given + rest) (kept + rest) before after :=
  ⟨h.plans, h.memory.frame howns.memory⟩

end Faulty

namespace Client

variable {α β : Type} {given left kept traded rest : Multiset Holding}
  {post : Except Failure α → Multiset Holding → Prop}
  {last : Except Failure β → Multiset Holding → Prop}

/-- An action that is given handles ends and has kept others, in a way that `post` allows. -/
def Trades (given : Multiset Holding) (action : Client (Faulty Memory) α)
    (post : Except Failure α → Multiset Holding → Prop) : Prop :=
  ∀ before : Faulty Memory, before.Owns given →
    Ends Console.backend action before fun result after ↦
      ∃ kept, post result kept ∧ Faulty.Exchange given kept before after

/-- An action hands over handles with its result, and leaves `left` if it fails. -/
def Delivers (left : Multiset Holding) (held : α → Multiset Holding) :
    Except Failure α → Multiset Holding → Prop
  | .ok a, kept => kept = held a
  | .error _, kept => kept = left

/-- An action that keeps what it is given, however it ends. -/
abbrev Keeps (given : Multiset Holding) (action : Client (Faulty Memory) α) : Prop :=
  Trades given action fun _ kept ↦ kept = given

/-- An action that neither needs nor keeps handles. -/
abbrev Idle (action : Client (Faulty Memory) α) : Prop :=
  Keeps 0 action

theorem delivers_const_iff {result : Except Failure α} :
    Delivers left (fun _ ↦ left) result kept ↔ kept = left := by
  cases result with
  | ok a => rfl
  | error failure => rfl

/-! ### Handles of others -/

theorem Trades.mono {weaker : Except Failure α → Multiset Holding → Prop}
    {action : Client (Faulty Memory) α} (h : Trades given action post)
    (hweaker : ∀ result kept, post result kept → weaker result kept) :
    Trades given action weaker := by
  intro before howns
  refine (h before howns).mono fun result after hpost ↦ ?_
  obtain ⟨kept, hkept, hexchange⟩ := hpost
  exact ⟨kept, hweaker result kept hkept, hexchange⟩

theorem Keeps.delivers {action : Client (Faulty Memory) α} (h : Keeps given action) :
    Trades given action (Delivers given fun _ ↦ given) :=
  h.mono fun _ _ hkept ↦ delivers_const_iff.mpr hkept

/-- Beside an action others keep their handles. -/
theorem Trades.frame {action : Client (Faulty Memory) α} (h : Trades given action post)
    (rest : Multiset Holding) :
    Trades (given + rest) action fun result kept ↦ ∃ own, post result own ∧ kept = own + rest := by
  intro before howns
  refine (h before howns.left).mono fun result after hpost ↦ ?_
  obtain ⟨kept, hkept, hexchange⟩ := hpost
  exact ⟨kept + rest, ⟨kept, hkept, rfl⟩, hexchange.frame howns⟩

theorem Trades.frame_delivers {held : α → Multiset Holding} {action : Client (Faulty Memory) α}
    (h : Trades given action (Delivers left held)) (rest : Multiset Holding) :
    Trades (given + rest) action (Delivers (left + rest) fun a ↦ held a + rest) := by
  refine (h.frame rest).mono fun result kept hpost ↦ ?_
  obtain ⟨own, hown, rfl⟩ := hpost
  cases result with
  | ok a => exact congrArg (· + rest) hown
  | error failure => exact congrArg (· + rest) hown

theorem Keeps.frame {action : Client (Faulty Memory) α} (h : Keeps given action)
    (rest : Multiset Holding) : Keeps (given + rest) action := by
  refine (Trades.frame h rest).mono fun result kept hpost ↦ ?_
  obtain ⟨own, rfl, rfl⟩ := hpost
  rfl

theorem Keeps.frame_left {action : Client (Faulty Memory) α} (h : Keeps given action)
    (rest : Multiset Holding) : Keeps (rest + given) action := by
  rw [add_comm]
  exact h.frame rest

/-- An idle action leaves all handles as they are. -/
theorem Idle.frame {action : Client (Faulty Memory) α} (h : Idle action)
    (given : Multiset Holding) : Keeps given action := by
  have hframed := Keeps.frame h given
  rw [zero_add] at hframed
  exact hframed

/-! ### Actions that make no calls -/

theorem trades_pure {a : α} (h : post (.ok a) given) :
    Trades given (pure a : Client (Faulty Memory) α) post :=
  fun _ howns ↦ ends_pure ⟨given, h, .refl howns⟩

theorem trades_throw {failure : Failure} (h : post (.error failure) given) :
    Trades given (throw failure : Client (Faulty Memory) α) post :=
  fun _ howns ↦ ends_throw ⟨given, h, .refl howns⟩

theorem trades_refuse {error : Error} (h : post (.error (.error error)) given) :
    Trades given (refuse error : Client (Faulty Memory) α) post :=
  trades_throw h

theorem trades_report {event : Event} {post : Except Failure Unit → Multiset Holding → Prop}
    (h : post (.ok ()) given) : Trades given (report event) post := by
  intro before howns
  refine (runs_report event).mono ?_
  rintro result after ⟨rfl, rfl⟩
  exact ⟨given, h, .refl howns⟩

/-! ### One action after the other -/

theorem Trades.bind {action : Client (Faulty Memory) α} {next : α → Client (Faulty Memory) β}
    (h : Trades given action post)
    (hok : ∀ a traded, post (.ok a) traded → Trades traded (next a) last)
    (herror : ∀ failure kept, post (.error failure) kept → last (.error failure) kept) :
    Trades given (action >>= next) last := by
  intro before howns
  refine (h before howns).bind ?_ ?_
  · rintro a middle ⟨traded, htraded, hfirst⟩
    refine (hok a traded htraded middle (hfirst.owns howns)).mono ?_
    rintro result after ⟨kept, hkept, hlast⟩
    exact ⟨kept, hkept, hfirst.trans hlast⟩
  · rintro failure after ⟨kept, hkept, hexchange⟩
    exact ⟨kept, herror failure kept hkept, hexchange⟩

theorem Trades.tryCatch {action : Client (Faulty Memory) α}
    {rescue : Failure → Client (Faulty Memory) α}
    {last : Except Failure α → Multiset Holding → Prop} (h : Trades given action post)
    (hok : ∀ a kept, post (.ok a) kept → last (.ok a) kept)
    (herror : ∀ failure traded, post (.error failure) traded →
      Trades traded (rescue failure) last) :
    Trades given (tryCatch action rescue) last := by
  intro before howns
  refine (h before howns).tryCatch ?_ ?_
  · rintro a after ⟨kept, hkept, hexchange⟩
    exact ⟨kept, hok a kept hkept, hexchange⟩
  · rintro failure middle ⟨traded, htraded, hfirst⟩
    refine (herror failure traded htraded middle (hfirst.owns howns)).mono ?_
    rintro result after ⟨kept, hkept, hlast⟩
    exact ⟨kept, hkept, hfirst.trans hlast⟩

/-- An action whose handles go on to the next one. -/
theorem Trades.bind_delivers {action : Client (Faulty Memory) α}
    {next : α → Client (Faulty Memory) β} {held : α → Multiset Holding}
    (h : Trades given action (Delivers left held))
    (hok : ∀ a, Trades (held a) (next a) last)
    (herror : ∀ failure, last (.error failure) left) : Trades given (action >>= next) last := by
  refine h.bind ?_ ?_
  · rintro a traded rfl
    exact hok a
  · rintro failure kept rfl
    exact herror failure

/-- An action that keeps what it is given, in front of another one. -/
theorem Keeps.bind_trades {action : Client (Faulty Memory) α}
    {next : α → Client (Faulty Memory) β} (h : Keeps given action)
    (hok : ∀ a, Trades given (next a) last) (herror : ∀ failure, last (.error failure) given) :
    Trades given (action >>= next) last := by
  refine h.bind ?_ ?_
  · rintro a traded rfl
    exact hok a
  · rintro failure kept rfl
    exact herror failure

theorem Keeps.bind {action : Client (Faulty Memory) α} {next : α → Client (Faulty Memory) β}
    (h : Keeps given action) (hnext : ∀ a, Keeps given (next a)) :
    Keeps given (action >>= next) :=
  h.bind_trades hnext fun _ ↦ rfl

/-- An idle action in front of another one. -/
theorem Idle.bind_trades {action : Client (Faulty Memory) α}
    {next : α → Client (Faulty Memory) β} (h : Idle action)
    (hok : ∀ a, Trades given (next a) last) (herror : ∀ failure, last (.error failure) given) :
    Trades given (action >>= next) last :=
  Keeps.bind_trades (h.frame given) hok herror

theorem trades_report_bind {event : Event} {next : Unit → Client (Faulty Memory) β}
    (h : Trades given (next ()) last) : Trades given (report event >>= next) last := by
  have hreport : Trades given (report event) fun result kept ↦ result = .ok () ∧ kept = given :=
    trades_report ⟨rfl, rfl⟩
  refine hreport.bind ?_ ?_
  · rintro a traded ⟨-, rfl⟩
    exact h
  · rintro failure kept ⟨hresult, -⟩
    cases hresult

theorem trades_expect {operation : String} {purpose : Purpose} {result : Except CallError α}
    (hok : ∀ a, result = .ok a → post (.ok a) given)
    (herror : ∀ error failed, result = .error failed → post (.error (.error error)) given) :
    Trades given (expect operation purpose result) post := by
  cases result with
  | ok a => exact trades_pure (hok a rfl)
  | error error => exact trades_refuse (herror _ error rfl)

theorem trades_expect_bind {operation : String} {purpose : Purpose} {result : Except CallError α}
    {next : α → Client (Faulty Memory) β}
    (hok : ∀ a, result = .ok a → Trades given (next a) last)
    (herror : ∀ error failed, result = .error failed → last (.error (.error error)) given) :
    Trades given (expect operation purpose result >>= next) last := by
  cases result with
  | ok a =>
    have hpure : Trades given (expect operation purpose (.ok a) : Client (Faulty Memory) α)
        fun ended kept ↦ ended = .ok a ∧ kept = given := trades_pure ⟨rfl, rfl⟩
    refine hpure.bind ?_ ?_
    · rintro _ traded ⟨⟨⟩, rfl⟩
      exact hok a rfl
    · rintro failure kept ⟨hresult, -⟩
      cases hresult
  | error failed =>
    have hrefuse : Trades given
        (expect operation purpose (.error failed) : Client (Faulty Memory) α)
        fun ended kept ↦ (∃ error, ended = .error (.error error)) ∧ kept = given :=
      trades_refuse ⟨⟨_, rfl⟩, rfl⟩
    refine hrefuse.bind ?_ ?_
    · rintro a traded ⟨⟨error, hresult⟩, -⟩
      cases hresult
    · rintro failure kept ⟨⟨error, ⟨⟩⟩, rfl⟩
      exact herror error failed rfl

theorem Trades.map {action : Client (Faulty Memory) α} (f : α → β) (h : Trades given action post)
    (hok : ∀ a kept, post (.ok a) kept → last (.ok (f a)) kept)
    (herror : ∀ failure kept, post (.error failure) kept → last (.error failure) kept) :
    Trades given (f <$> action) last := by
  rw [map_eq_pure_bind]
  exact h.bind (fun a traded ha ↦ trades_pure (hok a traded ha)) herror

/-! ### Ending early and cleaning up -/

/-- An action that comes to an end and gives up all that it is given. -/
abbrev Clears (given : Multiset Holding) (action : Client (Faulty Memory) Unit) : Prop :=
  Trades given action fun result kept ↦ result = .ok () ∧ kept = 0

/-- What others own is still theirs after something else is given up. -/
theorem Clears.bind_trades {action : Client (Faulty Memory) Unit}
    {next : Unit → Client (Faulty Memory) β} (h : Clears given action)
    (hnext : Trades rest (next ()) last) : Trades (given + rest) (action >>= next) last := by
  refine (h.frame rest).bind ?_ ?_
  · rintro a traded ⟨own, ⟨-, rfl⟩, rfl⟩
    rw [zero_add]
    exact hnext
  · rintro failure kept ⟨own, ⟨hresult, -⟩, -⟩
    cases hresult

/-- Things are given up one after the other. -/
theorem clears_forM {items : List α} {held : α → Multiset Holding}
    {drop : α → Client (Faulty Memory) Unit} (h : ∀ item ∈ items, Clears (held item) (drop item)) :
    Clears (items.map held).sum (items.forM drop) := by
  induction items with
  | nil => exact trades_pure ⟨rfl, rfl⟩
  | cons item items ih =>
    obtain ⟨hfirst, hrest⟩ := List.forall_mem_cons.mp h
    rw [List.map_cons, List.sum_cons]
    exact hfirst.bind_trades (ih hrest)

/-- Giving up a handle in use always works. -/
theorem clears_discard (holding : Holding) : Clears {holding} (discard holding.handle) := by
  intro before howns
  obtain ⟨object, hobject, -⟩ := howns.memory.has _ (Multiset.mem_singleton_self _)
  have hrelease : Memory.backend.release holding.handle before.inner =
      .returned (before.inner.vacate holding.handle) () := by
    change Memory.release holding.handle before.inner = _
    unfold Memory.release
    rw [if_neg (by simp [howns.memory.running]), if_pos (by simp [hobject])]
  have hguard := @Faulty.guard_release _ _ "" (fun _ ↦ .ok ())
    (Memory.backend.release holding.handle) before howns.onlyFails
  have hplans := (@Faulty.guard_cases _ _ "" releaseName (fun _ ↦ .ok ())
    (Memory.backend.release holding.handle) before howns.fails).1
  rw [hrelease] at hguard
  refine (ends_discard holding.handle before).mono ?_
  rintro result after ⟨hresult, rfl⟩
  refine ⟨0, ⟨hresult.resolve_right fun hcrash ↦ ?_, rfl⟩, hplans, ?_⟩
  · cases hguard.1.symm.trans hcrash
  · have hstate : (Console.backend.release holding.handle before).state.inner =
        before.inner.vacate holding.handle := hguard.2
    rw [hstate]
    exact Memory.exchange_vacate howns.memory

theorem Trades.cleaning {action : Client (Faulty Memory) α} {cleanup : Client (Faulty Memory) Unit}
    {held : α → Multiset Holding} (h : Trades given action (Delivers (left + rest) held))
    (hcleanup : Clears left cleanup) :
    Trades given (Client.cleaning cleanup action) (Delivers rest held) := by
  refine h.tryCatch (fun _ _ hkept ↦ hkept) ?_
  rintro failure traded rfl
  exact hcleanup.bind_trades (trades_throw rfl)

/-- A cleanup that leaves nothing. -/
theorem Trades.cleaning_all {action : Client (Faulty Memory) α}
    {cleanup : Client (Faulty Memory) Unit} {held : α → Multiset Holding}
    (h : Trades given action (Delivers left held)) (hcleanup : Clears left cleanup) :
    Trades given (Client.cleaning cleanup action) (Delivers 0 held) := by
  rw [← add_zero left] at h
  exact h.cleaning hcleanup

/-- What is held for the time of an action is given up at its end, however it ends. -/
theorem Trades.cleaning_bind {action : Client (Faulty Memory) α}
    {cleanup : Client (Faulty Memory) Unit} {held : α → Multiset Holding}
    (h : Trades given action (Delivers (left + rest) fun a ↦ left + held a))
    (hcleanup : Clears left cleanup) :
    Trades given (do
      let result ← Client.cleaning cleanup action
      cleanup
      pure result) (Delivers rest held) := by
  refine (h.cleaning hcleanup).bind_delivers (fun a ↦ ?_) fun _ ↦ rfl
  exact hcleanup.bind_trades (trades_pure rfl)

theorem Trades.holding {action : Client (Faulty Memory) α} {held : α → Multiset Holding}
    (holding : Holding)
    (h : Trades given action (Delivers ({holding} + rest) fun a ↦ {holding} + held a)) :
    Trades given (Client.holding holding.handle action) (Delivers rest held) :=
  h.cleaning_bind (clears_discard holding)

/-- What is held for the time of an action that keeps it is given up then. -/
theorem Keeps.cleaning_bind {action : Client (Faulty Memory) α}
    {cleanup : Client (Faulty Memory) Unit} (h : Keeps (rest + left) action)
    (hcleanup : Clears left cleanup) :
    Trades (rest + left) (do
      let result ← Client.cleaning cleanup action
      cleanup
      pure result) fun _ kept ↦ kept = rest := by
  have hdelivers := h.delivers
  rw [add_comm rest left] at hdelivers ⊢
  exact (hdelivers.cleaning_bind hcleanup).mono fun _ _ hkept ↦ delivers_const_iff.mp hkept

theorem Keeps.holding {action : Client (Faulty Memory) α} (holding : Holding)
    (h : Keeps (rest + {holding}) action) :
    Trades (rest + {holding}) (Client.holding holding.handle action) fun _ kept ↦ kept = rest :=
  h.cleaning_bind (clears_discard holding)

theorem sum_map_holding (handles : List Handle) (isRow : Bool) :
    (handles.map fun handle ↦ ({⟨handle, isRow⟩} : Multiset Holding)).sum =
      (handles.map (Holding.mk · isRow) : List Holding) := by
  induction handles with
  | nil => rfl
  | cons handle handles ih =>
    rw [List.map_cons, List.sum_cons, ih, List.map_cons, ← Multiset.cons_coe,
      Multiset.singleton_add]

theorem Keeps.holdingAll {action : Client (Faulty Memory) α} (handles : List Handle) (isRow : Bool)
    (h : Keeps (rest + (handles.map (Holding.mk · isRow) : List Holding)) action) :
    Trades (rest + (handles.map (Holding.mk · isRow) : List Holding))
      (Client.holdingAll handles action) fun _ kept ↦ kept = rest := by
  refine h.cleaning_bind ?_
  rw [← sum_map_holding]
  exact clears_forM fun handle _ ↦ clears_discard ⟨handle, isRow⟩

theorem Trades.attempt {action : Client (Faulty Memory) α} (h : Trades given action post) :
    Trades given (Client.attempt action) fun result kept ↦
      match result with
      | .ok (.ok a) => post (.ok a) kept
      | .ok (.error error) => post (.error (.error error)) kept
      | .error failure => failure = .crash ∧ post (.error .crash) kept := by
  have hmap : Trades given (Except.ok <$> action : Client (Faulty Memory) (Except Error α))
      fun result kept ↦
        match result with
        | .ok (.ok a) => post (.ok a) kept
        | .ok (.error _) => False
        | .error failure => post (.error failure) kept :=
    h.map _ (fun _ _ hpost ↦ hpost) fun _ _ hpost ↦ hpost
  refine hmap.tryCatch ?_ ?_
  · rintro (error | a) kept hpost
    · exact hpost.elim
    · exact hpost
  · rintro (error | _) traded hpost
    · exact trades_pure hpost
    · exact trades_throw ⟨rfl, hpost⟩

theorem Trades.settle {action : Client (Faulty Memory) α} (h : Trades given action post) :
    Trades given (Client.settle action) fun result kept ↦
      ∃ ended, result = .ok ended ∧ post ended kept := by
  have hmap : Trades given (Except.ok <$> action : Client (Faulty Memory) (Except Failure α))
      fun result kept ↦
        match result with
        | .ok ended => ∃ a, ended = .ok a ∧ post (.ok a) kept
        | .error failure => post (.error failure) kept :=
    h.map _ (fun a _ hpost ↦ ⟨a, rfl, hpost⟩) fun _ _ hpost ↦ hpost
  refine hmap.tryCatch ?_ ?_
  · rintro _ kept ⟨a, rfl, hpost⟩
    exact ⟨_, rfl, hpost⟩
  · exact fun failure traded hpost ↦ trades_pure ⟨_, rfl, hpost⟩

theorem Trades.attempt_delivers {action : Client (Faulty Memory) α} {held : α → Multiset Holding}
    (h : Trades given action (Delivers left held)) :
    Trades given (Client.attempt action)
      (Delivers left fun result ↦ match result with
        | .ok a => held a
        | .error _ => left) := by
  refine h.attempt.mono ?_
  rintro (failure | error | a) kept hkept
  · exact hkept.2
  · exact hkept
  · exact hkept

theorem Keeps.attempt {action : Client (Faulty Memory) α} (h : Keeps given action) :
    Keeps given (Client.attempt action) := by
  refine (Trades.attempt h).mono ?_
  rintro (failure | error | a) kept hkept
  · exact hkept.2
  · exact hkept
  · exact hkept

theorem Keeps.map {action : Client (Faulty Memory) α} (f : α → β) (h : Keeps given action) :
    Keeps given (f <$> action) :=
  Trades.map f h (fun _ _ hkept ↦ hkept) fun _ _ hkept ↦ hkept

/-- Every item works with handles of its own. -/
theorem keeps_mapM {items : List α} {held : α → Multiset Holding}
    {action : α → Client (Faulty Memory) β} (h : ∀ item ∈ items, Keeps (held item) (action item)) :
    Keeps (items.map held).sum (items.mapM action) := by
  induction items with
  | nil => exact trades_pure rfl
  | cons item items ih =>
    obtain ⟨hfirst, hrest⟩ := List.forall_mem_cons.mp h
    rw [List.map_cons, List.sum_cons, List.mapM_cons]
    refine (hfirst.frame _).bind fun _ ↦ ?_
    exact ((ih hrest).frame_left _).bind fun _ ↦ trades_pure rfl

theorem keeps_forM {items : List α} {action : α → Client (Faulty Memory) Unit}
    (h : ∀ item, Keeps given (action item)) : Keeps given (items.forM action) := by
  induction items with
  | nil => exact trades_pure rfl
  | cons item items ih => exact (h item).bind fun _ ↦ ih

theorem idle_expect {operation : String} {purpose : Purpose} {result : Except CallError α} :
    Idle (expect operation purpose result : Client (Faulty Memory) α) :=
  trades_expect (fun _ _ ↦ rfl) fun _ _ _ ↦ rfl

end Client

end ColumnStore
