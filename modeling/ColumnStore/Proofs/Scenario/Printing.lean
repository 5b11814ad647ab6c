import ColumnStore.Proofs.Scenario.Run

/-!
# What scenarios print

`Surroundings.recording` keeps a list of the texts that are written, beside whatever the
surroundings do with them and whatever their clock shows. `Scenario.Prints` says that a scenario
comes to its end and tells the texts that it has written on the way, together with its result and
the state in which it leaves the backend. The texts of scenarios that follow each other stand one
behind the other.
-/

set_option autoImplicit false

namespace ColumnStore

/-- The surroundings, with the texts that are written kept in a list, oldest first. -/
def Surroundings.recording {τ : Type} (surroundings : Surroundings (StateM τ)) :
    Surroundings (StateM (τ × List String)) where
  now := fun (world, texts) ↦
    let (time, world) := surroundings.now.run world
    (time, world, texts)
  write text := fun (world, texts) ↦
    let (failure, world) := (surroundings.write text).run world
    (failure, world, texts ++ [text])

theorem Surroundings.run_recording_write {τ : Type} (surroundings : Surroundings (StateM τ))
    (text : String) (world : τ) (texts : List String) :
    (surroundings.recording.write text).run (world, texts) =
      (((surroundings.write text).run world).1,
        (((surroundings.write text).run world).2, texts ++ [text])) := rfl

namespace Scenario

variable {σ τ α β : Type} {backend : Backend σ} {surroundings : Surroundings (StateM τ)}
  {before : σ}

/-- Started on a backend in the state `before`, the scenario comes to its end with a result, a state
and written texts that `post` allows. -/
def Prints (backend : Backend σ) (surroundings : Surroundings (StateM τ))
    (scenario : Scenario (StateM (τ × List String)) σ α) (before : σ)
    (post : α → σ → List String → Prop) : Prop :=
  ∀ log world texts, ∃ (a : α) (after : Connection σ) (later : τ) (more : List String),
    scenario.runIn backend surroundings.recording ⟨before, log⟩ (world, texts) =
        ((.ok a, after), later, texts ++ more) ∧
      post a after.state more

variable {post : α → σ → List String → Prop} {last : β → σ → List String → Prop}
  {scenario : Scenario (StateM (τ × List String)) σ α}

theorem Prints.mono {weaker : α → σ → List String → Prop}
    (h : Prints backend surroundings scenario before post)
    (hweaker : ∀ a state texts, post a state texts → weaker a state texts) :
    Prints backend surroundings scenario before weaker := by
  intro log world texts
  obtain ⟨a, after, later, more, hrun, hpost⟩ := h log world texts
  exact ⟨a, after, later, more, hrun, hweaker a after.state more hpost⟩

/-! ### Single steps -/

theorem prints_pure {a : α} (h : post a before []) :
    Prints backend surroundings (pure a) before post := by
  intro log world texts
  refine ⟨a, ⟨before, log⟩, world, [], ?_, h⟩
  rw [List.append_nil]
  rfl

/-- The clock shows some time. -/
theorem prints_now {post : Nat → σ → List String → Prop} (h : ∀ time, post time before []) :
    Prints backend surroundings now before post := by
  intro log world texts
  refine ⟨(surroundings.now.run world).1, ⟨before, log⟩, (surroundings.now.run world).2, [], ?_,
    h _⟩
  rw [List.append_nil]
  rfl

/-- A line is written if whatever is written in the surroundings is written. -/
theorem prints_line {text : String} {post : Unit → σ → List String → Prop}
    (hwrites : surroundings.Writes) (h : post () before [text ++ "\n"]) :
    Prints backend surroundings (line text) before post := by
  intro log world texts
  refine ⟨(), ⟨before, log⟩, ((surroundings.write (text ++ "\n")).run world).2, [text ++ "\n"], ?_,
    h⟩
  unfold line
  rw [runIn_write, surroundings.run_recording_write, hwrites]

/-- An action of a client that ends with a result writes nothing. -/
theorem prints_act {action : Client σ α} {allowed : Except Failure α → σ → Prop}
    (h : Client.Ends backend action before allowed)
    (hok : ∀ result state, allowed result state → ∃ a, result = .ok a ∧ post a state []) :
    Prints backend surroundings (act action) before post := by
  intro log world texts
  have hallowed := h log
  rcases haction : action.run backend ⟨before, log⟩ with ⟨result, connection⟩
  rw [haction] at hallowed
  obtain ⟨a, rfl, hpost⟩ := hok result connection.state hallowed
  refine ⟨a, connection, world, [], ?_, hpost⟩
  rw [runIn_act, haction, List.append_nil]

/-! ### One after the other -/

/-- A scenario goes on from where the one before it ended, and so do the texts. -/
theorem Prints.bind {next : α → Scenario (StateM (τ × List String)) σ β}
    (h : Prints backend surroundings scenario before post)
    (hnext : ∀ a state texts, post a state texts →
      Prints backend surroundings (next a) state fun b after more ↦ last b after (texts ++ more)) :
    Prints backend surroundings (scenario >>= next) before last := by
  intro log world texts
  obtain ⟨a, ⟨state, told⟩, later, more, hrun, hpost⟩ := h log world texts
  obtain ⟨b, after, final, rest, hrest, hlast⟩ :=
    hnext a state more hpost told later (texts ++ more)
  refine ⟨b, after, final, more ++ rest, ?_, hlast⟩
  rw [runIn_bind, hrun]
  dsimp only
  rw [hrest, List.append_assoc]

/-- A scenario that begins with a look at the clock. -/
theorem prints_now_bind {next : Nat → Scenario (StateM (τ × List String)) σ β}
    (h : ∀ time, Prints backend surroundings (next time) before last) :
    Prints backend surroundings (now >>= next) before last := by
  have hnow : Prints backend surroundings now before fun _ state texts ↦
      state = before ∧ texts = [] := prints_now fun _ ↦ ⟨rfl, rfl⟩
  refine hnow.bind ?_
  rintro time _ _ ⟨rfl, rfl⟩
  exact h time

/-- A scenario that begins with a line. -/
theorem prints_line_bind {text : String} {next : Unit → Scenario (StateM (τ × List String)) σ β}
    (hwrites : surroundings.Writes)
    (h : Prints backend surroundings (next ()) before fun b after more ↦
      last b after ((text ++ "\n") :: more)) :
    Prints backend surroundings (line text >>= next) before last := by
  have hline : Prints backend surroundings (line text) before fun _ state texts ↦
      state = before ∧ texts = [text ++ "\n"] := prints_line hwrites ⟨rfl, rfl⟩
  refine hline.bind ?_
  rintro _ _ _ ⟨rfl, rfl⟩
  exact h

/-- A scenario that begins with an action of a client. -/
theorem prints_act_bind {action : Client σ α} {next : α → Scenario (StateM (τ × List String)) σ β}
    {allowed : Except Failure α → σ → Prop} (h : Client.Ends backend action before allowed)
    (hnext : ∀ result state, allowed result state →
      ∃ a, result = .ok a ∧ Prints backend surroundings (next a) state last) :
    Prints backend surroundings (act action >>= next) before last := by
  have hact : Prints backend surroundings (act action) before fun a state texts ↦
      texts = [] ∧ Prints backend surroundings (next a) state last := by
    refine prints_act h fun result state hallowed ↦ ?_
    obtain ⟨a, hresult, hrest⟩ := hnext result state hallowed
    exact ⟨a, hresult, rfl, hrest⟩
  refine hact.bind ?_
  rintro a state _ ⟨rfl, hrest⟩
  exact hrest

/-- A cleanup for the case that a scenario ends early is not made if it does not. -/
theorem Prints.cleaning {cleanup : Client σ Unit}
    (h : Prints backend surroundings scenario before post) :
    Prints backend surroundings (Scenario.cleaning cleanup scenario) before post := by
  intro log world texts
  obtain ⟨a, after, later, more, hrun, hpost⟩ := h log world texts
  refine ⟨a, after, later, more, ?_, hpost⟩
  unfold Scenario.cleaning
  rw [runIn_tryCatch, hrun]

/-- A cleanup that is made after a scenario. -/
theorem Prints.afterwards {cleanup : Client σ Unit} {weaker : α → σ → List String → Prop}
    (h : Prints backend surroundings scenario before post)
    (hcleanup : ∀ a state texts, post a state texts →
      Client.Ends backend cleanup state fun cleaned after ↦
        cleaned = .ok () ∧ weaker a after texts) :
    Prints backend surroundings (Scenario.afterwards cleanup scenario) before weaker := by
  refine h.cleaning.bind fun a state texts hstate ↦ ?_
  refine prints_act_bind (hcleanup a state texts hstate) ?_
  rintro _ after ⟨rfl, hafter⟩
  exact ⟨(), rfl, prints_pure (by simpa using hafter)⟩

end Scenario

end ColumnStore
