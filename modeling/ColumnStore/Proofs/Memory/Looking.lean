import ColumnStore.Proofs.Memory.Client
import Mathlib.Data.List.Forall2

/-!
# Looking at the in-process backend

What only looks at the backend leaves no trace in it but counted calls. `Memory.Looks` says so of a
client action, together with what the action ends with.
-/

set_option autoImplicit false

namespace ColumnStore.Memory

/-- Only the counts of calls have changed. -/
def Recounts (before after : Memory) : Prop :=
  ∃ calls, after = { before with store := { before.store with calls := calls } }

/-- The action ends with the result and has only looked at the backend. -/
def Looks {α : Type} (action : Client Memory α) (memory : Memory) (result : Except Failure α) :
    Prop :=
  Client.Ends backend action memory fun ended after ↦ ended = result ∧ memory.Recounts after

variable {memory before middle after : Memory} {handle : Nat} {operation : Operation}

theorem Recounts.refl (memory : Memory) : memory.Recounts memory := ⟨_, rfl⟩

theorem Recounts.trans (hfirst : before.Recounts middle) (hlast : middle.Recounts after) :
    before.Recounts after := by
  obtain ⟨_, rfl⟩ := hfirst
  obtain ⟨calls, rfl⟩ := hlast
  exact ⟨calls, rfl⟩

theorem recounts_counting (memory : Memory) (method : Method) :
    memory.Recounts (memory.counting method) := ⟨_, rfl⟩

theorem Recounts.holds {object : ManagedObject} (h : before.Recounts after)
    (hholds : before.Holds handle object) : after.Holds handle object := by
  obtain ⟨calls, rfl⟩ := h
  exact ⟨hholds.running, hholds.object⟩

/-! ### Looking one after the other -/

section Looking

variable {α β : Type} {action : Client Memory α} {next : α → Client Memory β} {a : α}
  {failure : Failure}

/-- An action that leaves nothing but counts has only looked. -/
theorem looks_of_runs {result : Except Failure α}
    (h : Client.Runs backend action memory result after) (hafter : memory.Recounts after) :
    Looks action memory result := by
  refine h.mono ?_
  rintro ended state ⟨rfl, rfl⟩
  exact ⟨rfl, hafter⟩

theorem looks_pure (a : α) : Looks (pure a : Client Memory α) memory (.ok a) :=
  Client.ends_pure ⟨rfl, .refl memory⟩

theorem looks_refuse (error : Error) :
    Looks (Client.refuse error : Client Memory α) memory (.error (.error error)) :=
  Client.ends_refuse ⟨rfl, .refl memory⟩

theorem Looks.bind {result : Except Failure β} (h : Looks action memory (.ok a))
    (hnext : ∀ after, memory.Recounts after → Looks (next a) after result) :
    Looks (action >>= next) memory result := by
  refine Client.Ends.bind_of_ok h ?_
  rintro _ after ⟨rfl, hafter⟩
  refine ⟨a, rfl, (hnext after hafter).mono ?_⟩
  rintro ended last ⟨hended, hlast⟩
  exact ⟨hended, hafter.trans hlast⟩

theorem Looks.bind_error (h : Looks action memory (.error failure)) :
    Looks (action >>= next) memory (.error failure) := by
  refine Client.Ends.bind h ?_ ?_
  · rintro a after ⟨⟨⟩, -⟩
  · rintro _ after ⟨⟨⟩, hafter⟩
    exact ⟨rfl, hafter⟩

theorem Looks.map (f : α → β) (h : Looks action memory (.ok a)) :
    Looks (f <$> action) memory (.ok (f a)) := by
  rw [map_eq_pure_bind]
  exact h.bind fun _ _ ↦ looks_pure _

theorem Looks.map_error (f : α → β) (h : Looks action memory (.error failure)) :
    Looks (f <$> action) memory (.error failure) := by
  rw [map_eq_pure_bind]
  exact h.bind_error

theorem Looks.attempt (h : Looks action memory (.ok a)) :
    Looks (Client.attempt action) memory (.ok (.ok a)) := by
  refine Client.Ends.tryCatch (h.map Except.ok) ?_ ?_
  · exact fun _ _ hended ↦ hended
  · rintro failure after ⟨⟨⟩, -⟩

theorem Looks.attempt_error {error : Error} (h : Looks action memory (.error (.error error))) :
    Looks (Client.attempt action) memory (.ok (.error error)) := by
  refine Client.Ends.tryCatch (h.map_error Except.ok) ?_ ?_
  · rintro a after ⟨⟨⟩, -⟩
  · rintro _ after ⟨⟨⟩, hafter⟩
    exact Client.ends_pure ⟨rfl, hafter⟩

/-- Going through a list by looking, item by item. -/
theorem looks_mapM {use : α → Client Memory β} {items : List α} {results : List β}
    (h : List.Forall₂ (fun item result ↦ ∀ after, memory.Recounts after →
      Looks (use item) after (.ok result)) items results) :
    ∀ after, memory.Recounts after → Looks (items.mapM use) after (.ok results) := by
  induction h with
  | nil => exact fun after _ ↦ looks_pure []
  | cons hitem _ ih =>
    intro after hafter
    rw [List.mapM_cons]
    refine (hitem after hafter).bind fun next hnext ↦ ?_
    exact (ih next (hafter.trans hnext)).bind fun _ _ ↦ looks_pure _

/-- A call that only looks. -/
theorem looks_call {handle : Nat} {arguments : List Argument} {found : Except CallError Returned}
    (hrunning : memory.isShutDown = false) (hkind : operation.method.kind = .onObject)
    (hperform : perform operation handle arguments (memory.counting operation.method) =
      .ofExcept (memory.counting operation.method) found) :
    Looks (Client.call handle operation arguments) memory (.ok found) :=
  looks_of_runs (runs_call_ofExcept hrunning hkind hperform)
    (recounts_counting memory operation.method)

end Looking

end ColumnStore.Memory
