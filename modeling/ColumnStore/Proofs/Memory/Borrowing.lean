import ColumnStore.Proofs.Memory.Exchange
import ColumnStore.Proofs.Memory.Looking

/-!
# Borrowing objects

An action borrows if it gives up every object that it was handed out, so that the objects of the
backend are in the end what they were. Handles are given up in the order in which they were taken,
one by one or a whole row of them, and what is done in between may borrow again.
-/

set_option autoImplicit false

namespace ColumnStore

namespace Memory

variable {memory before middle after : Memory} {handle : Nat}

/-! ### Giving back what was taken -/

/-- The objects, the commits and whether the backend runs are as they were. -/
structure Restores (before after : Memory) : Prop where
  objects : after.object? = before.object?
  commits : after.store.commits = before.store.commits
  running : after.isShutDown = before.isShutDown

theorem Restores.refl (memory : Memory) : memory.Restores memory := ⟨rfl, rfl, rfl⟩

theorem Restores.trans (hfirst : before.Restores middle) (hlast : middle.Restores after) :
    before.Restores after :=
  ⟨hlast.objects.trans hfirst.objects, hlast.commits.trans hfirst.commits,
    hlast.running.trans hfirst.running⟩

theorem restores_counting (memory : Memory) (method : Method) :
    memory.Restores (memory.counting method) := ⟨rfl, rfl, rfl⟩

theorem Recounts.restores (h : before.Recounts after) : before.Restores after := by
  obtain ⟨calls, rfl⟩ := h
  exact ⟨rfl, rfl, rfl⟩

theorem Restores.holds {object : ManagedObject} (h : before.Restores after)
    (hholds : before.Holds handle object) : after.Holds handle object :=
  ⟨h.running.trans hholds.running, (congrFun h.objects handle).trans hholds.object⟩

/-- As many objects are in use as before. -/
theorem Restores.liveObjects_eq (h : before.Restores after) :
    after.liveObjects = before.liveObjects := by
  have hsame : after.holdings.Perm before.holdings := by
    refine (List.perm_ext_iff_of_nodup (nodup_holdings after) (nodup_holdings before)).mpr ?_
    intro holding
    rw [mem_holdings, mem_holdings]
    exact has_congr (congrFun h.objects holding.handle)
  rw [liveObjects_eq_length, liveObjects_eq_length, hsame.length_eq]

/-- Gives up handles one after the other. -/
def vacateAll (memory : Memory) (handles : List Handle) : Memory :=
  handles.foldl vacate memory

theorem object?_vacateAll {handles : List Handle} (hzero : ∀ handle ∈ handles, handle ≠ 0)
    (other : Nat) :
    (memory.vacateAll handles).object? other =
      if other ∈ handles then none else memory.object? other := by
  induction handles generalizing memory with
  | nil => rfl
  | cons handle rest ih =>
    obtain ⟨hfirst, hrest⟩ := List.forall_mem_cons.mp hzero
    show ((memory.vacate handle).vacateAll rest).object? other = _
    rw [ih hrest]
    by_cases hmem : other ∈ rest
    · simp [hmem]
    · by_cases hother : other = handle
      · subst hother
        simp [object?_vacate_self]
      · simp [hmem, hother, object?_vacate_of_ne hfirst hother]

theorem store_vacateAll (memory : Memory) (handles : List Handle) :
    (memory.vacateAll handles).store = memory.store := by
  induction handles generalizing memory with
  | nil => rfl
  | cons handle rest ih => exact ih (memory.vacate handle)

theorem isShutDown_vacateAll (memory : Memory) (handles : List Handle) :
    (memory.vacateAll handles).isShutDown = memory.isShutDown := by
  induction handles generalizing memory with
  | nil => rfl
  | cons handle rest ih => exact ih (memory.vacate handle)

/-- New objects that are given up again leave nothing behind. -/
theorem Restores.vacateAll {objects : List ManagedObject}
    (h : (memory.pinAll objects).Restores after) :
    memory.Restores (after.vacateAll (List.range' memory.nextHandle objects.length)) where
  objects := by
    funext other
    have hzero : ∀ handle ∈ List.range' memory.nextHandle objects.length, handle ≠ 0 := by
      intro handle hmem
      have hpositive : 0 < memory.nextHandle := Nat.succ_pos _
      exact Nat.ne_of_gt (Nat.lt_of_lt_of_le hpositive (List.mem_range'_1.mp hmem).1)
    rw [object?_vacateAll hzero, h.objects]
    by_cases hmem : other ∈ List.range' memory.nextHandle objects.length
    · rw [if_pos hmem]
      exact (object?_of_nextHandle_le (List.mem_range'_1.mp hmem).1).symm
    · rw [if_neg hmem]
      by_cases hlt : other < memory.nextHandle
      · exact object?_pinAll_of_lt hlt objects
      · have hbeyond : (memory.pinAll objects).nextHandle ≤ other := by
          rw [nextHandle_pinAll]
          by_contra hbelow
          exact hmem (List.mem_range'_1.mpr ⟨Nat.le_of_not_lt hlt, Nat.lt_of_not_le hbelow⟩)
        rw [object?_of_nextHandle_le hbeyond, object?_of_nextHandle_le (Nat.le_of_not_lt hlt)]
  commits := by
    rw [store_vacateAll, h.commits, store_pinAll]
  running := by
    rw [isShutDown_vacateAll, h.running, isShutDown_pinAll]

theorem Restores.vacate {object : ManagedObject} (h : (memory.pin object).Restores after) :
    memory.Restores (after.vacate memory.nextHandle) :=
  @Restores.vacateAll memory after [object] h

/-! ### Actions that give back what they take -/

/-- The action ends with the result and gives back what it takes. -/
def Borrows {α : Type} (action : Client Memory α) (memory : Memory) (a : α) : Prop :=
  Client.Ends backend action memory fun result after ↦ result = .ok a ∧ memory.Restores after

section Borrowing

variable {α β : Type} {action : Client Memory α} {next : α → Client Memory β} {a : α} {b : β}

theorem borrows_pure (a : α) : Borrows (pure a) memory a :=
  Client.ends_pure ⟨rfl, .refl memory⟩

theorem Looks.borrows (h : Looks action memory (.ok a)) : Borrows action memory a :=
  h.mono fun _ _ hended ↦ ⟨hended.1, hended.2.restores⟩

theorem Borrows.bind (h : Borrows action memory a)
    (hnext : ∀ after, memory.Restores after → Borrows (next a) after b) :
    Borrows (action >>= next) memory b := by
  refine Client.Ends.bind_of_ok h ?_
  rintro _ after ⟨rfl, hafter⟩
  refine ⟨a, rfl, (hnext after hafter).mono ?_⟩
  rintro result last ⟨hresult, hlast⟩
  exact ⟨hresult, hafter.trans hlast⟩

theorem Borrows.map (f : α → β) (h : Borrows action memory a) :
    Borrows (f <$> action) memory (f a) := by
  rw [map_eq_pure_bind]
  exact h.bind fun _ _ ↦ borrows_pure _

theorem Borrows.attempt (h : Borrows action memory a) :
    Borrows (Client.attempt action) memory (.ok a) := by
  refine Client.Ends.tryCatch (h.map Except.ok) ?_ ?_
  · exact fun _ _ hended ↦ hended
  · rintro failure after ⟨⟨⟩, -⟩

theorem Borrows.cleaning (cleanup : Client Memory Unit) (h : Borrows action memory a) :
    Borrows (Client.cleaning cleanup action) memory a := by
  refine Client.Ends.tryCatch h ?_ ?_
  · exact fun _ _ hended ↦ hended
  · rintro failure after ⟨⟨⟩, -⟩

/-- Going through a list, item by item. -/
theorem borrows_mapM {use : α → Client Memory β} {items : List α} {results : List β}
    (h : List.Forall₂ (fun item result ↦ ∀ after, memory.Restores after →
      Borrows (use item) after result) items results) :
    ∀ after, memory.Restores after → Borrows (items.mapM use) after results := by
  induction h with
  | nil => exact fun after _ ↦ borrows_pure []
  | cons hitem _ ih =>
    intro after hafter
    rw [List.mapM_cons]
    refine (hitem after hafter).bind fun next hnext ↦ ?_
    exact (ih next (hafter.trans hnext)).bind fun _ _ ↦ borrows_pure _

/-- New objects are held behind the next handles. -/
theorem forall₂_holds_pinAll (hrunning : memory.isShutDown = false)
    (objects : List ManagedObject) :
    List.Forall₂ (memory.pinAll objects).Holds
      (List.range' memory.nextHandle objects.length) objects := by
  have hlies := List.forall₂_eq_eq_eq ▸ map_object?_pinAll memory objects
  rw [List.forall₂_map_left_iff, List.forall₂_map_right_iff] at hlies
  refine hlies.imp fun _ _ hobject ↦ ⟨?_, hobject⟩
  rw [isShutDown_pinAll, hrunning]

/-- Handles in use are given up one after the other. -/
theorem runs_discardAll {handles : List Handle} (hrunning : memory.isShutDown = false)
    (hdistinct : handles.Nodup) (hused : ∀ handle ∈ handles, (memory.object? handle).isSome) :
    Client.Runs backend (Client.discardAll handles) memory (.ok ()) (memory.vacateAll handles) := by
  induction handles generalizing memory with
  | nil => exact Client.runs_pure ()
  | cons handle rest ih =>
    obtain ⟨hnew, hrest⟩ := List.nodup_cons.mp hdistinct
    obtain ⟨hfirst, hothers⟩ := List.forall_mem_cons.mp hused
    obtain ⟨object, hobject⟩ := Option.isSome_iff_exists.mp hfirst
    refine (runs_discard ⟨hrunning, hobject⟩).bind ?_
    refine @ih (memory.vacate handle) hrunning hrest fun other hmem ↦ ?_
    have hne : other ≠ handle := ne_of_mem_of_not_mem hmem hnew
    rw [object?_vacate_of_ne (ne_zero_of_object? hobject) hne]
    exact hothers other hmem

/-- New objects that are still there are given up together. -/
theorem ends_discardAll {objects : List ManagedObject} (hrunning : memory.isShutDown = false)
    (h : (memory.pinAll objects).Restores after) :
    Client.Ends backend (Client.discardAll (List.range' memory.nextHandle objects.length)) after
      fun result last ↦ result = .ok () ∧ memory.Restores last := by
  have hused : ∀ handle ∈ List.range' memory.nextHandle objects.length,
      (after.object? handle).isSome := by
    intro handle hmem
    have hlies := List.mem_map_of_mem hmem (f := (memory.pinAll objects).object?)
    rw [map_object?_pinAll, List.mem_map] at hlies
    obtain ⟨object, -, hobject⟩ := hlies
    rw [h.objects, ← hobject, Option.isSome_some]
  have hup : after.isShutDown = false := by
    rw [h.running, isShutDown_pinAll, hrunning]
  refine (runs_discardAll hup List.nodup_range' hused).mono ?_
  rintro result last ⟨rfl, rfl⟩
  exact ⟨rfl, h.vacateAll⟩

/-- Working with new objects and giving them up afterwards. -/
theorem Borrows.holdingAll {objects : List ManagedObject} (hrunning : memory.isShutDown = false)
    (h : Borrows action (memory.pinAll objects) a) :
    Client.Ends backend
      (Client.holdingAll (List.range' memory.nextHandle objects.length) action)
      (memory.pinAll objects) fun result after ↦ result = .ok a ∧ memory.Restores after := by
  refine Client.Ends.bind_of_ok (h.cleaning _) ?_
  rintro _ after ⟨rfl, hafter⟩
  refine ⟨a, rfl, (ends_discardAll hrunning hafter).bind_of_ok ?_⟩
  rintro _ last ⟨rfl, hlast⟩
  exact ⟨(), rfl, Client.ends_pure ⟨rfl, hlast⟩⟩

/-- Working with a new object and giving it up afterwards. -/
theorem Borrows.holding {object : ManagedObject} (hrunning : memory.isShutDown = false)
    (h : Borrows action (memory.pin object) a) :
    Client.Ends backend (Client.holding memory.nextHandle action) (memory.pin object)
      fun result after ↦ result = .ok a ∧ memory.Restores after := by
  refine Client.Ends.bind_of_ok (h.cleaning _) ?_
  rintro _ after ⟨rfl, hafter⟩
  refine ⟨a, rfl, (runs_discard (hafter.holds (holds_pin hrunning object))).bind ?_⟩
  exact Client.ends_pure ⟨rfl, hafter.vacate⟩

end Borrowing

end Memory

end ColumnStore
