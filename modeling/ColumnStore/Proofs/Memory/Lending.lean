import ColumnStore.Proofs.Memory.Borrowing

/-!
# Objects that are lent

The backend has lent an object if it would be as before without it. What is done to the object, or
beside it as long as everything is given back, changes nothing about that, and once the object is
given up nothing is left of it. A builder that is finished is lent no longer; what it built is lent
in its place.
-/

set_option autoImplicit false

namespace ColumnStore.Memory

/-- The object lies behind its handle, and without it everything is as before. -/
structure Lends (before : Memory) (handle : Handle) (object : ManagedObject) (after : Memory) :
    Prop where
  held : after.Holds handle object
  without : before.Restores (after.vacate handle)

variable {before middle after : Memory} {handle : Nat} {old new object : ManagedObject}

theorem object?_vacate (hzero : handle ≠ 0) (memory : Memory) (other : Nat) :
    (memory.vacate handle).object? other =
      if other = handle then none else memory.object? other := by
  by_cases hother : other = handle
  · rw [if_pos hother, hother, object?_vacate_self]
  · rw [if_neg hother, object?_vacate_of_ne hzero hother]

theorem Restores.of_vacate (h : before.Restores after) (hzero : handle ≠ 0) :
    (before.vacate handle).Restores (after.vacate handle) where
  objects := by
    funext other
    rw [object?_vacate hzero, object?_vacate hzero, h.objects]
  commits := h.commits
  running := h.running

theorem restores_receiving (memory : Memory) (path : String) (entries : List (String × String)) :
    memory.Restores (memory.receiving path entries) := ⟨rfl, rfl, rfl⟩

/-- A new object is lent. -/
theorem lends_pin (hrunning : before.isShutDown = false) (object : ManagedObject) :
    before.Lends before.nextHandle object (before.pin object) :=
  ⟨holds_pin hrunning object, Restores.vacate (.refl _)⟩

theorem Lends.commits_eq (h : before.Lends handle object after) :
    after.store.commits = before.store.commits :=
  h.without.commits

/-- What was given back before an object is lent does not matter. -/
theorem Restores.lends (hfirst : before.Restores middle) (h : middle.Lends handle object after) :
    before.Lends handle object after :=
  ⟨h.held, hfirst.trans h.without⟩

/-- What is given back beside an object that is lent does not matter. -/
theorem Lends.restores {last : Memory} (h : before.Lends handle object after)
    (hlast : after.Restores last) : before.Lends handle object last :=
  ⟨hlast.holds h.held, h.without.trans (hlast.of_vacate (ne_zero_of_object? h.held.object))⟩

theorem Lends.counting (h : before.Lends handle object after) (method : Method) :
    before.Lends handle object (after.counting method) :=
  h.restores (restores_counting after method)

/-- An object that is lent may change. -/
theorem Lends.put (h : before.Lends handle old after) (new : ManagedObject) :
    before.Lends handle new (after.put handle new) where
  held := h.held.put new
  without := by
    have hzero := ne_zero_of_object? h.held.object
    refine h.without.trans ⟨?_, rfl, rfl⟩
    funext other
    rw [object?_vacate hzero, object?_vacate hzero]
    by_cases hother : other = handle
    · rw [if_pos hother, if_pos hother]
    · rw [if_neg hother, if_neg hother, object?_put_of_ne hzero hother]

/-- A new object takes the place of one that is given up. -/
theorem Lends.replace (h : before.Lends handle old after) (new : ManagedObject) :
    before.Lends after.nextHandle new ((after.pin new).vacate handle) := by
  have hzero := ne_zero_of_object? h.held.object
  have hlt := lt_nextHandle_of_object? h.held.object
  have hnew : after.nextHandle ≠ 0 := Nat.succ_ne_zero _
  refine ⟨⟨h.held.running, ?_⟩, ?_⟩
  · rw [object?_vacate_of_ne hzero (Nat.ne_of_gt hlt)]
    exact object?_pin_new after new
  · have hgone : after.Restores ((after.pin new).vacate after.nextHandle) :=
      Restores.vacate (.refl _)
    refine h.without.trans ⟨?_, rfl, rfl⟩
    funext other
    rw [object?_vacate hnew, object?_vacate hzero, object?_vacate hzero]
    have hsame : (if other = after.nextHandle then none else (after.pin new).object? other) =
        after.object? other :=
      (object?_vacate hnew _ other).symm.trans (congrFun hgone.objects other)
    by_cases hother : other = handle
    · rw [if_pos hother, if_pos hother, ite_self]
    · rw [if_neg hother, if_neg hother, hsame]

/-- Once the object is given up, nothing is left of it. -/
theorem Lends.ends_discard (h : before.Lends handle object after) :
    Client.Ends backend (Client.discard handle) after fun result last ↦
      result = .ok () ∧ before.Restores last := by
  refine (Memory.runs_discard h.held).mono ?_
  rintro result last ⟨rfl, rfl⟩
  exact ⟨rfl, h.without⟩

end ColumnStore.Memory
