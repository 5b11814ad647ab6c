import ColumnStore.Managed.Fault

/-!
# Faults that let calls fail

A fault stays planned for the same calls and with the same verdict, however often it has been due. A
backend behind faults that only let calls fail answers as the backend itself does, or it fails and
leaves the backend alone. By such faults any finite run of calls can be made to fail at any places.
-/

set_option autoImplicit false

namespace ColumnStore

namespace Fault

variable {className method : String} {faults earlier later : List Fault} {fault : Fault}

/-- What a fault is planned for, and how the calls end; not how often it is due. -/
def plan (fault : Fault) : String × Option String × Verdict :=
  (fault.method, fault.className, fault.verdict)

/-- The fault lets calls fail. -/
def Fails (fault : Fault) : Prop :=
  ∃ error, fault.verdict = .fails error

/-- The fault lets calls fail, and none by which a handle is given up. -/
def OnlyFails (fault : Fault) : Prop :=
  (∃ error, fault.verdict = .fails error) ∧ fault.method ≠ releaseName

theorem onlyFails_congr {other : Fault} (h : fault.plan = other.plan) :
    fault.OnlyFails ↔ other.OnlyFails := by
  obtain ⟨hmethod, hrest⟩ := Prod.mk.inj h
  obtain ⟨-, hverdict⟩ := Prod.mk.inj hrest
  unfold OnlyFails
  rw [hmethod, hverdict]

theorem fails_congr {other : Fault} (h : fault.plan = other.plan) : fault.Fails ↔ other.Fails := by
  have hverdict : fault.verdict = other.verdict := congrArg (·.2.2) h
  unfold Fails
  rw [hverdict]

/-- Faults with the same plans are alike in whatever depends on the plan only. -/
theorem forall_of_map_plan {property : Fault → Prop}
    (hproperty : ∀ {fault other : Fault}, fault.plan = other.plan →
      (property fault ↔ property other))
    (h : later.map plan = earlier.map plan) (hearlier : ∀ fault ∈ earlier, property fault) :
    ∀ fault ∈ later, property fault := by
  intro fault hfault
  have hplan : fault.plan ∈ earlier.map plan := h ▸ List.mem_map_of_mem hfault
  obtain ⟨other, hother, hsame⟩ := List.mem_map.mp hplan
  exact (hproperty hsame).mp (hearlier other hother)

theorem forall_onlyFails (h : later.map plan = earlier.map plan)
    (hearlier : ∀ fault ∈ earlier, fault.OnlyFails) : ∀ fault ∈ later, fault.OnlyFails :=
  forall_of_map_plan onlyFails_congr h hearlier

theorem forall_fails (h : later.map plan = earlier.map plan)
    (hearlier : ∀ fault ∈ earlier, fault.Fails) : ∀ fault ∈ later, fault.Fails :=
  forall_of_map_plan fails_congr h hearlier

/-- Looking for a fault changes no plan. -/
theorem map_plan_due (className method : String) (faults : List Fault) :
    (due className method faults).2.map plan = faults.map plan := by
  induction faults with
  | nil => rfl
  | cons fault faults ih =>
    unfold due
    split
    · rfl
    · rw [List.map_cons, List.map_cons, ih]
      congr 1
      split <;> rfl

/-- A fault that is due is planned for the call. -/
theorem exists_of_due {verdict : Verdict} (h : (due className method faults).1 = some verdict) :
    ∃ fault ∈ faults, fault.verdict = verdict ∧ fault.concerns className method = true := by
  induction faults with
  | nil => cases h
  | cons fault faults ih =>
    unfold due at h
    split at h
    · rename_i hdue
      simp only [Bool.and_eq_true] at hdue
      exact ⟨fault, List.mem_cons_self, Option.some.inj h, hdue.1.1⟩
    · obtain ⟨other, hother, hfound⟩ := ih h
      exact ⟨other, List.mem_cons_of_mem _ hother, hfound⟩

/-- No fault of this kind is due when a handle is given up. -/
theorem due_release (h : ∀ fault ∈ faults, fault.OnlyFails) :
    (due className releaseName faults).1 = none := by
  cases hdue : (due className releaseName faults).1 with
  | none => rfl
  | some verdict =>
    obtain ⟨fault, hfault, -, hconcerns⟩ := exists_of_due hdue
    simp only [concerns, Bool.and_eq_true, beq_iff_eq] at hconcerns
    exact absurd hconcerns.1 (h fault hfault).2

/-! ### Faults for given calls -/

/-- The verdicts on calls made one after the other, each named by its class and its method. -/
def verdicts (faults : List Fault) : List (String × String) → List (Option Verdict)
  | [] => []
  | call :: calls =>
    (due call.1 call.2 faults).1 :: verdicts (due call.1 call.2 faults).2 calls

/-- The fault is due one call later. -/
def postpone (className method : String) (fault : Fault) : Fault :=
  if fault.concerns className method then { fault with skip := fault.skip + 1 } else fault

theorem plan_postpone (className method : String) (fault : Fault) :
    (fault.postpone className method).plan = fault.plan := by
  unfold postpone
  split <;> rfl

/-- Faults that are postponed let the call through and are then what they were. -/
theorem due_postpone (className method : String) (faults : List Fault) :
    due className method (faults.map (postpone className method)) = (none, faults) := by
  induction faults with
  | nil => rfl
  | cons fault faults ih =>
    by_cases hconcerns : fault.concerns className method = true
    · have hlater : ({ fault with skip := fault.skip + 1 } : Fault).concerns className method =
          true := hconcerns
      rw [List.map_cons, postpone, if_pos hconcerns, due, ih]
      simp [hlater]
    · rw [List.map_cons, postpone, if_neg hconcerns, due, ih]
      simp [hconcerns]

/-- A fault that is not due any more does not matter. -/
theorem verdicts_cons_of_spent (h : fault.times = 0) (calls : List (String × String)) :
    verdicts (fault :: faults) calls = verdicts faults calls := by
  induction calls generalizing fault faults with
  | nil => rfl
  | cons call calls ih =>
    have hdue : ∃ left : Fault, left.times = 0 ∧ due call.1 call.2 (fault :: faults) =
        ((due call.1 call.2 faults).1, left :: (due call.1 call.2 faults).2) := by
      rw [due, if_neg (by simp [h])]
      refine ⟨_, ?_, rfl⟩
      split <;> exact h
    obtain ⟨left, hleft, hdue⟩ := hdue
    rw [verdicts, verdicts, hdue, ih hleft]

/-- Any calls can be made to fail at any places, but for those that give up handles. -/
theorem exists_verdicts_eq (schedule : List ((String × String) × Option CallError))
    (hrelease : ∀ entry ∈ schedule, entry.1.2 = releaseName → entry.2 = none) :
    ∃ faults, (∀ fault ∈ faults, fault.OnlyFails) ∧
      verdicts faults (schedule.map Prod.fst) =
        schedule.map fun entry ↦ entry.2.map Verdict.fails := by
  induction schedule with
  | nil => exact ⟨[], List.forall_mem_nil _, rfl⟩
  | cons entry schedule ih =>
    obtain ⟨hfirst, hrest⟩ := List.forall_mem_cons.mp hrelease
    obtain ⟨faults, honly, hverdicts⟩ := ih hrest
    obtain ⟨⟨className, method⟩, _ | error⟩ := entry
    · refine ⟨faults.map (postpone className method), ?_, ?_⟩
      · intro fault hfault
        obtain ⟨other, hother, rfl⟩ := List.mem_map.mp hfault
        exact (onlyFails_congr (plan_postpone className method other)).mpr (honly other hother)
      · rw [List.map_cons, List.map_cons, verdicts, due_postpone, hverdicts]
        rfl
    · have hmethod : method ≠ releaseName := fun heq ↦ by cases hfirst heq
      let once : Fault := ⟨method, none, 0, 1, .fails error⟩
      have hdue : due className method (once :: faults) =
          (some (.fails error), { once with times := 0 } :: faults) := by
        rw [due, if_pos (by simp [once, concerns])]
        rfl
      refine ⟨once :: faults, List.forall_mem_cons.mpr ⟨⟨⟨error, rfl⟩, hmethod⟩, honly⟩, ?_⟩
      rw [List.map_cons, List.map_cons, verdicts, hdue, verdicts_cons_of_spent rfl, hverdicts]
      rfl

end Fault

/-! ### Backends behind faults -/

namespace Faulty

variable {σ α : Type} {className method : String} {planned : Returned → Except CallError α}
  {call : σ → Reply σ α} {state : Faulty σ}

/-- A backend behind the same plans answers a call, or the call fails before it takes effect. -/
theorem guard_cases (h : ∀ fault ∈ state.faults, fault.Fails) :
    (guard className method planned call state).state.faults.map Fault.plan =
        state.faults.map Fault.plan ∧
      ((∃ error, (guard className method planned call state).outcome = .failed error ∧
          (guard className method planned call state).state.inner = state.inner) ∨
        (guard className method planned call state).outcome = (call state.inner).outcome ∧
          (guard className method planned call state).state.inner = (call state.inner).state) := by
  obtain ⟨faults, inner⟩ := state
  have hplans := Fault.map_plan_due className method faults
  have hfound : ∀ verdict, (Fault.due className method faults).1 = some verdict →
      ∃ error, verdict = .fails error := by
    intro verdict hdue
    obtain ⟨fault, hfault, rfl, -⟩ := Fault.exists_of_due hdue
    exact h fault hfault
  unfold guard
  dsimp only
  rcases hdue : Fault.due className method faults with ⟨_ | verdict, left⟩
  · rw [hdue] at hplans
    exact ⟨hplans, .inr ⟨rfl, rfl⟩⟩
  · rw [hdue] at hplans hfound
    obtain ⟨error, rfl⟩ := hfound verdict rfl
    exact ⟨hplans, .inl ⟨error, rfl, rfl⟩⟩

/-- Giving up a handle is always left to the backend. -/
theorem guard_release (h : ∀ fault ∈ state.faults, fault.OnlyFails) :
    (guard className releaseName planned call state).outcome = (call state.inner).outcome ∧
      (guard className releaseName planned call state).state.inner = (call state.inner).state := by
  obtain ⟨faults, inner⟩ := state
  have hnone := @Fault.due_release className faults h
  unfold guard
  dsimp only
  rcases hdue : Fault.due className releaseName faults with ⟨_ | verdict, left⟩
  · exact ⟨rfl, rfl⟩
  · rw [hdue] at hnone
    cases hnone

end Faulty

end ColumnStore
