import Mathlib.Data.List.Forall2

/-!
# Going through a list

A list is gone through with a function that may fail, and the results are those of its items, in
order, if the function fails for none of them.
-/

set_option autoImplicit false

namespace ColumnStore

variable {α β ε : Type}

/-- Two steps succeed if the first one does and the second one does with its result. -/
theorem bind_eq_ok_iff {action : Except ε α} {next : α → Except ε β} {result : β} :
    (action >>= next) = .ok result ↔ ∃ a, action = .ok a ∧ next a = .ok result := by
  cases action <;> simp [bind, Except.bind]

theorem mapM_eq_some_iff {f : α → Option β} {items : List α} {results : List β} :
    items.mapM f = some results ↔ List.Forall₂ (fun item result ↦ f item = some result) items
      results := by
  induction items generalizing results with
  | nil => cases results <;> simp
  | cons item items ih =>
    rw [List.mapM_cons, List.forall₂_cons_left_iff]
    cases hitem : f item with
    | none => simp
    | some result =>
      cases hitems : items.mapM f with
      | none =>
        have hnone : ∀ rest, ¬ List.Forall₂ (fun item result ↦ f item = some result) items rest :=
          fun rest hrest ↦ by simp [ih.mpr hrest] at hitems
        simp [hnone]
      | some rest =>
        have hrest : ∀ other, List.Forall₂ (fun item result ↦ f item = some result) items other ↔
            rest = other := fun other ↦ by rw [← ih, hitems, Option.some.injEq]
        simp [hrest, eq_comm]

/-- If there is a result for each item, there is a list of them. -/
theorem exists_forall₂ {R : α → β → Prop} {items : List α}
    (h : ∀ item ∈ items, ∃ result, R item result) :
    ∃ results, List.Forall₂ R items results := by
  induction items with
  | nil => exact ⟨[], .nil⟩
  | cons item items ih =>
    obtain ⟨⟨result, hresult⟩, hitems⟩ := List.forall_mem_cons.mp h
    obtain ⟨results, hresults⟩ := ih hitems
    exact ⟨result :: results, .cons hresult hresults⟩

/-- A function that fails for no item fails for no list of them. -/
theorem exists_mapM_eq_some {f : α → Option β} {items : List α}
    (h : ∀ item ∈ items, ∃ result, f item = some result) :
    ∃ results, items.mapM f = some results :=
  (exists_forall₂ h).imp fun _ ↦ mapM_eq_some_iff.mpr

theorem mapM_eq_ok_iff {f : α → Except ε β} {items : List α} {results : List β} :
    items.mapM f = .ok results ↔ List.Forall₂ (fun item result ↦ f item = .ok result) items
      results := by
  induction items generalizing results with
  | nil => cases results <;> simp [pure, Except.pure]
  | cons item items ih =>
    rw [List.mapM_cons, List.forall₂_cons_left_iff]
    cases hitem : f item with
    | error error => simp [bind, Except.bind]
    | ok result =>
      cases hitems : items.mapM f with
      | error error =>
        have hnone : ∀ rest, ¬ List.Forall₂ (fun item result ↦ f item = .ok result) items rest :=
          fun rest hrest ↦ by simp [ih.mpr hrest] at hitems
        simp [bind, Except.bind, hnone]
      | ok rest =>
        have hrest : ∀ other, List.Forall₂ (fun item result ↦ f item = .ok result) items other ↔
            rest = other := fun other ↦ by rw [← ih, hitems, Except.ok.injEq]
        simp [bind, Except.bind, pure, Except.pure, hrest, eq_comm]

/-- Every result belongs to an item. -/
theorem exists_of_mem_forall₂ {R : α → β → Prop} {items : List α} {results : List β} {result : β}
    (h : List.Forall₂ R items results) (hmem : result ∈ results) :
    ∃ item ∈ items, R item result := by
  induction h with
  | nil => cases hmem
  | cons hitem _ ih =>
    rcases List.mem_cons.mp hmem with rfl | hrest
    · exact ⟨_, List.mem_cons_self, hitem⟩
    · obtain ⟨item, hitems, hR⟩ := ih hrest
      exact ⟨item, List.mem_cons_of_mem _ hitems, hR⟩

/-- Every item has a result, at the same place. -/
theorem getElem?_of_forall₂ {R : α → β → Prop} {items : List α} {results : List β} {place : Nat}
    {item : α} (h : List.Forall₂ R items results) (hitem : items[place]? = some item) :
    ∃ result, results[place]? = some result ∧ R item result := by
  induction h generalizing place with
  | nil => cases hitem
  | cons hfirst _ ih =>
    cases place with
    | zero =>
      cases hitem
      exact ⟨_, rfl, hfirst⟩
    | succ place => exact ih hitem

/-- A function that fails for an item fails for every list with it. -/
theorem mapM_eq_none {f : α → Option β} {items : List α} {item : α} (hmem : item ∈ items)
    (hitem : f item = none) : items.mapM f = none := by
  rw [Option.eq_none_iff_forall_ne_some]
  intro results hresults
  obtain ⟨place, hplace⟩ := List.mem_iff_getElem?.mp hmem
  obtain ⟨result, -, hresult⟩ := getElem?_of_forall₂ (mapM_eq_some_iff.mp hresults) hplace
  rw [hitem] at hresult
  cases hresult

/-- If an item is replaced by one that a result stands for, so is its own result. -/
theorem forall₂_replace {R : α → β → Prop} {before after : List α} {item other : α}
    {results : List β} {result : β} (h : List.Forall₂ R (before ++ item :: after) results)
    (hother : R other result) :
    List.Forall₂ R (before ++ other :: after) (results.set before.length result) := by
  induction before generalizing results with
  | nil =>
    obtain ⟨own, rest, -, hrest, rfl⟩ := List.forall₂_cons_left_iff.mp h
    exact .cons hother hrest
  | cons first before ih =>
    obtain ⟨firstResult, rest, hfirst, hrest, rfl⟩ := List.forall₂_cons_left_iff.mp h
    exact .cons hfirst (ih hrest)

/-- A list is gone through up to the first item that the function fails for. -/
theorem mapM_eq_error {f : α → Except ε β} {before after : List α} {item : α} {error : ε}
    (hbefore : ∀ earlier ∈ before, ∃ result, f earlier = .ok result)
    (hitem : f item = .error error) : (before ++ item :: after).mapM f = .error error := by
  induction before with
  | nil =>
    rw [List.nil_append, List.mapM_cons, hitem]
    rfl
  | cons first before ih =>
    obtain ⟨⟨result, hresult⟩, hrest⟩ := List.forall_mem_cons.mp hbefore
    rw [List.cons_append, List.mapM_cons, hresult, ih hrest]
    rfl

/-- This is what it takes for a list not to be gone through. -/
theorem mapM_eq_error_iff {f : α → Except ε β} {items : List α} {error : ε} :
    items.mapM f = .error error ↔ ∃ before item after, items = before ++ item :: after ∧
      (∀ earlier ∈ before, ∃ result, f earlier = .ok result) ∧ f item = .error error := by
  constructor
  · intro h
    induction items with
    | nil => cases h
    | cons item items ih =>
      rw [List.mapM_cons] at h
      cases hitem : f item with
      | error own =>
        rw [hitem] at h
        cases h
        exact ⟨[], item, items, rfl, List.forall_mem_nil _, hitem⟩
      | ok result =>
        cases hitems : items.mapM f with
        | ok results => simp [hitem, hitems, bind, Except.bind, pure, Except.pure] at h
        | error own =>
          rw [hitem, hitems] at h
          cases h
          obtain ⟨before, failing, after, rfl, hbefore, hfailing⟩ := ih hitems
          refine ⟨item :: before, failing, after, rfl, ?_, hfailing⟩
          exact List.forall_mem_cons.mpr ⟨⟨result, hitem⟩, hbefore⟩
  · rintro ⟨before, item, after, rfl, hbefore, hitem⟩
    exact mapM_eq_error hbefore hitem

/-- Pairs that stand for results are second parts that stand for them. -/
theorem forall₂_of_zip {γ : Type} {R : α × β → γ → Prop} {first : List α} {second : List β}
    {results : List γ} (hlength : first.length = second.length)
    (h : List.Forall₂ R (first.zip second) results) :
    List.Forall₂ (fun item result ↦ ∃ other, R (other, item) result) second results := by
  induction first generalizing second results with
  | nil =>
    cases second with
    | nil => cases h; exact .nil
    | cons item second => simp at hlength
  | cons other first ih =>
    cases second with
    | nil => simp at hlength
    | cons item second =>
      cases h with
      | cons hitem hrest => exact .cons ⟨other, hitem⟩ (ih (Nat.succ.inj hlength) hrest)

end ColumnStore
