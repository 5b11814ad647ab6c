import ColumnStore.Text.Dictionary
import Mathlib.Data.List.Induction
import Mathlib.Data.List.Perm.Basic

/-!
# Entries of dictionaries

The keys of a dictionary ascend, and setting or taking out an entry keeps it that way. So a key is
never there twice: an entry that is found is the one that is taken out with its key, and setting an
entry replaces that one entry and no other. `Dictionary.Gathers` says what becomes of a list of
entries, in whatever order and with whatever repetitions: each key once, in ascending order, with
its last item.
-/

set_option autoImplicit false

namespace ColumnStore

namespace Text

theorem compareLists_eq_compareLex {α : Type} (compareItems : α → α → Ordering) (xs ys : List α) :
    compareLists compareItems xs ys = List.compareLex compareItems xs ys := by
  induction xs generalizing ys with
  | nil => cases ys <;> rfl
  | cons x xs ih =>
    cases ys with
    | nil => rfl
    | cons y ys =>
      rw [compareLists, List.compareLex_cons_cons, ih]
      cases compareItems x y <;> rfl

instance : Std.TransCmp compareChars :=
  inferInstanceAs (Std.TransCmp (compareOn Char.toNat))

theorem compareTexts_eq_compareLex (first second : String) :
    compareTexts first second = List.compareLex compareChars first.toList second.toList :=
  compareLists_eq_compareLex compareChars first.toList second.toList

theorem compareTexts_trans {first second third : String} (h : compareTexts first second = .lt)
    (hnext : compareTexts second third = .lt) : compareTexts first third = .lt := by
  rw [compareTexts_eq_compareLex] at h hnext ⊢
  exact Std.TransCmp.lt_trans h hnext

theorem compareTexts_lt_of_gt {first second : String} (h : compareTexts first second = .gt) :
    compareTexts second first = .lt := by
  rw [compareTexts_eq_compareLex] at h ⊢
  exact Std.OrientedCmp.lt_of_gt h

theorem compareTexts_gt_of_lt {first second : String} (h : compareTexts first second = .lt) :
    compareTexts second first = .gt := by
  rw [compareTexts_eq_compareLex] at h ⊢
  exact Std.OrientedCmp.gt_of_lt h

theorem ne_of_compareTexts_lt {first second : String} (h : compareTexts first second = .lt) :
    first ≠ second := by
  rintro rfl
  rw [compareTexts_self] at h
  cases h

end Text

namespace Dictionary

variable {α : Type} {key : String} {item : α} {dictionary : Dictionary α}

/-- Every key comes before all those behind it. -/
def Ascending (dictionary : Dictionary α) : Prop :=
  dictionary.Pairwise fun entry other ↦ Text.compareTexts entry.1 other.1 = .lt

theorem ascending_nil : Ascending ([] : Dictionary α) := List.Pairwise.nil

/-- Keys that ascend are all different. -/
theorem Ascending.nodup (h : dictionary.Ascending) : (dictionary.map Prod.fst).Nodup :=
  List.pairwise_map.mpr (h.imp Text.ne_of_compareTexts_lt)

theorem ascending_erase (h : dictionary.Ascending) (key : String) :
    (dictionary.erase key).Ascending :=
  List.Pairwise.filter _ h

/-- A key that is not there is not taken out. -/
theorem erase_of_forall_ne (h : ∀ entry ∈ dictionary, entry.1 ≠ key) :
    dictionary.erase key = dictionary :=
  List.filter_eq_self.mpr fun entry hentry ↦ bne_iff_ne.mpr (h entry hentry)

/-- The first key is not there a second time. -/
theorem erase_cons_self {entry : String × α} (h : Ascending (entry :: dictionary)) :
    erase entry.1 (entry :: dictionary) = dictionary := by
  have hothers : ∀ other ∈ dictionary, other.1 ≠ entry.1 := fun other hother ↦
    (Text.ne_of_compareTexts_lt ((List.pairwise_cons.mp h).1 other hother)).symm
  have hfirst : erase entry.1 (entry :: dictionary) = erase entry.1 dictionary :=
    List.filter_cons_of_neg (by simp)
  rw [hfirst, erase_of_forall_ne hothers]

theorem erase_cons_of_ne {entry : String × α} (h : entry.1 ≠ key) :
    erase key (entry :: dictionary) = entry :: erase key dictionary :=
  List.filter_cons_of_pos (bne_iff_ne.mpr h)

theorem erase_of_get?_eq_none (h : dictionary.get? key = none) :
    dictionary.erase key = dictionary := by
  refine erase_of_forall_ne ?_
  induction dictionary with
  | nil => exact List.forall_mem_nil _
  | cons entry rest ih =>
    by_cases hkey : entry.1 = key
    · simp [get?, hkey] at h
    · rw [get?, if_neg hkey] at h
      exact List.forall_mem_cons.mpr ⟨hkey, ih h⟩

/-- The entry that is found is the only one with its key. -/
theorem perm_of_get? (h : dictionary.Ascending) (hget : dictionary.get? key = some item) :
    dictionary.Perm ((key, item) :: dictionary.erase key) := by
  induction dictionary with
  | nil => cases hget
  | cons entry rest ih =>
    by_cases hkey : entry.1 = key
    · subst hkey
      obtain rfl : entry.2 = item := by simpa [get?] using hget
      rw [erase_cons_self h]
    · rw [get?, if_neg hkey] at hget
      rw [erase_cons_of_ne hkey]
      exact ((ih (List.pairwise_cons.mp h).2 hget).cons entry).trans (List.Perm.swap _ _ _)

/-- Setting an entry replaces the one with its key. -/
theorem perm_insert (h : dictionary.Ascending) (key : String) (item : α) :
    (dictionary.insert key item).Perm ((key, item) :: dictionary.erase key) := by
  induction dictionary with
  | nil => exact List.Perm.refl _
  | cons entry rest ih =>
    obtain ⟨hfirst, hrest⟩ := List.pairwise_cons.mp h
    unfold insert
    split
    · rename_i horder
      have hothers : ∀ other ∈ entry :: rest, other.1 ≠ key := by
        refine List.forall_mem_cons.mpr ⟨(Text.ne_of_compareTexts_lt horder).symm, ?_⟩
        intro other hother
        exact (Text.ne_of_compareTexts_lt
          (Text.compareTexts_trans horder (hfirst other hother))).symm
      rw [erase_of_forall_ne hothers]
    · rename_i horder
      obtain rfl := Text.eq_of_compareTexts horder
      rw [erase_cons_self h]
    · rename_i horder
      rw [erase_cons_of_ne (Text.ne_of_compareTexts_lt (Text.compareTexts_lt_of_gt horder))]
      exact ((ih hrest).cons entry).trans (List.Perm.swap _ _ _)

theorem ascending_insert (h : dictionary.Ascending) (key : String) (item : α) :
    (dictionary.insert key item).Ascending := by
  induction dictionary with
  | nil => exact List.pairwise_singleton _ _
  | cons entry rest ih =>
    obtain ⟨hfirst, hrest⟩ := List.pairwise_cons.mp h
    unfold Dictionary.insert
    split
    · rename_i horder
      refine List.pairwise_cons.mpr ⟨List.forall_mem_cons.mpr ⟨horder, ?_⟩, h⟩
      exact fun other hother ↦ Text.compareTexts_trans horder (hfirst other hother)
    · rename_i horder
      obtain rfl := Text.eq_of_compareTexts horder
      exact List.pairwise_cons.mpr ⟨hfirst, hrest⟩
    · rename_i horder
      refine List.pairwise_cons.mpr ⟨fun other hother ↦ ?_, ih hrest⟩
      rcases List.mem_cons.mp ((perm_insert hrest key item).mem_iff.mp hother) with rfl | hmem
      · exact Text.compareTexts_lt_of_gt horder
      · exact hfirst other (List.mem_of_mem_filter hmem)

/-- A key that comes after all others is put at the end. -/
theorem insert_of_forall_lt (h : ∀ entry ∈ dictionary, Text.compareTexts entry.1 key = .lt) :
    dictionary.insert key item = dictionary ++ [(key, item)] := by
  induction dictionary with
  | nil => rfl
  | cons entry rest ih =>
    obtain ⟨hfirst, hrest⟩ := List.forall_mem_cons.mp h
    have horder : Text.compareTexts key entry.1 = .gt := Text.compareTexts_gt_of_lt hfirst
    simp only [insert, horder, ih hrest, List.cons_append]

/-! ### Entries gathered -/

/-- A dictionary holds each key of a list of entries once, with the item it has last. -/
structure Gathers (entries : List (String × α)) (dictionary : Dictionary α) : Prop where
  ascending : dictionary.Ascending
  keys : ∀ key, key ∈ dictionary.map Prod.fst ↔ key ∈ entries.map Prod.fst
  last : ∀ entry ∈ dictionary, ∃ earlier later,
    entries = earlier ++ entry :: later ∧ entry.1 ∉ later.map Prod.fst

variable {entries : List (String × α)}

theorem gathers_nil : Gathers ([] : List (String × α)) [] :=
  ⟨ascending_nil, fun _ ↦ Iff.rfl, List.forall_mem_nil _⟩

theorem Gathers.insert (h : Gathers entries dictionary) (key : String) (item : α) :
    Gathers (entries ++ [(key, item)]) (dictionary.insert key item) where
  ascending := ascending_insert h.ascending key item
  keys := by
    intro other
    have hperm := (perm_insert h.ascending key item).map Prod.fst
    rw [hperm.mem_iff, List.map_cons, List.map_append, List.mem_cons, List.mem_append, ← h.keys]
    by_cases hother : other = key <;> simp [erase, hother]
  last := by
    intro entry hentry
    rcases List.mem_cons.mp ((perm_insert h.ascending key item).mem_iff.mp hentry) with rfl | hold
    · exact ⟨entries, [], rfl, List.not_mem_nil⟩
    · obtain ⟨hmem, hne⟩ := List.mem_filter.mp hold
      obtain ⟨earlier, later, rfl, hlast⟩ := h.last entry hmem
      refine ⟨earlier, later ++ [(key, item)], by simp, ?_⟩
      simpa [hlast] using hne

/-- Later entries win. -/
theorem gathers_ofEntries (entries : List (String × α)) : Gathers entries (ofEntries entries) := by
  induction entries using List.reverseRecOn with
  | nil => exact gathers_nil
  | append_singleton entries entry ih =>
    rw [ofEntries, List.foldl_append]
    exact ih.insert entry.1 entry.2

/-- Entries in ascending order are left as they are. -/
theorem ofEntries_of_ascending (h : Ascending entries) : ofEntries entries = entries := by
  induction entries using List.reverseRecOn with
  | nil => rfl
  | append_singleton entries entry ih =>
    obtain ⟨hentries, -, hlast⟩ := List.pairwise_append.mp h
    have hbehind : ∀ other ∈ entries, Text.compareTexts other.1 entry.1 = .lt :=
      fun other hother ↦ hlast other hother entry (List.mem_singleton_self entry)
    rw [ofEntries, List.foldl_append]
    change Dictionary.insert entry.1 entry.2 (ofEntries entries) = _
    rw [ih hentries, insert_of_forall_lt hbehind]

/-! ### Items changed -/

variable {β : Type} (change : String → α → β)

/-- The items changed, each as its key asks for. -/
def mapItems (entries : List (String × α)) : List (String × β) :=
  entries.map fun entry ↦ (entry.1, change entry.1 entry.2)

theorem mapItems_insert (key : String) (item : α) (dictionary : Dictionary α) :
    mapItems change (dictionary.insert key item) =
      insert key (change key item) (mapItems change dictionary) := by
  induction dictionary with
  | nil => rfl
  | cons entry rest ih =>
    simp only [mapItems, insert, List.map_cons] at ih ⊢
    cases horder : Text.compareTexts key entry.1 with
    | lt => rfl
    | eq => rfl
    | gt => simp only [List.map_cons, ih]

theorem ofEntries_mapItems (entries : List (String × α)) :
    ofEntries (mapItems change entries) = mapItems change (ofEntries entries) := by
  induction entries using List.reverseRecOn with
  | nil => rfl
  | append_singleton entries entry ih =>
    rw [ofEntries, ofEntries, mapItems, List.map_append, List.foldl_append, List.foldl_append]
    change insert entry.1 (change entry.1 entry.2) (ofEntries (mapItems change entries)) =
      mapItems change (insert entry.1 entry.2 (ofEntries entries))
    rw [ih, mapItems_insert]

end Dictionary

end ColumnStore
