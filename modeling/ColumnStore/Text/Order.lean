/-!
# The order of texts

Texts are ordered by their characters, character by character, and characters by their code
points; a text comes before every longer text that begins with it.
-/

set_option autoImplicit false

namespace ColumnStore.Text

/-- Compares two rows of items, the first difference deciding; a proper beginning comes first. -/
def compareLists {α : Type} (compareItems : α → α → Ordering) : List α → List α → Ordering
  | [], [] => .eq
  | [], _ :: _ => .lt
  | _ :: _, [] => .gt
  | x :: xs, y :: ys =>
    match compareItems x y with
    | .eq => compareLists compareItems xs ys
    | order => order

/-- Compares two characters by code point. -/
def compareChars (c d : Char) : Ordering :=
  compare c.toNat d.toNat

/-- Compares two texts by code points. -/
def compareTexts (first second : String) : Ordering :=
  compareLists compareChars first.toList second.toList

theorem compareLists_self {α : Type} {compareItems : α → α → Ordering}
    (hself : ∀ x, compareItems x x = .eq) (xs : List α) :
    compareLists compareItems xs xs = .eq := by
  induction xs with
  | nil => rfl
  | cons x xs ih => simp [compareLists, hself x, ih]

theorem compareLists_swap {α : Type} {compareItems : α → α → Ordering}
    (hswap : ∀ x y, compareItems y x = (compareItems x y).swap) (xs ys : List α) :
    compareLists compareItems ys xs = (compareLists compareItems xs ys).swap := by
  induction xs generalizing ys with
  | nil => cases ys <;> rfl
  | cons x xs ih =>
    cases ys with
    | nil => rfl
    | cons y ys =>
      simp only [compareLists]
      rw [hswap x y]
      cases compareItems x y <;> simp [ih]

theorem eq_of_compareLists {α : Type} {compareItems : α → α → Ordering}
    (heq : ∀ x y, compareItems x y = .eq → x = y) {xs ys : List α}
    (h : compareLists compareItems xs ys = .eq) : xs = ys := by
  induction xs generalizing ys with
  | nil =>
    cases ys with
    | nil => rfl
    | cons y ys => simp [compareLists] at h
  | cons x xs ih =>
    cases ys with
    | nil => simp [compareLists] at h
    | cons y ys =>
      simp only [compareLists] at h
      cases hxy : compareItems x y with
      | eq => rw [hxy] at h; rw [heq x y hxy, ih h]
      | lt => rw [hxy] at h; simp at h
      | gt => rw [hxy] at h; simp at h

theorem compareChars_self (c : Char) : compareChars c c = .eq :=
  Nat.compare_eq_eq.mpr rfl

theorem eq_of_compareChars (c d : Char) (h : compareChars c d = .eq) : c = d :=
  Char.toNat_inj.mp (Nat.compare_eq_eq.mp h)

theorem compareTexts_self (text : String) : compareTexts text text = .eq :=
  compareLists_self compareChars_self text.toList

theorem eq_of_compareTexts {first second : String} (h : compareTexts first second = .eq) :
    first = second :=
  String.toList_injective (eq_of_compareLists eq_of_compareChars h)

end ColumnStore.Text
