import ColumnStore.Proofs.Value.Sorting
import Mathlib.Data.List.Sort

/-!
# The order in which rows are sorted

`Value.Precedes` says which values come before which in a column, in the words of the column types
and not of the comparison that sorts them: null before everything, numbers, days and moments by
size, `false` before `true`, texts by their code points and arrays by the code points of their
cells. Rows are preceded lexicographically, by the columns in the order in which they are given.

`Row.isStableSort_sortRows` is the specification of `Row.sortRows`: it rearranges the rows so that
none comes before one that precedes it, and rows that tie in all columns keep their order.
-/

set_option autoImplicit false

namespace ColumnStore

/-! ### Texts -/

/-- The code points of a text. -/
def Text.codePoints (text : String) : List Nat :=
  text.toList.map Char.toNat

theorem Text.compareLists_chars_eq_lt_iff (xs ys : List Char) :
    compareLists compareChars xs ys = .lt ↔ xs.map Char.toNat < ys.map Char.toNat := by
  induction xs generalizing ys with
  | nil => cases ys <;> simp [compareLists]
  | cons x xs ih =>
    cases ys with
    | nil => simp [compareLists]
    | cons y ys =>
      rw [List.map_cons, List.map_cons, List.cons_lt_cons_iff, ← ih ys]
      rcases Nat.lt_trichotomy x.toNat y.toNat with hlt | heq | hgt
      · have hchars : compareChars x y = .lt := Nat.compare_eq_lt.mpr hlt
        simp [compareLists, hchars, hlt]
      · have hchars : compareChars x y = .eq := Nat.compare_eq_eq.mpr heq
        simp [compareLists, hchars, heq]
      · have hchars : compareChars x y = .gt := Nat.compare_eq_gt.mpr hgt
        simp [compareLists, hchars, Nat.lt_asymm hgt, Nat.ne_of_gt hgt]

/-- Texts are compared by their code points, the first difference deciding. -/
theorem Text.compareTexts_eq_lt_iff {first last : String} :
    compareTexts first last = .lt ↔ codePoints first < codePoints last :=
  compareLists_chars_eq_lt_iff first.toList last.toList

/-! ### Values -/

namespace Value

/-- The first value comes before the last one in a column that is sorted. -/
inductive Precedes : Value → Value → Prop
  | null {value : Value} (h : value ≠ .null) : Precedes .null value
  | short {m n : Int16} (h : m.toInt < n.toInt) : Precedes (.short m) (.short n)
  | int {m n : Int32} (h : m.toInt < n.toInt) : Precedes (.int m) (.int n)
  | long {m n : Int64} (h : m.toInt < n.toInt) : Precedes (.long m) (.long n)
  | date {m n : Int32} (h : m.toInt < n.toInt) : Precedes (.date m) (.date n)
  | timestamp {m n : Int64} (h : m.toInt < n.toInt) : Precedes (.timestamp m) (.timestamp n)
  | boolean : Precedes (.boolean false) (.boolean true)
  | string {s t : String} (h : Text.codePoints s < Text.codePoints t) :
      Precedes (.string s) (.string t)
  | varchar {s t : String} (h : Text.codePoints s < Text.codePoints t) :
      Precedes (.varchar s) (.varchar t)
  | array {xs ys : List Value}
      (h : Text.codePoints (cell (.array xs)) < Text.codePoints (cell (.array ys))) :
      Precedes (.array xs) (.array ys)

/-- Neither of two values comes before the other one. -/
def Ties (first last : Value) : Prop :=
  ¬ Precedes first last ∧ ¬ Precedes last first

end Value

/-- Columns of this type are sorted by what their cells say: the type is neither a floating-point
type nor the type of decimals, which are sorted as floating-point numbers. -/
def DataType.SortsExactly (type : DataType) : Prop :=
  type ≠ .float ∧ type ≠ .double ∧ type ≠ .decimal

namespace Value

variable {type : DataType} {first last : Value}

/-- Between two values of one type, other than null, the comparison is that of the type. -/
theorem compare_eq_lt_iff_of_dataType? (hsorts : type.SortsExactly)
    (h : first.dataType? = some type) (h' : last.dataType? = some type) :
    compare first last = .lt ↔ Precedes first last := by
  obtain ⟨hfloat, hdouble, hdecimal⟩ := hsorts
  cases type
  case float => exact absurd rfl hfloat
  case double => exact absurd rfl hdouble
  case decimal => exact absurd rfl hdecimal
  all_goals
    cases first <;> cases h
    cases last <;> cases h'
  case short m n => exact Std.compare_eq_lt.trans ⟨.short, fun | .short h => h⟩
  case int m n => exact Std.compare_eq_lt.trans ⟨.int, fun | .int h => h⟩
  case long m n => exact Std.compare_eq_lt.trans ⟨.long, fun | .long h => h⟩
  case date m n => exact Std.compare_eq_lt.trans ⟨.date, fun | .date h => h⟩
  case timestamp m n => exact Std.compare_eq_lt.trans ⟨.timestamp, fun | .timestamp h => h⟩
  case string s t => exact Text.compareTexts_eq_lt_iff.trans ⟨.string, fun | .string h => h⟩
  case varchar s t => exact Text.compareTexts_eq_lt_iff.trans ⟨.varchar, fun | .varchar h => h⟩
  case array xs ys => exact Text.compareTexts_eq_lt_iff.trans ⟨.array, fun | .array h => h⟩
  case boolean b c =>
    cases b <;> cases c
    case false.true => exact ⟨fun _ ↦ .boolean, fun _ ↦ rfl⟩
    all_goals exact ⟨nofun, nofun⟩

theorem compare_null_eq_lt_iff : compare null last = .lt ↔ Precedes null last := by
  cases last
  case null => exact ⟨nofun, fun | .null h => absurd rfl h⟩
  all_goals exact ⟨fun _ ↦ .null nofun, fun _ ↦ rfl⟩

/-- No value comes before null. -/
theorem compare_null_right_ne_lt (value : Value) : compare value null ≠ .lt := by
  cases value <;> nofun

theorem not_precedes_null (value : Value) : ¬ Precedes value null := by
  rintro (h | _)
  exact h rfl

/-- In a column that sorts exactly the comparison puts first what precedes. -/
theorem compare_eq_lt_iff (hsorts : type.SortsExactly) (h : IsOf type first)
    (h' : IsOf type last) : compare first last = .lt ↔ Precedes first last := by
  rcases h with rfl | ⟨htype, -⟩
  · exact compare_null_eq_lt_iff
  · rcases h' with rfl | ⟨htype', -⟩
    · exact iff_of_false (compare_null_right_ne_lt first) (not_precedes_null first)
    · exact compare_eq_lt_iff_of_dataType? hsorts htype htype'

theorem compare_eq_eq_iff (hsorts : type.SortsExactly) (h : IsOf type first)
    (h' : IsOf type last) : compare first last = .eq ↔ Ties first last := by
  have hswap := (ordersOn_isOf hsorts.1 hsorts.2.1).swap h h'
  unfold Ties
  rw [← compare_eq_lt_iff hsorts h h', ← compare_eq_lt_iff hsorts h' h]
  cases hback : compare last first <;> simp [hback] at hswap <;> simp [hswap]

end Value

/-! ### Rows -/

namespace Row

/-- The first row comes before the last one when rows are sorted by the positions: it does so at the
first position at which the rows do not tie. -/
def Precedes : List Nat → Row → Row → Prop
  | [], _, _ => False
  | position :: rest, first, last =>
    Value.Precedes (first.valueAt position) (last.valueAt position) ∨
      Value.Ties (first.valueAt position) (last.valueAt position) ∧ Precedes rest first last

/-- The rows tie at all of the positions. -/
def Ties (positions : List Nat) (first last : Row) : Prop :=
  ∀ position ∈ positions, Value.Ties (first.valueAt position) (last.valueAt position)

/-- At each of the positions both rows hold a value of one type that is sorted exactly. -/
def Comparable (positions : List Nat) (first last : Row) : Prop :=
  ∀ position ∈ positions, ∃ type : DataType, type.SortsExactly ∧
    Value.IsOf type (first.valueAt position) ∧ Value.IsOf type (last.valueAt position)

variable {positions : List Nat} {first last : Row}

theorem compareAt_cons (position : Nat) (rest : List Nat) (first last : Row) :
    compareAt (position :: rest) first last =
      ((first.valueAt position).compare (last.valueAt position)).then
        (compareAt rest first last) := by
  rw [compareAt]
  cases (first.valueAt position).compare (last.valueAt position) <;> rfl

/-- Rows are compared by the positions as they precede each other. -/
theorem compareAt_eq_lt_iff (h : Comparable positions first last) :
    compareAt positions first last = .lt ↔ Precedes positions first last := by
  induction positions with
  | nil => exact ⟨nofun, nofun⟩
  | cons position rest ih =>
    obtain ⟨hposition, hrest⟩ := List.forall_mem_cons.mp h
    obtain ⟨type, hsorts, hfirst, hlast⟩ := hposition
    rw [compareAt_cons, Ordering.then_eq_lt, Value.compare_eq_lt_iff hsorts hfirst hlast,
      Value.compare_eq_eq_iff hsorts hfirst hlast, ih hrest]
    rfl

theorem compareAt_eq_eq_iff (h : Comparable positions first last) :
    compareAt positions first last = .eq ↔ Ties positions first last := by
  induction positions with
  | nil => exact ⟨fun _ ↦ nofun, fun _ ↦ rfl⟩
  | cons position rest ih =>
    obtain ⟨hposition, hrest⟩ := List.forall_mem_cons.mp h
    obtain ⟨type, hsorts, hfirst, hlast⟩ := hposition
    rw [compareAt_cons, Ordering.then_eq_eq, Value.compare_eq_eq_iff hsorts hfirst hlast,
      ih hrest]
    exact (List.forall_mem_cons (p := fun position ↦
      Value.Ties (first.valueAt position) (last.valueAt position))).symm

end Row

/-! ### Sorting -/

/-- A list is a stable sort of another one: a rearrangement in which everything precedes what comes
later or ties with it, and in which what ties keeps its order. -/
structure IsStableSort {α : Type} (precedes ties : α → α → Prop) (given sorted : List α) :
    Prop where
  perm : sorted.Perm given
  ordered : sorted.Pairwise fun earlier later ↦ precedes earlier later ∨ ties earlier later
  stable : ∀ alike : List α, alike.Sublist given → alike.Pairwise ties → alike.Sublist sorted

namespace Row

variable {positions : List Nat} {rows : List Row} {holds : Row → Prop}

/-- The first row need not come before the last one. -/
def MayFollow (positions : List Nat) (first last : Row) : Prop :=
  compareAt positions first last ≠ .lt

instance (positions : List Nat) : DecidableRel (MayFollow positions) :=
  fun _ _ ↦ inferInstanceAs (Decidable (_ ≠ _))

theorem insertDescending_eq_orderedInsert (row : Row) (rows : List Row) :
    insertDescending positions row rows = rows.orderedInsert (MayFollow positions) row := by
  induction rows with
  | nil => rfl
  | cons top rest ih =>
    rw [insertDescending, List.orderedInsert_cons, ih]
    by_cases hfollows : MayFollow positions row top
    · rw [if_neg hfollows, if_pos hfollows]
    · rw [if_pos (not_not.mp hfollows), if_neg hfollows]

/-- Rows are sorted by inserting them into descending rows, the last one of them first in a
tie. -/
theorem sortRows_eq_insertionSort (positions : List Nat) (rows : List Row) :
    sortRows positions rows = (rows.reverse.insertionSort (MayFollow positions)).reverse := by
  unfold sortRows List.insertionSort
  rw [List.foldr_reverse]
  simp only [insertDescending_eq_orderedInsert]

/-- Without positions nothing is sorted. -/
theorem sortRows_nil (rows : List Row) : sortRows [] rows = rows := by
  have hinserted : ∀ rows : List Row, rows.insertionSort (MayFollow []) = rows := by
    intro rows
    induction rows with
    | nil => rfl
    | cons row rows ih =>
      rw [List.insertionSort_cons, ih]
      cases rows <;> rfl
  rw [sortRows_eq_insertionSort, hinserted, List.reverse_reverse]

/-- Of two rows on which the comparison is an order, one may follow the other if it is not smaller.
-/
theorem mayFollow_iff (horder : OrdersOn (compareAt positions) holds) {first last : Row}
    (hfirst : holds first) (hlast : holds last) :
    MayFollow positions first last ↔ (compareAt positions last first).isLE := by
  unfold MayFollow
  rw [horder.swap hfirst hlast]
  cases compareAt positions last first <;> decide

/-- `MayFollow` among the rows on which the comparison is an order. -/
def FollowsAmong (holds : Row → Prop) (positions : List Nat) (first last : {row // holds row}) :
    Prop :=
  MayFollow positions first.1 last.1

instance (holds : Row → Prop) (positions : List Nat) :
    DecidableRel (FollowsAmong holds positions) :=
  fun _ _ ↦ inferInstanceAs (Decidable (MayFollow _ _ _))

theorem total_followsAmong (horder : OrdersOn (compareAt positions) holds) :
    Std.Total (FollowsAmong holds positions) := by
  refine ⟨fun first last ↦ ?_⟩
  unfold FollowsAmong
  rw [mayFollow_iff horder first.2 last.2, mayFollow_iff horder last.2 first.2,
    horder.swap last.2 first.2]
  cases compareAt positions first.1 last.1 <;> decide

theorem isTrans_followsAmong (horder : OrdersOn (compareAt positions) holds) :
    IsTrans _ (FollowsAmong holds positions) := by
  refine ⟨fun first middle last hbefore hafter ↦ ?_⟩
  unfold FollowsAmong at hbefore hafter ⊢
  rw [mayFollow_iff horder first.2 middle.2] at hbefore
  rw [mayFollow_iff horder middle.2 last.2] at hafter
  rw [mayFollow_iff horder first.2 last.2]
  exact horder.isLE_trans last.2 middle.2 first.2 hafter hbefore

/-- Where the comparison is an order, sorted rows are in this order. -/
theorem pairwise_sortRows (horder : OrdersOn (compareAt positions) holds)
    (hrows : ∀ row ∈ rows, holds row) :
    (sortRows positions rows).Pairwise fun earlier later ↦
      (compareAt positions earlier later).isLE := by
  -- On all rows the comparison need not be an order, so the rows are sorted with what they fulfil.
  have hreverse : ∀ row ∈ rows.reverse, holds row :=
    fun row hrow ↦ hrows row (List.mem_reverse.mp hrow)
  have hmap : rows.reverse.insertionSort (MayFollow positions) =
      ((rows.reverse.attachWith holds hreverse).insertionSort
        (FollowsAmong holds positions)).map Subtype.val := by
    rw [List.map_insertionSort (FollowsAmong holds positions) (MayFollow positions) Subtype.val _
      fun _ _ _ _ ↦ Iff.rfl, List.attachWith_map_subtype_val]
  have := total_followsAmong horder
  have := isTrans_followsAmong horder
  rw [sortRows_eq_insertionSort, List.pairwise_reverse, hmap, List.pairwise_map]
  refine (List.pairwise_insertionSort (FollowsAmong holds positions) _).imp fun hpair ↦ ?_
  exact (mayFollow_iff horder (Subtype.prop _) (Subtype.prop _)).mp hpair

/-- Rows that already stand in order keep their order when further rows are sorted with them. -/
theorem sublist_sortRows {alike : List Row} (halike : alike.Sublist rows)
    (horder : alike.Pairwise fun earlier later ↦ compareAt positions later earlier ≠ .lt) :
    alike.Sublist (sortRows positions rows) := by
  rw [sortRows_eq_insertionSort, ← List.reverse_sublist, List.reverse_reverse]
  exact List.sublist_insertionSort (List.pairwise_reverse.mpr horder)
    (List.reverse_sublist.mpr halike)

/-- Where all columns are sorted exactly, `sortRows` is a stable sort. -/
theorem isStableSort_sortRows (horder : OrdersOn (compareAt positions) holds)
    (hcomparable : ∀ first last, holds first → holds last → Comparable positions first last)
    (hrows : ∀ row ∈ rows, holds row) :
    IsStableSort (Precedes positions) (Ties positions) rows (sortRows positions rows) := by
  have hsorted : ∀ row ∈ sortRows positions rows, holds row :=
    fun row hrow ↦ hrows row ((sortRows_perm positions rows).mem_iff.mp hrow)
  constructor
  · exact sortRows_perm positions rows
  · refine (pairwise_sortRows horder hrows).imp_of_mem fun hearlier hlater hle ↦ ?_
    have hpair := hcomparable _ _ (hsorted _ hearlier) (hsorted _ hlater)
    rw [← compareAt_eq_lt_iff hpair, ← compareAt_eq_eq_iff hpair]
    exact Ordering.isLE_iff_eq_lt_or_eq_eq.mp hle
  · refine fun alike halike hties ↦ sublist_sortRows halike ?_
    refine hties.imp_of_mem fun hearlier hlater htie ↦ ?_
    have hfirst := hrows _ (halike.subset hearlier)
    have hlast := hrows _ (halike.subset hlater)
    rw [horder.swap hlast hfirst, (compareAt_eq_eq_iff (hcomparable _ _ hfirst hlast)).mpr htie]
    decide

end Row

/-! ### Rows of a schema -/

namespace Schema

variable {schema : Schema} {positions : List Nat} {record : List String} {row : Row}

/-- The cell of a row that a record stands for is a value of the type of its column. -/
theorem isOf_valueAt (hrow : schema.parsed? record = some row) {position : Nat} {field : Field}
    (hfield : schema.field? position = some field) :
    Value.IsOf field.type (row.valueAt position) := by
  obtain ⟨value, hvalue, hisOf⟩ :=
    getElem?_of_forall₂ (schema.forall₂_isOf_of_parsed? hrow) hfield
  rw [Row.valueAt, List.getD_eq_getElem?_getD, hvalue]
  exact hisOf

/-- The position of a column is that of a field. -/
theorem exists_field?_of_indexOf? {column : String} {position : Nat}
    (h : schema.indexOf? column = some position) :
    ∃ field, schema.field? position = some field := by
  obtain ⟨hlt, -⟩ := List.findIdx?_eq_some_iff_getElem.mp h
  exact ⟨_, List.getElem?_eq_getElem hlt⟩

/-- Rows that records stand for are sorted stably by columns that are sorted exactly. -/
theorem isStableSort_sortRows {rows : List Row}
    (hpositions : ∀ position ∈ positions, ∃ field, schema.field? position = some field ∧
      field.type.SortsExactly)
    (hrows : ∀ row ∈ rows, ∃ record, schema.parsed? record = some row) :
    IsStableSort (Row.Precedes positions) (Row.Ties positions) rows
      (Row.sortRows positions rows) := by
  have horder : OrdersOn (Row.compareAt positions) _ := schema.ordersOn_compareAt <| by
    intro position hposition
    obtain ⟨field, hfield, hsorts⟩ := hpositions position hposition
    exact ⟨field, hfield, hsorts.1, hsorts.2.1⟩
  refine Row.isStableSort_sortRows horder ?_ hrows
  rintro first last ⟨record, hfirst⟩ ⟨record', hlast⟩ position hposition
  obtain ⟨field, hfield, hsorts⟩ := hpositions position hposition
  exact ⟨field.type, hsorts, isOf_valueAt hfirst hfield, isOf_valueAt hlast hfield⟩

end Schema

end ColumnStore
