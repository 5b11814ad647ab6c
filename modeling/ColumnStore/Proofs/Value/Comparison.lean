import ColumnStore.Proofs.Value.Sorting

/-!
# What the comparison of values is consistent on

`Value.compare` turns around with its arguments on the values of every column. It is transitive
through every value but one that is not a number: that one ties with all numbers, so a greater
number and a smaller one can both tie with it, and no order of the three agrees with every
comparison of two of them.
-/

set_option autoImplicit false

namespace ColumnStore

/-! ### Floating-point numbers -/

namespace Binary

variable {format : Format} {x y z : Binary format}

/-- The order by which floating-point numbers are sorted. -/
def order (x y : Binary format) : Ordering :=
  (x.compare? y).getD .eq

/-- What is not a number ties with everything. -/
theorem order_of_isNan (h : x.isNan = true ∨ y.isNan = true) : order x y = .eq := by
  have hsome : (x.isNan || y.isNan) = true := by simpa using h
  simp [order, compare?, hsome]

theorem order_of_numbers (hx : x.isNan = false) (hy : y.isNan = false) :
    order x y = compare x.key y.key := by
  simp [order, compare?, hx, hy]

theorem order_swap (x y : Binary format) : order x y = (order y x).swap := by
  by_cases hnan : x.isNan = true ∨ y.isNan = true
  · rw [order_of_isNan hnan, order_of_isNan hnan.symm]
    rfl
  · obtain ⟨hx, hy⟩ := not_or.mp hnan
    rw [Bool.not_eq_true] at hx hy
    rw [order_of_numbers hx hy, order_of_numbers hy hx]
    exact Std.OrientedCmp.eq_swap

/-- The order is transitive through a number, whatever stands on its sides. -/
theorem order_trans (hy : y.isNan = false) (hxy : (order x y).isLE) (hyz : (order y z).isLE) :
    (order x z).isLE := by
  by_cases hnan : x.isNan = true ∨ z.isNan = true
  · rw [order_of_isNan hnan]
    rfl
  · obtain ⟨hx, hz⟩ := not_or.mp hnan
    rw [Bool.not_eq_true] at hx hz
    rw [order_of_numbers hx hy] at hxy
    rw [order_of_numbers hy hz] at hyz
    rw [order_of_numbers hx hz]
    exact Std.TransCmp.isLE_trans hxy hyz

end Binary

namespace Value

/-- Is the value a floating-point word that is not a number? -/
def isNan : Value → Bool
  | float x => x.isNan
  | double x => x.isNan
  | _ => false

/-- A value that some cell of a column is read as. -/
def OccursIn (type : DataType) (element : Option DataType) (value : Value) : Prop :=
  ∃ raw, read raw type element = .ok value

variable {type : DataType} {element : Option DataType} {first middle last : Value}

theorem OccursIn.isOf {value : Value} (h : OccursIn type element value) : IsOf type value :=
  isOf_of_read h.choose_spec

/-- Only columns of floating-point numbers hold a value that is not a number. -/
theorem isNan_of_isOf {value : Value} (h : IsOf type value) (hfloat : type ≠ .float)
    (hdouble : type ≠ .double) : value.isNan = false := by
  rcases h with rfl | ⟨htype, -⟩
  · rfl
  · cases value <;> cases htype <;> first | rfl | contradiction

/-! ### Turning around and transitivity, for all types -/

section Wrapped

variable {format : Format} (wrap : Binary format → Value)
  (hwrap : ∀ x y, compare (wrap x) (wrap y) = Binary.order x y)
  (hfirst : ∀ x, compare null (wrap x) = .lt) (hlast : ∀ x, compare (wrap x) null = .gt)

include hwrap hfirst hlast

/-- With null in front of the numbers of a format, the comparison turns around. -/
theorem compare_swap_of_wrap (h : first = null ∨ ∃ x, first = wrap x)
    (h' : last = null ∨ ∃ x, last = wrap x) :
    compare first last = (compare last first).swap := by
  rcases h with rfl | ⟨x, rfl⟩ <;> rcases h' with rfl | ⟨y, rfl⟩
  · rfl
  · rw [hfirst, hlast]
    rfl
  · rw [hfirst, hlast]
    rfl
  · rw [hwrap, hwrap]
    exact Binary.order_swap x y

/-- With null in front of the numbers of a format, the comparison is transitive through null and
through every number. -/
theorem compare_trans_of_wrap (h : first = null ∨ ∃ x, first = wrap x)
    (hmiddle : middle = null ∨ ∃ y, middle = wrap y ∧ y.isNan = false)
    (h' : last = null ∨ ∃ x, last = wrap x)
    (hbefore : (compare first middle).isLE) (hafter : (compare middle last).isLE) :
    (compare first last).isLE := by
  rcases h with rfl | ⟨x, rfl⟩
  · rcases h' with rfl | ⟨z, rfl⟩
    · rfl
    · rw [hfirst]
      rfl
  · -- Null is not behind a number, so neither the middle nor the last value is null.
    rcases hmiddle with rfl | ⟨y, rfl, hy⟩
    · simp [hlast] at hbefore
    · rcases h' with rfl | ⟨z, rfl⟩
      · simp [hlast] at hafter
      · rw [hwrap] at hbefore hafter ⊢
        exact Binary.order_trans hy hbefore hafter

end Wrapped

/-- The values of a column of single-precision numbers. -/
theorem eq_null_or_float {value : Value} (h : IsOf .float value) :
    value = null ∨ ∃ x, value = float x := by
  refine h.imp_right fun ⟨htype, _⟩ ↦ ?_
  cases value <;> cases htype
  exact ⟨_, rfl⟩

/-- The values of a column of double-precision numbers. -/
theorem eq_null_or_double {value : Value} (h : IsOf .double value) :
    value = null ∨ ∃ x, value = double x := by
  refine h.imp_right fun ⟨htype, _⟩ ↦ ?_
  cases value <;> cases htype
  exact ⟨_, rfl⟩

/-- On the values of any type the comparison turns around with its arguments. -/
theorem compare_swap (h : IsOf type first) (h' : IsOf type last) :
    compare first last = (compare last first).swap := by
  by_cases hfloat : type = .float
  · subst hfloat
    exact compare_swap_of_wrap float (fun _ _ ↦ rfl) (fun _ ↦ rfl) (fun _ ↦ rfl)
      (eq_null_or_float h) (eq_null_or_float h')
  by_cases hdouble : type = .double
  · subst hdouble
    exact compare_swap_of_wrap double (fun _ _ ↦ rfl) (fun _ ↦ rfl) (fun _ ↦ rfl)
      (eq_null_or_double h) (eq_null_or_double h')
  exact (ordersOn_isOf hfloat hdouble).swap h h'

/-- On the values of any type the comparison is transitive through a value that is a number, if it
is a floating-point word at all. -/
theorem compare_trans (h : IsOf type first) (hmiddle : IsOf type middle) (h' : IsOf type last)
    (hnumber : middle.isNan = false) (hbefore : (compare first middle).isLE)
    (hafter : (compare middle last).isLE) : (compare first last).isLE := by
  by_cases hfloat : type = .float
  · subst hfloat
    refine compare_trans_of_wrap float (fun _ _ ↦ rfl) (fun _ ↦ rfl) (fun _ ↦ rfl)
      (eq_null_or_float h) ?_ (eq_null_or_float h') hbefore hafter
    exact (eq_null_or_float hmiddle).imp_right fun ⟨x, hx⟩ ↦ ⟨x, hx, by rwa [hx] at hnumber⟩
  by_cases hdouble : type = .double
  · subst hdouble
    refine compare_trans_of_wrap double (fun _ _ ↦ rfl) (fun _ ↦ rfl) (fun _ ↦ rfl)
      (eq_null_or_double h) ?_ (eq_null_or_double h') hbefore hafter
    exact (eq_null_or_double hmiddle).imp_right fun ⟨x, hx⟩ ↦ ⟨x, hx, by rwa [hx] at hnumber⟩
  exact (ordersOn_isOf hfloat hdouble).isLE_trans h hmiddle h' hbefore hafter

/-- Around a value that is not a number, two values of its column stand in the wrong order. -/
theorem exists_gt_of_isNan (h : OccursIn type element middle) (hnan : middle.isNan = true) :
    ∃ first last, OccursIn type element first ∧ OccursIn type element last ∧
      compare first middle = .eq ∧ compare middle last = .eq ∧ compare first last = .gt := by
  have hfloats : type = .float ∨ type = .double := by
    by_contra hother
    obtain ⟨hfloat, hdouble⟩ := not_or.mp hother
    exact absurd (isNan_of_isOf h.isOf hfloat hdouble) (by simp [hnan])
  rcases hfloats with rfl | rfl
  · obtain rfl | ⟨x, rfl⟩ := eq_null_or_float h.isOf
    · cases hnan
    · exact ⟨float _, float _, ⟨"2", rfl⟩, ⟨"1", rfl⟩, Binary.order_of_isNan (.inr hnan),
        Binary.order_of_isNan (.inl hnan), by decide +kernel⟩
  · obtain rfl | ⟨x, rfl⟩ := eq_null_or_double h.isOf
    · cases hnan
    · exact ⟨double _, double _, ⟨"2", rfl⟩, ⟨"1", rfl⟩, Binary.order_of_isNan (.inr hnan),
        Binary.order_of_isNan (.inl hnan), by decide +kernel⟩

/-- On the values that the cells of a column are read as, of whatever type, the comparison turns
around with its arguments; and it is transitive through one of them exactly if this is not a
floating-point word that is not a number. -/
theorem comparison_consistent_iff (h : OccursIn type element middle) :
    (∀ other, OccursIn type element other →
        compare middle other = (compare other middle).swap) ∧
      ((∀ first last, OccursIn type element first → OccursIn type element last →
          compare first middle ≠ .gt → compare middle last ≠ .gt → compare first last ≠ .gt) ↔
        middle.isNan = false) := by
  refine ⟨fun other hother ↦ compare_swap h.isOf hother.isOf, ?_, ?_⟩
  · intro htrans
    by_contra hnan
    rw [Bool.not_eq_false] at hnan
    obtain ⟨first, last, hfirst, hlast, hbefore, hafter, hwrong⟩ := exists_gt_of_isNan h hnan
    exact htrans first last hfirst hlast (by simp [hbefore]) (by simp [hafter]) hwrong
  · intro hnumber first last hfirst hlast hbefore hafter
    exact Ordering.isLE_iff_ne_gt.mp (compare_trans hfirst.isOf h.isOf hlast.isOf hnumber
      (Ordering.isLE_iff_ne_gt.mpr hbefore) (Ordering.isLE_iff_ne_gt.mpr hafter))

/-- A column of doubles with a cell `nan` in it is not ordered around that cell. -/
theorem comparison_consistent_iff_nan :
    ∃ nan, OccursIn .double none nan ∧ nan.isNan = true ∧
      ¬ ∀ first last, OccursIn .double none first → OccursIn .double none last →
        compare first nan ≠ .gt → compare nan last ≠ .gt → compare first last ≠ .gt := by
  refine ⟨double _, ⟨"nan", rfl⟩, by decide +kernel, fun htrans ↦ ?_⟩
  have hnumber := (comparison_consistent_iff ⟨"nan", rfl⟩).2.mp htrans
  exact absurd hnumber (by decide +kernel)

/-- Of two, not a number and one, none comes after the next one, but two comes after one. -/
theorem two_nan_one_not_transitive :
    ∃ two nan one, read "2" .double none = .ok two ∧ read "nan" .double none = .ok nan ∧
      read "1" .double none = .ok one ∧ compare two nan ≠ .gt ∧ compare nan one ≠ .gt ∧
      compare two one = .gt :=
  ⟨double _, double _, double _, rfl, rfl, rfl, by decide +kernel, by decide +kernel,
    by decide +kernel⟩

end Value

end ColumnStore
