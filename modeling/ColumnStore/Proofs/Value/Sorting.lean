import ColumnStore.Proofs.Text.Dictionary
import ColumnStore.Proofs.Value.Typing
import Mathlib.Data.List.TakeWhile

/-!
# Columns that rows can be sorted by

The cells of a column that holds no floating-point numbers are ordered completely: `Value.compare`
turns around with its arguments and is transitive on them. Decimals are compared as floating-point
numbers, but none of them is read as one that is not a number. Rows inherit this from the columns by
which they are compared, however many these are.
-/

set_option autoImplicit false

namespace ColumnStore

/-- On what has a property, the order turns around with its arguments and is transitive. -/
def OrdersOn {α : Type} (order : α → α → Ordering) (holds : α → Prop) : Prop :=
  Std.TransCmp fun first second : {a : α // holds a} ↦ order first.1 second.1

namespace OrdersOn

variable {α β : Type} {order next : α → α → Ordering} {holds : α → Prop} {x y z : α}

theorem swap (h : OrdersOn order holds) (hx : holds x) (hy : holds y) :
    order x y = (order y x).swap :=
  @Std.OrientedCmp.eq_swap _ _ h.toOrientedCmp ⟨x, hx⟩ ⟨y, hy⟩

theorem isLE_trans (h : OrdersOn order holds) (hx : holds x) (hy : holds y) (hz : holds z)
    (hxy : (order x y).isLE) (hyz : (order y z).isLE) : (order x z).isLE :=
  @Std.TransCmp.isLE_trans _ _ h ⟨x, hx⟩ ⟨y, hy⟩ ⟨z, hz⟩ hxy hyz

/-- What is compared through keys of another type is ordered as the keys are. -/
theorem of_key (keyOrder : β → β → Ordering) [Std.TransCmp keyOrder]
    (key : {a : α // holds a} → β)
    (hkey : ∀ first second, order first.1 second.1 = keyOrder (key first) (key second)) :
    OrdersOn order holds where
  eq_swap {first second} := by
    rw [hkey first second, hkey second first]
    exact Std.OrientedCmp.eq_swap
  isLE_trans {first second third} := by
    rw [hkey first second, hkey second third, hkey first third]
    exact Std.TransCmp.isLE_trans

/-- What is compared through something else is ordered as that is. -/
theorem comap (h : OrdersOn order holds) {given : β → Prop} (f : β → α)
    (hf : ∀ b, given b → holds (f b)) :
    OrdersOn (fun first second ↦ order (f first) (f second)) given where
  eq_swap {first second} := h.swap (hf _ first.2) (hf _ second.2)
  isLE_trans {first second third} :=
    h.isLE_trans (hf _ first.2) (hf _ second.2) (hf _ third.2)

/-- A second order decides between what the first one does not tell apart. -/
theorem lex (h : OrdersOn order holds) (hnext : OrdersOn next holds) :
    OrdersOn (fun first second ↦ (order first second).then (next first second)) holds :=
  have : Std.TransCmp _ := h
  have : Std.TransCmp _ := hnext
  inferInstanceAs (Std.TransCmp (compareLex
    (fun first second : {a : α // holds a} ↦ order first.1 second.1)
    (fun first second : {a : α // holds a} ↦ next first.1 second.1)))

end OrdersOn

/-! ### Decimals -/

namespace Binary

/-- A number put together from its sign and its size is a number unless the size is too large. -/
theorem isNan_withSign (negative : Bool) {magnitude : Nat}
    (h : magnitude ≤ Format.double.infinityWord) :
    (withSign .double negative magnitude).isNan = false := by
  have hinfinity : Format.double.infinityWord = 9218868437227405312 := by decide
  have hsign : Format.double.signBit = 9223372036854775808 := by decide
  have hwidth : Format.double.width = 64 := rfl
  have hword : (withSign .double negative magnitude).magnitude = magnitude := by
    rw [Binary.magnitude, withSign, ofWord, BitVec.toNat_ofNat, hwidth, hsign]
    split <;> omega
  rw [isNan, hword]
  exact decide_eq_false (Nat.not_lt.mpr h)

theorem isNan_ofDecimal (negative : Bool) (digits : Nat) (power : Int) :
    (ofDecimal .double negative digits power).isNan = false := by
  unfold ofDecimal
  dsimp only
  split
  · exact isNan_withSign negative (Nat.zero_le _)
  · split
    · exact isNan_withSign negative (Nat.le_refl _)
    · refine isNan_withSign negative ?_
      unfold Format.roundRatio
      split
      · exact Nat.zero_le _
      · exact Nat.min_le_right _ _

end Binary

/-- A decimal literal is a sign and digits, with a point in front of some of them or without one. -/
theorem Value.exists_digits_of_isDecimalLiteral {cs : List Char}
    (h : Value.isDecimalLiteral cs = true) :
    ∃ whole fraction, (∀ c ∈ whole ++ fraction, c.isDigit = true) ∧ whole ++ fraction ≠ [] ∧
      ((Text.takeSign cs).2 = whole ++ '.' :: fraction ∨
        (Text.takeSign cs).2 = whole ∧ fraction = []) := by
  unfold Value.isDecimalLiteral at h
  dsimp only at h
  split at h
  · rename_i whole fraction hcut
    simp only [Bool.and_eq_true, Bool.not_eq_true', List.all_eq_true] at h
    obtain ⟨⟨hne, hwhole⟩, hfraction⟩ := h
    refine ⟨whole, fraction, ?_, ?_, .inl (Text.cutFirst_eq_some hcut).1⟩
    · intro c hc
      exact (List.mem_append.mp hc).elim (hwhole c) (hfraction c)
    · intro hnil
      obtain ⟨rfl, rfl⟩ := List.append_eq_nil_iff.mp hnil
      simp at hne
  · simp only [Text.isDigits, Bool.and_eq_true, Bool.not_eq_true', List.all_eq_true] at h
    refine ⟨(Text.takeSign cs).2, [], ?_, ?_, .inr ⟨rfl, rfl⟩⟩
    · rw [List.append_nil]
      exact h.2
    · rw [List.append_nil]
      intro hnil
      simp [hnil] at h

/-- Digits with a point in them are read up to the end. -/
theorem DecimalParts.read_point {whole fraction : List Char}
    (hdigits : ∀ c ∈ whole ++ fraction, c.isDigit = true) (hne : whole ++ fraction ≠ []) :
    read (whole ++ '.' :: fraction) = some ⟨whole, fraction, 0⟩ := by
  have hwhole : ∀ c ∈ whole, c.isDigit = true :=
    fun c hc ↦ hdigits c (List.mem_append_left fraction hc)
  have hfraction : ∀ c ∈ fraction, c.isDigit = true :=
    fun c hc ↦ hdigits c (List.mem_append_right whole hc)
  have htake : (whole ++ '.' :: fraction).takeWhile Char.isDigit = whole := by
    rw [List.takeWhile_append_of_pos hwhole]
    simp
  have hdrop : (whole ++ '.' :: fraction).dropWhile Char.isDigit = '.' :: fraction := by
    rw [List.dropWhile_append_of_pos hwhole]
    simp
  have hempty : (whole.isEmpty && fraction.isEmpty) = false := by
    by_contra hboth
    simp only [Bool.not_eq_false, Bool.and_eq_true, List.isEmpty_iff] at hboth
    exact hne (by rw [hboth.1, hboth.2, List.append_nil])
  unfold read
  simp only [htake, hdrop]
  rw [List.takeWhile_eq_self_iff.mpr hfraction, List.dropWhile_eq_nil_iff.mpr hfraction, hempty]
  rfl

/-- Digits without a point are read up to the end. -/
theorem DecimalParts.read_digits {digits : List Char} (hdigits : ∀ c ∈ digits, c.isDigit = true)
    (hne : digits ≠ []) : read digits = some ⟨digits, [], 0⟩ := by
  unfold read
  rw [List.takeWhile_eq_self_iff.mpr hdigits, List.dropWhile_eq_nil_iff.mpr hdigits]
  dsimp only
  rw [List.isEmpty_eq_false_iff.mpr hne]
  rfl

/-- A digit is no letter, in upper case or in lower case. -/
theorem toLower_ne_n_of_isDigit {c : Char} (h : c.isDigit = true) : c.toLower ≠ 'n' := by
  have hvalue : 48 ≤ c.toNat ∧ c.toNat ≤ 57 := by
    simpa [Char.isDigit, UInt32.le_iff_toNat_le] using h
  have hsame : c.toLower = c := by
    unfold Char.toLower
    split
    · rename_i hupper
      have hletter : 65 ≤ c.toNat := by
        simpa [UInt32.le_iff_toNat_le] using hupper.1
      omega
    · rfl
  rw [hsame]
  rintro rfl
  simp at h

/-- A decimal literal is read as its digits, scaled down by the count of those behind the point. -/
theorem Binary.read_of_isDecimalLiteral {cs : List Char} (h : Value.isDecimalLiteral cs = true)
    (format : Format) :
    ∃ whole fraction, (∀ c ∈ whole ++ fraction, c.isDigit = true) ∧
      ((Text.takeSign cs).2 = whole ++ '.' :: fraction ∨
        (Text.takeSign cs).2 = whole ∧ fraction = []) ∧
      Binary.read format cs = some (ofDecimal format (Text.takeSign cs).1
        (Text.natOfDigits (whole ++ fraction)) (0 - fraction.length)) := by
  obtain ⟨whole, fraction, hdigits, hne, hrest⟩ := Value.exists_digits_of_isDecimalLiteral h
  have hread : DecimalParts.read (Text.takeSign cs).2 = some ⟨whole, fraction, 0⟩ := by
    rcases hrest with hrest | ⟨hrest, rfl⟩
    · rw [hrest]
      exact DecimalParts.read_point hdigits hne
    · rw [List.append_nil] at hdigits hne
      rw [hrest]
      exact DecimalParts.read_digits hdigits hne
  have hletter : 'n' ∉ (Text.takeSign cs).2.map Char.toLower := by
    intro hmem
    obtain ⟨c, hc, hlower⟩ := List.mem_map.mp hmem
    have hpoint : c = '.' ∨ c ∈ whole ++ fraction := by
      rcases hrest with hrest | ⟨hrest, -⟩
      · rw [hrest] at hc
        simpa [or_left_comm] using hc
      · exact .inr (List.mem_append_left fraction (hrest ▸ hc))
    rcases hpoint with rfl | hdigit
    · exact absurd hlower (by decide)
    · exact toLower_ne_n_of_isDigit (hdigits c hdigit) hlower
  have hword : ∀ word : String, 'n' ∈ word.toList →
      String.ofList ((Text.takeSign cs).2.map Char.toLower) ≠ word := by
    rintro _ hn rfl
    exact hletter (by simpa using hn)
  refine ⟨whole, fraction, hdigits, hrest, ?_⟩
  unfold Binary.read
  dsimp only
  rw [if_neg (not_or.mpr ⟨hword "inf" (by decide), hword "infinity" (by decide)⟩),
    if_neg (hword "nan" (by decide)), hread]
  rfl

/-- A decimal literal is read as a number. -/
theorem Binary.exists_read_of_isDecimalLiteral {cs : List Char}
    (h : Value.isDecimalLiteral cs = true) :
    ∃ x : Binary64, Binary.read .double cs = some x ∧ x.isNan = false := by
  obtain ⟨whole, fraction, -, -, hread⟩ := Binary.read_of_isDecimalLiteral h .double
  exact ⟨_, hread, isNan_ofDecimal _ _ _⟩

namespace Value

/-- Decimals that are literals are ordered as the numbers they are read as. -/
theorem ordersOn_compareDecimals :
    OrdersOn compareDecimals fun text ↦ isDecimalLiteral text.toList = true := by
  refine .of_key Ord.compare
    (fun text ↦ ((Binary.read .double text.1.toList).map Binary.key).getD 0) ?_
  rintro ⟨first, hfirst⟩ ⟨second, hsecond⟩
  obtain ⟨x, hx, hxnan⟩ := Binary.exists_read_of_isDecimalLiteral hfirst
  obtain ⟨y, hy, hynan⟩ := Binary.exists_read_of_isDecimalLiteral hsecond
  simp [compareDecimals, hx, hy, Binary.compare?, hxnan, hynan]

theorem ordersOn_compareTexts {α : Type} (text : α → String) (holds : α → Prop) :
    OrdersOn (fun first second ↦ Text.compareTexts (text first) (text second)) holds :=
  .of_key (List.compareLex Text.compareChars) (fun a ↦ (text a.1).toList)
    fun _ _ ↦ Text.compareTexts_eq_compareLex _ _

/-! ### Columns -/

/-- A value that some cell of a column of the type is read as, so that a decimal is a literal. -/
def IsOf (type : DataType) (value : Value) : Prop :=
  value = null ∨ value.dataType? = some type ∧
    ∀ text, value = decimal text → isDecimalLiteral text.toList = true

variable {raw : String} {type : DataType} {element : Option DataType} {value : Value}

/-- A cell that is read as a decimal is read as a literal. -/
theorem isDecimalLiteral_of_read {text : String}
    (h : read raw .decimal element = .ok (decimal text)) :
    isDecimalLiteral text.toList = true := by
  have hsimple : readSimple raw .decimal = .ok (decimal text) := h
  unfold readSimple at hsimple
  dsimp only at hsimple
  split at hsimple
  · cases hsimple
  split at hsimple
  · cases hsimple
  by_cases hliteral : isDecimalLiteral (Text.trimChars raw.toList) = true
  · have htext : String.ofList (Text.trimChars raw.toList) = text := by
      simpa [readScalar?, hliteral] using hsimple
    rw [← htext, String.toList_ofList]
    exact hliteral
  · simp [readScalar?, hliteral] at hsimple

theorem isOf_of_read (h : read raw type element = .ok value) : IsOf type value := by
  rcases @admits_of_read raw value ⟨"", type, element⟩ h with hnull | ⟨htype, -⟩
  · exact .inl hnull
  · refine .inr ⟨htype, ?_⟩
    rintro text rfl
    obtain rfl := Option.some.inj htype
    exact isDecimalLiteral_of_read h

/-- Null comes first and the other values are ordered among themselves. -/
theorem ordersOn_null_or {α : Type} {wrap : α → Value} {order : α → α → Ordering}
    {holds : α → Prop} (h : OrdersOn order holds)
    (hwrap : ∀ a b, compare (wrap a) (wrap b) = order a b)
    (hfirst : ∀ a, compare null (wrap a) = .lt) (hlast : ∀ a, compare (wrap a) null = .gt) :
    OrdersOn compare fun value ↦ value = null ∨ ∃ a, value = wrap a ∧ holds a where
  eq_swap {first second} := by
    obtain ⟨_, rfl | ⟨a, rfl, ha⟩⟩ := first <;> obtain ⟨_, rfl | ⟨b, rfl, hb⟩⟩ := second
    · rfl
    · simp [hfirst, hlast]
    · simp [hfirst, hlast]
    · simp only [hwrap]
      exact h.swap ha hb
  isLE_trans {first second third} hfirstSecond hsecondThird := by
    obtain ⟨_, rfl | ⟨a, rfl, ha⟩⟩ := first
    · obtain ⟨_, rfl | ⟨c, rfl, hc⟩⟩ := third
      · rfl
      · simp [hfirst]
    · obtain ⟨_, rfl | ⟨b, rfl, hb⟩⟩ := second
      · simp [hlast] at hfirstSecond
      · obtain ⟨_, rfl | ⟨c, rfl, hc⟩⟩ := third
        · simp [hlast] at hsecondThird
        · simp only [hwrap] at hfirstSecond hsecondThird ⊢
          exact h.isLE_trans ha hb hc hfirstSecond hsecondThird

/-- On all values of a type, a comparison that is one of the standard library's is complete. -/
theorem ordersOn_of_transCmp {α : Type} (order : α → α → Ordering) [Std.TransCmp order] :
    OrdersOn order fun _ ↦ True :=
  .of_key order Subtype.val fun _ _ ↦ rfl

/-- If all values of a type but null are wrapped in one way, they are ordered as what they wrap. -/
theorem ordersOn_isOf_of_wrap {α : Type} (wrap : α → Value) {order : α → α → Ordering}
    {holds : α → Prop} (h : OrdersOn order holds)
    (hwrap : ∀ a b, compare (wrap a) (wrap b) = order a b)
    (hfirst : ∀ a, compare null (wrap a) = .lt) (hlast : ∀ a, compare (wrap a) null = .gt)
    (hall : ∀ value, value.dataType? = some type → IsOf type value →
      ∃ a, value = wrap a ∧ holds a) : OrdersOn compare (IsOf type) := by
  refine (ordersOn_null_or h hwrap hfirst hlast).comap id fun value hvalue ↦ ?_
  rcases hvalue with hnull | htyped
  · exact .inl hnull
  · exact .inr (hall value htyped.1 (.inr htyped))

/-- The cells of a column that holds no floating-point numbers are ordered completely. -/
theorem ordersOn_isOf (hfloat : type ≠ .float) (hdouble : type ≠ .double) :
    OrdersOn compare (IsOf type) := by
  cases type
  case float => exact absurd rfl hfloat
  case double => exact absurd rfl hdouble
  case decimal =>
    refine ordersOn_isOf_of_wrap decimal ordersOn_compareDecimals (fun _ _ ↦ rfl) (fun _ ↦ rfl)
      (fun _ ↦ rfl) fun value htype hvalue ↦ ?_
    cases value <;> cases htype
    rcases hvalue with hnull | ⟨-, hliteral⟩
    · cases hnull
    · exact ⟨_, rfl, hliteral _ rfl⟩
  case' short =>
    refine ordersOn_isOf_of_wrap short (ordersOn_of_transCmp (compareOn Int16.toInt))
      (fun _ _ ↦ rfl) (fun _ ↦ rfl) (fun _ ↦ rfl) ?_
  case' int =>
    refine ordersOn_isOf_of_wrap int (ordersOn_of_transCmp (compareOn Int32.toInt))
      (fun _ _ ↦ rfl) (fun _ ↦ rfl) (fun _ ↦ rfl) ?_
  case' date =>
    refine ordersOn_isOf_of_wrap date (ordersOn_of_transCmp (compareOn Int32.toInt))
      (fun _ _ ↦ rfl) (fun _ ↦ rfl) (fun _ ↦ rfl) ?_
  case' long =>
    refine ordersOn_isOf_of_wrap long (ordersOn_of_transCmp (compareOn Int64.toInt))
      (fun _ _ ↦ rfl) (fun _ ↦ rfl) (fun _ ↦ rfl) ?_
  case' timestamp =>
    refine ordersOn_isOf_of_wrap timestamp (ordersOn_of_transCmp (compareOn Int64.toInt))
      (fun _ _ ↦ rfl) (fun _ ↦ rfl) (fun _ ↦ rfl) ?_
  case' boolean =>
    refine ordersOn_isOf_of_wrap boolean (ordersOn_of_transCmp Ord.compare)
      (fun _ _ ↦ rfl) (fun _ ↦ rfl) (fun _ ↦ rfl) ?_
  case' string =>
    refine ordersOn_isOf_of_wrap string (ordersOn_compareTexts id fun _ ↦ True)
      (fun _ _ ↦ rfl) (fun _ ↦ rfl) (fun _ ↦ rfl) ?_
  case' varchar =>
    refine ordersOn_isOf_of_wrap varchar (ordersOn_compareTexts id fun _ ↦ True)
      (fun _ _ ↦ rfl) (fun _ ↦ rfl) (fun _ ↦ rfl) ?_
  case' array =>
    refine ordersOn_isOf_of_wrap array
      (ordersOn_compareTexts (fun items ↦ cell (array items)) fun _ ↦ True)
      (fun _ _ ↦ rfl) (fun _ ↦ rfl) (fun _ ↦ rfl) ?_
  all_goals
    intro value htype _
    cases value <;> cases htype
    exact ⟨_, rfl, trivial⟩

end Value

/-! ### Rows -/

variable {schema : Schema} {row : Row} {record : List String} {positions : List Nat}

/-- The cells of a row that a record stands for are values of the types of their columns. -/
theorem Schema.forall₂_isOf_of_parsed? (h : schema.parsed? record = some row) :
    List.Forall₂ (fun field value ↦ Value.IsOf field.type value) schema.fields row := by
  unfold Schema.parsed? at h
  split at h
  · rename_i hlength
    refine (forall₂_of_zip hlength (mapM_eq_some_iff.mp h)).imp ?_
    rintro field value ⟨cell, hcell⟩
    cases hread : Value.read cell field.type field.element with
    | error error => simp [hread, Except.toOption] at hcell
    | ok found =>
      simp only [hread, Except.toOption, Option.some.injEq] at hcell
      exact Value.isOf_of_read (hcell ▸ hread)
  · cases h

/-- Rows that records stand for are ordered completely by columns without floating-point numbers.
-/
theorem Schema.ordersOn_compareAt
    (h : ∀ position ∈ positions, ∃ field, schema.field? position = some field ∧
      field.type ≠ .float ∧ field.type ≠ .double) :
    OrdersOn (Row.compareAt positions) fun row ↦ ∃ record, schema.parsed? record = some row := by
  -- On the columns: rows are ordered by the first one, and by the rest where it ties.
  induction positions with
  | nil => exact .of_key (compareOn fun _ : Unit ↦ 0) (fun _ ↦ ()) fun _ _ ↦ rfl
  | cons position rest ih =>
    obtain ⟨field, hfield, hfloat, hdouble⟩ := h position List.mem_cons_self
    have hcolumn : OrdersOn
        (fun first second ↦ (Row.valueAt first position).compare (Row.valueAt second position))
        fun row ↦ ∃ record, schema.parsed? record = some row := by
      refine (Value.ordersOn_isOf hfloat hdouble).comap (fun row ↦ Row.valueAt row position) ?_
      rintro row ⟨record, hrecord⟩
      obtain ⟨value, hvalue, hisOf⟩ :=
        getElem?_of_forall₂ (schema.forall₂_isOf_of_parsed? hrecord) hfield
      rw [Row.valueAt, List.getD_eq_getElem?_getD, hvalue]
      exact hisOf
    have hrest := ih fun position hmem ↦ h position (List.mem_cons_of_mem _ hmem)
    have hstep : Row.compareAt (position :: rest) = fun first second ↦
        ((Row.valueAt first position).compare (Row.valueAt second position)).then
          (Row.compareAt rest first second) := by
      ext first second
      rw [Row.compareAt]
      cases (Row.valueAt first position).compare (Row.valueAt second position) <;> rfl
    rw [hstep]
    exact hcolumn.lex hrest

end ColumnStore
