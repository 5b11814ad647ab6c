import ColumnStore.Proofs.Text.Numeral
import ColumnStore.Proofs.Value.Survival

/-!
# Values that are read back from their cells

`Value.IsExact` lists the values whose cells are read as the values themselves, and
`Value.read_cell_iff` shows that the list is complete for all types but the floating-point ones.
What is lost is a text that looks like the null marker, a decimal that is no literal, an array of a
single null or of a single empty text, whose cells mean null and the empty array, and an item with
the separator in it. Cells of numbers, dates and truth values are plain, so they are never mistaken.
-/

set_option autoImplicit false

namespace ColumnStore

namespace Value

/-- Items that are read back from the cell of an array. -/
def IsExactItem : Value → Prop
  | string text | varchar text => text ≠ nullMarker ∧ arrayDelimiter ∉ text.toList
  | decimal text => isDecimalLiteral text.toList = true
  | float _ | double _ | array _ => False
  | _ => True

/-- Values that are read back from their cells. -/
def IsExact : Value → Prop
  | string text | varchar text => text ≠ nullMarker
  | decimal text => isDecimalLiteral text.toList = true
  | array items =>
    items ≠ [null] ∧ items ≠ [string ""] ∧ items ≠ [varchar ""] ∧ ∀ item ∈ items, item.IsExactItem
  | _ => True

variable {raw : String} {type : DataType} {element : Option DataType} {value item : Value}
  {items : List Value}

/-! ### Plain cells -/

/-- A decimal literal is made of plain characters. -/
theorem isPlain_of_isDecimalLiteral {cs : List Char} (h : isDecimalLiteral cs = true) {c : Char}
    (hc : c ∈ cs) : Text.isPlain c = true := by
  have hsign : c = '-' ∨ c = '+' ∨ c ∈ (Text.takeSign cs).2 := by
    unfold Text.takeSign
    split
    · exact (List.mem_cons.mp hc).imp_right .inr
    · exact .inr (List.mem_cons.mp hc)
    · exact .inr (.inr hc)
  have hall : ∀ {digits : List Char}, digits.all Char.isDigit = true → c ∈ digits →
      Text.isPlain c = true :=
    fun hdigits hmem ↦ Text.isPlain_of_isDigit (List.all_eq_true.mp hdigits c hmem)
  rcases hsign with rfl | rfl | hmem
  · rfl
  · rfl
  unfold isDecimalLiteral at h
  dsimp only at h
  split at h
  · rename_i whole fraction hcut
    simp only [Bool.and_eq_true] at h
    rw [(Text.cutFirst_eq_some hcut).1, List.mem_append, List.mem_cons] at hmem
    rcases hmem with hwhole | rfl | hfraction
    · exact hall h.1.2 hwhole
    · rfl
    · exact hall h.2 hfraction
  · exact hall (Bool.and_eq_true_iff.mp h).2 hmem

/-- A plain cell is read by what its characters mean. -/
theorem readSimple_of_isPlain (hne : raw.toList ≠ [])
    (hplain : ∀ c ∈ raw.toList, Text.isPlain c = true)
    (h : readScalar? type raw raw.toList = some value) : readSimple raw type = .ok value := by
  have hmarker : raw ≠ nullMarker := by
    rintro rfl
    exact absurd (hplain '\\' (by decide)) (by decide)
  unfold readSimple
  simp only [Text.trimChars_of_isPlain hplain, List.isEmpty_eq_false_iff.mpr hne, h]
  rw [if_neg hmarker, Bool.false_and, if_neg Bool.false_ne_true]

theorem readSimple_toString {n : Int}
    (h : readScalar? type (toString n) (toString n).toList = some value) :
    readSimple (toString n) type = .ok value :=
  readSimple_of_isPlain (Text.toString_ne_nil n) (fun _ ↦ Text.isPlain_of_mem_toString) h

/-- The separator stands in no plain cell. -/
theorem arrayDelimiter_not_mem (hplain : ∀ c ∈ raw.toList, Text.isPlain c = true) :
    arrayDelimiter ∉ raw.toList :=
  fun hmem ↦ absurd (hplain _ hmem) (by decide)

/-! ### Scalars -/

theorem readWord_short (n : Int16) : Text.readWord 16 (toString n.toInt).toList = some n.toInt :=
  Text.readWord_toString n.le_toInt n.toInt_lt

theorem readWord_int (n : Int32) : Text.readWord 32 (toString n.toInt).toList = some n.toInt :=
  Text.readWord_toString n.le_toInt n.toInt_lt

theorem readWord_long (n : Int64) : Text.readWord 64 (toString n.toInt).toList = some n.toInt :=
  Text.readWord_toString n.le_toInt n.toInt_lt

/-- A decimal is read back from its cell exactly if it is a literal. -/
theorem readSimple_decimal_iff {text : String} :
    readSimple text .decimal = .ok (decimal text) ↔ isDecimalLiteral text.toList = true := by
  constructor
  · intro h
    unfold readSimple at h
    dsimp only at h
    split at h
    · cases h
    split at h
    · cases h
    by_cases hliteral : isDecimalLiteral (Text.trimChars text.toList) = true
    · have htrimmed : String.ofList (Text.trimChars text.toList) = text := by
        simpa [readScalar?, hliteral] using h
      rw [← htrimmed, String.toList_ofList]
      exact hliteral
    · simp [readScalar?, hliteral] at h
  · intro h
    refine readSimple_of_isPlain ?_ (fun c ↦ isPlain_of_isDecimalLiteral h) ?_
    · intro hnil
      rw [hnil] at h
      cases h
    · rw [readScalar?, if_pos h, String.ofList_toList]

/-- A text is read back from its cell unless it looks like the null marker. -/
theorem readSimple_text_iff {text : String} {wrap : String → Value}
    (hblank : blankIsNull type = false)
    (hread : ∀ cs, readScalar? type text cs = some (wrap text)) (hnull : wrap text ≠ null) :
    readSimple text type = .ok (wrap text) ↔ text ≠ nullMarker := by
  unfold readSimple
  simp only [hblank, Bool.and_false, Bool.false_eq_true, if_false, hread]
  by_cases hmarker : text = nullMarker
  · subst hmarker
    simp [hnull.symm]
  · simp [hmarker]

/-- The null marker is null in every column. -/
theorem readSimple_nullMarker (type : DataType) : readSimple nullMarker type = .ok null := by
  simp [readSimple]

/-- What a column without arrays reads back from a cell. -/
theorem readSimple_cell_iff (hfloat : type ≠ .float) (hdouble : type ≠ .double)
    (harray : type ≠ .array) (hvalue : value = .null ∨ value.dataType? = some type) :
    readSimple value.cell type = .ok value ↔ value.IsExact := by
  rcases hvalue with rfl | htype
  · exact iff_of_true (readSimple_nullMarker type) trivial
  cases value with
  | null => cases htype
  | float x => exact absurd (Option.some.inj htype).symm hfloat
  | double x => exact absurd (Option.some.inj htype).symm hdouble
  | array items => exact absurd (Option.some.inj htype).symm harray
  | short n =>
    cases htype
    refine iff_of_true (readSimple_toString ?_) trivial
    rw [readScalar?, readWord_short, Option.map_some, Int16.ofInt_toInt]
  | int n =>
    cases htype
    refine iff_of_true (readSimple_toString ?_) trivial
    rw [readScalar?, readWord_int, Option.map_some, Int32.ofInt_toInt]
  | long n =>
    cases htype
    refine iff_of_true (readSimple_toString ?_) trivial
    rw [readScalar?, readWord_long, Option.map_some, Int64.ofInt_toInt]
  | date day =>
    cases htype
    refine iff_of_true (readSimple_toString ?_) trivial
    rw [readScalar?, readWord_int, Option.some_or, Option.map_some, Int32.ofInt_toInt]
  | timestamp millisecond =>
    cases htype
    refine iff_of_true (readSimple_toString ?_) trivial
    rw [readScalar?, readWord_long, Option.some_or, Option.map_some, Int64.ofInt_toInt]
  | boolean b =>
    cases htype
    have hplain : (Value.boolean b).cell.toList.all Text.isPlain = true := by
      cases b <;> rfl
    refine iff_of_true (readSimple_of_isPlain ?_ (List.all_eq_true.mp hplain) ?_) trivial
    · cases b <;> exact List.cons_ne_nil _ _
    · cases b <;> rfl
  | string text =>
    cases htype
    exact readSimple_text_iff rfl (fun _ ↦ rfl) (by simp)
  | varchar text =>
    cases htype
    exact readSimple_text_iff rfl (fun _ ↦ rfl) (by simp)
  | decimal text =>
    cases htype
    exact readSimple_decimal_iff

/-! ### Items of arrays -/

/-- An item is read back from the cell of an array if it is read back from its own cell and the
separator does not stand in it. -/
theorem isExactItem_iff (hfloat : type ≠ .float) (hdouble : type ≠ .double) (harray : type ≠ .array)
    (hitem : item = .null ∨ item.dataType? = some type) :
    item.IsExactItem ↔ item.IsExact ∧ arrayDelimiter ∉ item.cell.toList := by
  have hnumber : ∀ n : Int, arrayDelimiter ∉ (toString n).toList :=
    fun n ↦ arrayDelimiter_not_mem fun _ ↦ Text.isPlain_of_mem_toString
  rcases hitem with rfl | htype
  · exact iff_of_true trivial ⟨trivial, by decide⟩
  cases item with
  | null => cases htype
  | float x => exact absurd (Option.some.inj htype).symm hfloat
  | double x => exact absurd (Option.some.inj htype).symm hdouble
  | array items => exact absurd (Option.some.inj htype).symm harray
  | short n => exact iff_of_true trivial ⟨trivial, hnumber _⟩
  | int n => exact iff_of_true trivial ⟨trivial, hnumber _⟩
  | long n => exact iff_of_true trivial ⟨trivial, hnumber _⟩
  | date day => exact iff_of_true trivial ⟨trivial, hnumber _⟩
  | timestamp millisecond => exact iff_of_true trivial ⟨trivial, hnumber _⟩
  | boolean b => exact iff_of_true trivial ⟨trivial, by cases b <;> decide⟩
  | string text => exact Iff.rfl
  | varchar text => exact Iff.rfl
  | decimal text =>
    exact (and_iff_left_of_imp fun hliteral ↦
      arrayDelimiter_not_mem fun _ ↦ isPlain_of_isDecimalLiteral hliteral).symm

/-- Only null has the null marker for its cell among the items that are read back. -/
theorem IsExactItem.eq_null (h : item.IsExactItem) (hcell : item.cell = nullMarker) :
    item = null := by
  have hplain : ∀ {cell : String}, cell = nullMarker →
      ¬ ∀ c ∈ cell.toList, Text.isPlain c = true := by
    rintro _ rfl hall
    exact absurd (hall '\\' (by decide)) (by decide)
  cases item with
  | null => rfl
  | float x | double x | array items => exact h.elim
  | short n | int n | long n | date n | timestamp n =>
    exact absurd (fun _ ↦ Text.isPlain_of_mem_toString) (hplain hcell)
  | boolean b => cases b <;> exact absurd hcell (by decide)
  | string text | varchar text => exact absurd hcell h.1
  | decimal text => exact absurd (fun _ ↦ isPlain_of_isDecimalLiteral h) (hplain hcell)

/-- Only the empty text has an empty cell among the items that are read back. -/
theorem IsExactItem.eq_empty (h : item.IsExactItem) (hcell : item.cell = "") :
    item = string "" ∨ item = varchar "" := by
  cases item with
  | null => exact absurd hcell (by decide)
  | float x | double x | array items => exact h.elim
  | short n | int n | long n | date n | timestamp n =>
    exact absurd (congrArg String.toList hcell) (Text.toString_ne_nil _)
  | boolean b => cases b <;> exact absurd hcell (by decide)
  | string text => exact .inl (congrArg string hcell)
  | varchar text => exact .inr (congrArg varchar hcell)
  | decimal text =>
    obtain rfl : text = "" := hcell
    cases h

/-! ### Arrays -/

/-- The null marker is null whatever the column holds. -/
theorem read_nullMarker (type : DataType) (element : Option DataType) :
    read nullMarker type element = .ok null := by
  unfold read
  rw [readSimple_nullMarker, if_pos rfl, ite_self]

/-- Items of a type that is not named are texts. -/
theorem getD_string_ne {other : DataType} (hother : other ≠ .string) (h : element ≠ some other) :
    element.getD .string ≠ other := by
  rintro rfl
  cases element with
  | none => exact hother rfl
  | some found => exact h rfl

/-- An empty cell is the empty array. -/
theorem read_empty (helement : element ≠ some .array) :
    read "" .array element = .ok (array []) := by
  unfold read
  rw [if_neg (not_not.mpr rfl), if_neg (by decide), if_neg helement]
  rfl

/-- An array is read back from its cell exactly if its items are, and it is neither a single null
nor a single empty text. -/
theorem read_array_iff (helement : element ≠ some .array)
    (hfloat : element ≠ some .float) (hdouble : element ≠ some .double)
    (hitems : ∀ item ∈ items, item = .null ∨ item.dataType? = some (element.getD .string)) :
    read (array items).cell .array element = .ok (array items) ↔ (array items).IsExact := by
  have hexact : ∀ item ∈ items, item.IsExactItem ↔
      item.IsExact ∧ arrayDelimiter ∉ item.cell.toList := fun item hitem ↦
    isExactItem_iff (getD_string_ne (by decide) hfloat) (getD_string_ne (by decide) hdouble)
      (getD_string_ne (by decide) helement) (hitems item hitem)
  have hsimple : ∀ item ∈ items,
      readSimple item.cell (element.getD .string) = .ok item ↔ item.IsExact := fun item hitem ↦
    readSimple_cell_iff (getD_string_ne (by decide) hfloat) (getD_string_ne (by decide) hdouble)
      (getD_string_ne (by decide) helement) (hitems item hitem)
  by_cases hne : items = []
  · subst hne
    exact iff_of_true (read_empty helement) ⟨by simp, by simp, by simp, List.forall_mem_nil _⟩
  constructor
  · intro hread
    have hpieces := splitAll_of_read_array hne hread
    refine ⟨?_, ?_, ?_, fun item hitem ↦ (hexact item hitem).mpr ⟨?_, ?_⟩⟩
    · rintro rfl
      have hother := read_nullMarker .array element
      exact absurd (hread.symm.trans hother) (by simp)
    · rintro rfl
      exact absurd (hread.symm.trans (read_empty helement)) (by simp)
    · rintro rfl
      exact absurd (hread.symm.trans (read_empty helement)) (by simp)
    · exact (hsimple item hitem).mp (readSimple_of_read_array hread item hitem)
    · apply Text.not_mem_of_mem_splitAll
      rw [hpieces]
      exact List.mem_map_of_mem hitem
  · rintro ⟨hnull, hstring, hvarchar, hall⟩
    have hpieces : Text.splitAll arrayDelimiter (array items).cell = items.map cell := by
      rw [cell_array]
      refine Text.splitAll_joinWith_of_not_mem (by simpa using hne) fun text htext ↦ ?_
      obtain ⟨item, hitem, rfl⟩ := List.mem_map.mp htext
      exact ((hexact item hitem).mp (hall item hitem)).2
    -- A cell without the separator is that of a single item.
    have hsingle : arrayDelimiter ∉ (array items).cell.toList →
        ∃ item, items = [item] ∧ item.cell = (array items).cell := by
      intro hmem
      rw [Text.splitAll, Text.pieces_of_not_mem hmem, List.map_singleton,
        String.ofList_toList] at hpieces
      obtain ⟨item, hitem, hcell⟩ := List.map_eq_singleton_iff.mp hpieces.symm
      exact ⟨item, hitem, hcell⟩
    have hmarker : (array items).cell ≠ nullMarker := by
      intro hcell
      obtain ⟨item, rfl, hitem⟩ := hsingle (by rw [hcell]; decide)
      have hexactItem := hall item List.mem_cons_self
      exact hnull (congrArg (fun found ↦ [found]) (hexactItem.eq_null (hitem.trans hcell)))
    have hempty : (array items).cell ≠ "" := by
      intro hcell
      obtain ⟨item, rfl, hitem⟩ := hsingle (by rw [hcell]; decide)
      have hexactItem := hall item List.mem_cons_self
      rcases hexactItem.eq_empty (hitem.trans hcell) with rfl | rfl
      · exact hstring rfl
      · exact hvarchar rfl
    rw [read_array_eq_ok_iff hmarker hempty helement, hpieces, List.forall₂_map_left_iff,
      List.forall₂_same]
    exact fun item hitem ↦
      (hsimple item hitem).mpr ((hexact item hitem).mp (hall item hitem)).1

/-- A value is read back from its cell exactly if it is on the list, whatever the type of the
column, floating-point numbers apart. Null, whole numbers, truth values, dates and timestamps are
always on it. -/
theorem read_cell_iff (hfloat : type ≠ .float) (hdouble : type ≠ .double)
    (helement : element ≠ some .array ∧ element ≠ some .float ∧ element ≠ some .double)
    (hvalue : value = .null ∨ value.dataType? = some type)
    (hitems : ∀ items, value = .array items →
      ∀ item ∈ items, item = .null ∨ item.dataType? = some (element.getD .string)) :
    (read value.cell type element = .ok value ↔ value.IsExact) ∧
      (value = .null ∨ type ∈ [.short, .int, .long, .boolean, .date, .timestamp] →
        read value.cell type element = .ok value) := by
  have hiff : read value.cell type element = .ok value ↔ value.IsExact := by
    by_cases harray : type = .array
    · subst harray
      rcases hvalue with rfl | htype
      · exact iff_of_true (read_nullMarker .array element) trivial
      · obtain ⟨items, rfl⟩ : ∃ items, value = .array items := by
          cases value <;> simp [dataType?] at htype ⊢
        exact read_array_iff helement.1 helement.2.1 helement.2.2 (hitems items rfl)
    · have hsimple : read value.cell type element = readSimple value.cell type := if_pos harray
      rw [hsimple]
      exact readSimple_cell_iff hfloat hdouble harray hvalue
  refine ⟨hiff, fun hplain ↦ hiff.mpr ?_⟩
  rcases hvalue with rfl | htype
  · trivial
  rcases hplain with rfl | hmem
  · trivial
  -- The types of the list have no values with a condition.
  · cases value with
    | string text | varchar text | decimal text | array items =>
      cases htype
      simp at hmem
    | _ => trivial

/-- An array of two dates with a null between them. -/
theorem read_cell_of_dates :
    let value : Value := .array [.date 17957, .null, .date (-1)]
    value.dataType? = some .array ∧ value.IsExact ∧
      read value.cell .array (some .date) = .ok value := by
  intro value
  have hexact : value.IsExact := by simp [value, IsExact, IsExactItem]
  have hitems : ∀ items, value = .array items →
      ∀ item ∈ items, item = .null ∨ item.dataType? = some .date := by
    intro items hvalue
    obtain rfl : [date 17957, null, date (-1)] = items := by simpa [value] using hvalue
    simp [dataType?]
  have hiff := @read_cell_iff .array (some .date) value (by decide) (by decide)
    ⟨by decide, by decide, by decide⟩ (.inr rfl) hitems
  exact ⟨rfl, hexact, hiff.1.mpr hexact⟩

end Value

end ColumnStore
