import ColumnStore.Proofs.Value.Codec
import ColumnStore.Proofs.Value.Sorting

/-!
# Cells that are written again

A value that was read from a cell is written to a cell of its own, which may be spelled differently,
and is read again. `Value.read_cell_of_read` says what comes of it: the value itself, but for an
array of a single null, which becomes null as its cell is the null marker. Only a blank cell of an
array column is read as such an array.
-/

set_option autoImplicit false

namespace ColumnStore

/-- Nothing is left of a text without its blanks exactly if it is blank. -/
theorem Text.isEmpty_trimChars (text : String) :
    (trimChars text.toList).isEmpty = isAllBlank text := by
  rw [Bool.eq_iff_iff, List.isEmpty_iff, isAllBlank, List.all_eq_true]
  exact trimChars_eq_nil_iff

namespace Value

variable {raw : String} {type : DataType} {element : Option DataType} {value : Value}

/-- What becomes of a value when it is written to a cell and read again. -/
def settled : Value → Value
  | array [null] => null
  | value => value

theorem settled_eq_iff : value.settled = value ↔ value ≠ array [null] := by
  unfold settled
  split
  · simp
  · rename_i hother
    exact iff_of_true rfl (hother · )

/-! ### Scalars -/

/-- A cell that is read as a value other than null is not the null marker, and its text without
blanks is a scalar. -/
theorem readScalar?_of_readSimple (h : readSimple raw type = .ok value) (hvalue : value ≠ null) :
    raw ≠ nullMarker ∧ readScalar? type raw (Text.trimChars raw.toList) = some value := by
  unfold readSimple at h
  dsimp only at h
  split at h
  · cases h
    exact absurd rfl hvalue
  · rename_i hmarker
    split at h
    · cases h
      exact absurd rfl hvalue
    · split at h
      · rename_i found hfound
        cases h
        exact ⟨hmarker, hfound⟩
      · cases h

/-- A cell is read as null if it is the null marker or a blank that means null. -/
theorem readSimple_eq_null_iff : readSimple raw type = .ok null ↔
    raw = nullMarker ∨ Text.isAllBlank raw = true ∧ blankIsNull type = true := by
  have hscalar : readScalar? type raw (Text.trimChars raw.toList) ≠ some null :=
    fun hnull ↦ absurd (dataType?_of_readScalar? hnull) nofun
  unfold readSimple
  dsimp only
  rw [Text.isEmpty_trimChars, ← Bool.and_eq_true]
  split
  · rename_i hmarker
    exact iff_of_true rfl (.inl hmarker)
  · rename_i hmarker
    split
    · rename_i hblank
      exact iff_of_true rfl (.inr hblank)
    · rename_i hblank
      refine iff_of_false ?_ (not_or.mpr ⟨hmarker, hblank⟩)
      split
      · rename_i found hfound
        rintro ⟨⟩
        exact hscalar hfound
      · nofun

/-- A scalar that was read from a cell is read back from its own cell, in a column and, if the
separator does not stand in the cell, as an item of an array. -/
theorem isExact_of_readSimple (hfloat : type ≠ .float) (hdouble : type ≠ .double)
    (h : readSimple raw type = .ok value) :
    value.IsExact ∧ (arrayDelimiter ∉ raw.toList → value.IsExactItem) := by
  by_cases hnull : value = null
  · subst hnull
    exact ⟨trivial, fun _ ↦ trivial⟩
  obtain ⟨hmarker, hscalar⟩ := readScalar?_of_readSimple h hnull
  have htype := dataType?_of_readScalar? hscalar
  cases value with
  | float x => exact absurd (Option.some.inj htype).symm hfloat
  | double x => exact absurd (Option.some.inj htype).symm hdouble
  | array items =>
    obtain rfl := Option.some.inj htype
    cases hscalar
  | string text =>
    obtain rfl := Option.some.inj htype
    cases hscalar
    exact ⟨hmarker, fun hmem ↦ ⟨hmarker, hmem⟩⟩
  | varchar text =>
    obtain rfl := Option.some.inj htype
    cases hscalar
    exact ⟨hmarker, fun hmem ↦ ⟨hmarker, hmem⟩⟩
  | decimal text =>
    obtain rfl := Option.some.inj htype
    have hliteral := @isDecimalLiteral_of_read raw none text h
    exact ⟨hliteral, fun _ ↦ hliteral⟩
  | _ => exact ⟨trivial, fun _ ↦ trivial⟩

/-! ### Arrays -/

variable {item : Value} {items : List Value}

/-- The single item of an array was read from the whole cell, which is not empty. -/
theorem readSimple_of_read_singleton (h : read raw .array element = .ok (array [item])) :
    raw ≠ "" ∧ readSimple raw (element.getD .string) = .ok item := by
  have hpieces := pieces_of_read_array (List.cons_ne_nil item []) h
  rw [Text.splitAll_eq_singleton hpieces.length_eq] at hpieces
  refine ⟨?_, (List.forall₂_cons.mp hpieces).1⟩
  rintro rfl
  have helement : element ≠ some .array := by
    rintro rfl
    cases h
  exact absurd (h.symm.trans (read_empty helement)) (by simp)

/-- A cell is read as an array of a single null exactly if it is blank, but not empty, and a blank
means null for the items. -/
theorem read_eq_single_null_iff : read raw .array element = .ok (array [null]) ↔
    raw ≠ "" ∧ Text.isAllBlank raw = true ∧ blankIsNull (element.getD .string) = true := by
  constructor
  · intro h
    obtain ⟨hempty, hitem⟩ := readSimple_of_read_singleton h
    refine ⟨hempty, (readSimple_eq_null_iff.mp hitem).resolve_left ?_⟩
    rintro rfl
    exact absurd (h.symm.trans (read_nullMarker .array element)) (by simp)
  · rintro ⟨hempty, hblank, hnull⟩
    have hmarker : raw ≠ nullMarker := by
      rintro rfl
      exact absurd hblank (by decide)
    have helement : element ≠ some .array := by
      rintro rfl
      cases hnull
    have hpiece : Text.splitAll arrayDelimiter raw = [raw] := by
      have hmem : arrayDelimiter ∉ raw.toList := fun hmem ↦
        absurd (List.all_eq_true.mp hblank _ hmem) (by decide)
      rw [Text.splitAll, Text.pieces_of_not_mem hmem, List.map_singleton, String.ofList_toList]
    rw [read_array_eq_ok_iff hmarker hempty helement, hpiece]
    exact .cons (readSimple_eq_null_iff.mpr (.inr ⟨hblank, hnull⟩)) .nil

/-- A text is the whole cell that it was read from. -/
theorem eq_of_readSimple_text {text : String} (h : readSimple raw type = .ok value)
    (hvalue : value = string text ∨ value = varchar text) : raw = text := by
  have hne : value ≠ null := by
    rintro rfl
    simp at hvalue
  have hscalar := (readScalar?_of_readSimple h hne).2
  have htype := dataType?_of_readScalar? hscalar
  rcases hvalue with rfl | rfl
  · obtain rfl := Option.some.inj htype
    exact string.inj (Option.some.inj hscalar)
  · obtain rfl := Option.some.inj htype
    exact varchar.inj (Option.some.inj hscalar)

/-- A cell of an array column is read as null or as an array of items of their type. -/
theorem array_of_read (h : read raw .array element = .ok value) :
    value = null ∨ element ≠ some .array ∧ ∃ items, value = array items ∧
      ∀ item ∈ items, item = null ∨ item.dataType? = some (element.getD .string) := by
  rcases @admits_of_read raw value ⟨"", .array, element⟩ h with hnull | ⟨htype, hitems⟩
  · exact .inl hnull
  · refine .inr ⟨?_, ?_⟩
    · rintro rfl
      unfold read at h
      split at h
      · contradiction
      · split at h <;> cases h
        cases htype
    · cases value with
      | array items => exact ⟨items, rfl, hitems items rfl⟩
      | _ => cases htype

/-- The items of an array that was read from a cell survive their own cells. -/
theorem isExactItem_of_read_array (hfloat : element ≠ some .float)
    (hdouble : element ≠ some .double) (h : read raw .array element = .ok (array items)) :
    ∀ item ∈ items, item.IsExact ∧ item.IsExactItem := by
  intro item hitem
  have hpieces := pieces_of_read_array (List.ne_nil_of_mem hitem) h
  obtain ⟨piece, hpiece, hread⟩ := exists_of_mem_forall₂ hpieces hitem
  have hexact := isExact_of_readSimple (getD_string_ne (by decide) hfloat)
    (getD_string_ne (by decide) hdouble) hread
  exact ⟨hexact.1, hexact.2 (Text.not_mem_of_mem_splitAll hpiece)⟩

/-- An array that was read from a cell is read back from its own cell, unless it holds a single
null. -/
theorem isExact_of_read_array (hfloat : element ≠ some .float) (hdouble : element ≠ some .double)
    (h : read raw .array element = .ok (array items)) (hnull : items ≠ [null]) :
    (array items).IsExact := by
  -- An array of a single empty text would come from an empty cell, which is the empty array.
  have hempty : ∀ item, item = string "" ∨ item = varchar "" → items ≠ [item] := by
    rintro item hitem rfl
    obtain ⟨hraw, hread⟩ := readSimple_of_read_singleton h
    exact hraw (eq_of_readSimple_text hread hitem)
  exact ⟨hnull, hempty _ (.inl rfl), hempty _ (.inr rfl), fun item hitem ↦
    (isExactItem_of_read_array hfloat hdouble h item hitem).2⟩

end Value

/-! ### Columns -/

/-- A column without floating-point numbers. -/
structure Field.AvoidsFloats (field : Field) : Prop where
  float : field.type ≠ .float
  double : field.type ≠ .double
  floats : field.element ≠ some .float
  doubles : field.element ≠ some .double

/-- The column reads the cell as an array of a single null: the cell is blank, but not empty, and
blanks mean null for the items. -/
structure Field.ReadsSingleNull (field : Field) (raw : String) : Prop where
  array : field.type = .array
  nonempty : raw ≠ ""
  blank : Text.isAllBlank raw = true
  null : Value.blankIsNull (field.element.getD .string) = true

namespace Field

open Value

variable {field : Field} {raw : String} {value : Value}

theorem read_eq_single_null_iff :
    Value.read raw field.type field.element = .ok (.array [.null]) ↔ field.ReadsSingleNull raw := by
  by_cases harray : field.type = .array
  · rw [harray, Value.read_eq_single_null_iff]
    exact ⟨fun ⟨hempty, hblank, hnull⟩ ↦ ⟨harray, hempty, hblank, hnull⟩,
      fun h ↦ ⟨h.nonempty, h.blank, h.null⟩⟩
  · exact iff_of_false (fun h ↦ harray (admits_of_read h).type_eq) fun h ↦ harray h.array

/-- A value that a column reads from a cell settles when it is written to a cell of its own and read
again. -/
theorem AvoidsFloats.read_cell (hfloats : field.AvoidsFloats)
    (h : Value.read raw field.type field.element = .ok value) :
    Value.read value.cell field.type field.element = .ok value.settled := by
  by_cases harray : field.type = .array
  · rw [harray] at h ⊢
    rcases array_of_read h with rfl | ⟨helement, items, rfl, hitems⟩
    · exact read_nullMarker .array field.element
    by_cases hnull : items = [.null]
    · subst hnull
      exact read_nullMarker .array field.element
    · have hexact := isExact_of_read_array hfloats.floats hfloats.doubles h hnull
      rw [settled_eq_iff.mpr fun hvalue ↦ hnull (array.inj hvalue)]
      exact (read_array_iff helement hfloats.floats hfloats.doubles hitems).mpr hexact
  · have hadmits := admits_of_read h
    have hexact := (isExact_of_readSimple hfloats.float hfloats.double
      ((if_pos harray).symm.trans h)).1
    have hsettled : value.settled = value := settled_eq_iff.mpr fun hvalue ↦
      harray (read_eq_single_null_iff.mp (hvalue ▸ h)).array
    rw [hsettled]
    exact (if_pos harray).trans ((readSimple_cell_iff hfloats.float hfloats.double harray
      (hadmits.imp_right And.left)).mpr hexact)

/-- The items of an array that a column reads from a cell are carried one by one. -/
theorem AvoidsFloats.carriesItems (hfloats : field.AvoidsFloats)
    (h : Value.read raw field.type field.element = .ok value) : field.CarriesItems value := by
  refine ⟨admits_of_read h, ?_⟩
  rintro items rfl item hitem
  rw [(admits_of_read h).type_eq] at h
  rcases array_of_read h with hnull | ⟨helement, _, ⟨⟩, hitems⟩
  · cases hnull
  · have hexact := isExactItem_of_read_array hfloats.floats hfloats.doubles h item hitem
    exact (readSimple_cell_iff (getD_string_ne (by decide) hfloats.floats)
      (getD_string_ne (by decide) hfloats.doubles) (getD_string_ne (by decide) helement)
      (hitems item hitem)).mpr hexact.1

end Field

/-! ### Records -/

section Records

variable {schema : Schema} {record : List String} {row : Row}

/-- The cells of a row that a record stands for stand for the row with settled values. -/
theorem Schema.parsed?_cells_of_parsed? (hfloats : ∀ field ∈ schema.fields, field.AvoidsFloats)
    (h : schema.parsed? record = some row) :
    schema.parsed? (Value.cells row) = some (row.map Value.settled) := by
  refine Schema.parsed?_cells Value.settled ?_
  refine ((List.forall₂_and_left _ _).mpr ⟨hfloats, forall₂_read_of_parsed? h⟩).imp ?_
  rintro field value ⟨hfield, cell, hread⟩
  exact hfield.read_cell hread

/-- The items of a row that a record stands for are carried. -/
theorem Schema.carriesItems_of_parsed? (hfloats : ∀ field ∈ schema.fields, field.AvoidsFloats)
    (h : schema.parsed? record = some row) : schema.CarriesItems row := by
  refine ((List.forall₂_and_left _ _).mpr ⟨hfloats, forall₂_read_of_parsed? h⟩).imp ?_
  rintro field value ⟨hfield, cell, hread⟩
  exact hfield.carriesItems hread

end Records

end ColumnStore
