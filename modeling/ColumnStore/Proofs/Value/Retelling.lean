import ColumnStore.Proofs.Value.Settling

/-!
# Rows that can be told

An accessor is handed the items of an array as the texts of their cells and reads them again. The
text of a floating-point number is one of three words or a decimal literal, whatever its digits are,
so it is read as some number; every other item survives its cell. So every row that a record stands
for can be told, with floating-point numbers or without.
-/

set_option autoImplicit false

namespace ColumnStore

/-! ### The texts of floating-point numbers -/

/-- A sign in front of a row of digits is taken off. -/
theorem Text.takeSign_of_digits (negative : Bool) {whole : List Char} (h : isDigits whole = true)
    (tail : List Char) :
    takeSign ((if negative then ['-'] else []) ++ (whole ++ tail)) = (negative, whole ++ tail) := by
  cases negative with
  | true => rfl
  | false =>
    cases whole with
    | nil => cases h
    | cons c rest =>
      have hdigit : c.isDigit = true := by
        simp only [isDigits, Bool.and_eq_true, List.all_cons] at h
        exact h.2.1
      rw [if_neg Bool.false_ne_true, List.nil_append, List.cons_append]
      unfold takeSign
      split
      · rename_i heq
        cases heq
        cases hdigit
      · rename_i heq
        cases heq
        cases hdigit
      · rfl

/-- Digits, and perhaps a point and more digits. -/
def Text.IsMagnitude (cs : List Char) : Prop :=
  ∃ whole tail, cs = whole ++ tail ∧ isDigits whole = true ∧
    (tail = [] ∨ ∃ fraction, tail = '.' :: fraction ∧ ∀ c ∈ fraction, c.isDigit = true)

theorem Text.isMagnitude_of_isDigits {cs : List Char} (h : isDigits cs = true) : IsMagnitude cs :=
  ⟨cs, [], (List.append_nil cs).symm, h, .inl rfl⟩

/-- Digits with a point in them or without one are a decimal literal, behind a minus sign or without
one. -/
theorem Value.isDecimalLiteral_of_isMagnitude {cs : List Char} (h : Text.IsMagnitude cs)
    (negative : Bool) : isDecimalLiteral ((if negative then ['-'] else []) ++ cs) = true := by
  obtain ⟨whole, tail, rfl, hwhole, htail⟩ := h
  have hall : whole.all Char.isDigit = true := (Bool.and_eq_true_iff.mp hwhole).2
  have hpoint : '.' ∉ whole := fun hmem ↦
    absurd (List.all_eq_true.mp hall '.' hmem) (by decide)
  have hsome : whole.isEmpty = false := by
    simpa [Text.isDigits] using (Bool.and_eq_true_iff.mp hwhole).1
  unfold isDecimalLiteral
  rw [Text.takeSign_of_digits negative hwhole tail]
  dsimp only
  rcases htail with rfl | ⟨fraction, rfl, hfraction⟩
  · rw [List.append_nil, Text.cutFirst_eq_none hpoint]
    exact hwhole
  · rw [Text.cutFirst_append_cons hpoint]
    simp [hsome, hall, List.all_eq_true.mpr hfraction]

/-- Digits are placed around the point, with zeros where there are none. -/
theorem NumberStyle.isMagnitude_positionalText {digits : List Char}
    (h : ∀ c ∈ digits, c.isDigit = true) (point : Int) :
    Text.IsMagnitude (plain.positionalText digits point).toList := by
  have hzeros : ∀ count, ∀ c ∈ List.replicate count '0', c.isDigit = true := by
    intro count c hc
    rw [List.eq_of_mem_replicate hc]
    rfl
  have hdigits : ∀ {cs : List Char}, cs ≠ [] → (∀ c ∈ cs, c.isDigit = true) →
      Text.isDigits cs = true := by
    intro cs hne hall
    rw [Text.isDigits, List.isEmpty_eq_false_iff.mpr hne, List.all_eq_true.mpr hall]
    rfl
  unfold positionalText
  split
  · refine ⟨['0'], '.' :: (List.replicate (-point).toNat '0' ++ digits), ?_, rfl,
      .inr ⟨_, rfl, fun c hc ↦ ?_⟩⟩
    · simp
    · exact (List.mem_append.mp hc).elim (hzeros _ c) (h c)
  · rename_i hpoint
    split
    · rename_i hlength
      rw [show plain.wholeSuffix = "" from rfl, String.append_empty, String.toList_ofList]
      refine Text.isMagnitude_of_isDigits (hdigits ?_ fun c hc ↦ ?_)
      · rw [← List.length_pos_iff, List.length_append, List.length_replicate]
        omega
      · exact (List.mem_append.mp hc).elim (h c) (hzeros _ c)
    · rename_i hlength
      rw [String.toList_ofList]
      refine ⟨digits.take point.toNat, '.' :: digits.drop point.toNat, rfl, hdigits ?_ ?_,
        .inr ⟨_, rfl, ?_⟩⟩
      · rw [← List.length_pos_iff, List.length_take]
        omega
      · exact fun c hc ↦ h c (List.mem_of_mem_take hc)
      · exact fun c hc ↦ h c (List.mem_of_mem_drop hc)

/-- The digits of a number are digits, whatever zeros are left away. -/
theorem Scientific.isDigit_of_mem_normal {number : Scientific} {c : Char}
    (h : c ∈ number.normal.1) : c.isDigit = true := by
  have hmem : c ∈ Nat.toDigits 10 number.digits := by
    have hrest := List.mem_reverse.mp h
    exact List.mem_reverse.mp ((List.dropWhile_sublist _).subset hrest)
  exact Nat.isDigit_of_mem_toDigits (by decide) (by decide) hmem

/-- The plain text of a floating-point number is one of three words or a decimal literal. -/
theorem Binary.text_plain_cases {format : Format} (x : Binary format) :
    x.text .plain = "NaN" ∨ x.text .plain = "inf" ∨ x.text .plain = "-inf" ∨
      Value.isDecimalLiteral (x.text .plain).toList = true := by
  unfold Binary.text
  split
  · exact .inl rfl
  · rename_i negative _
    cases negative with
    | false => exact .inr (.inl rfl)
    | true => exact .inr (.inr (.inl rfl))
  · rename_i negative mantissa exponent _
    refine .inr (.inr (.inr ?_))
    have hmagnitude : Text.IsMagnitude
        (NumberStyle.plain.magnitudeText format mantissa exponent).toList := by
      unfold NumberStyle.magnitudeText
      split
      · exact Text.isMagnitude_of_isDigits rfl
      · exact NumberStyle.isMagnitude_positionalText (fun _ ↦ Scientific.isDigit_of_mem_normal) _
    have hsign : (if negative then "-" else "").toList = if negative then ['-'] else [] := by
      cases negative <;> rfl
    rw [String.toList_append, hsign]
    exact Value.isDecimalLiteral_of_isMagnitude hmagnitude negative

/-- The plain text of a floating-point number is read as a number, in either format. -/
theorem Value.exists_readSimple_text {format : Format} (x : Binary format) {type : DataType}
    (htype : type = .float ∨ type = .double) :
    ∃ value, readSimple (x.text .plain) type = .ok value := by
  rcases x.text_plain_cases with hword | hword | hword | hliteral
  · rw [hword]
    rcases htype with rfl | rfl <;> exact ⟨_, rfl⟩
  · rw [hword]
    rcases htype with rfl | rfl <;> exact ⟨_, rfl⟩
  · rw [hword]
    rcases htype with rfl | rfl <;> exact ⟨_, rfl⟩
  · have hne : (x.text .plain).toList ≠ [] := by
      intro hnil
      rw [hnil] at hliteral
      cases hliteral
    have hscalar : ∃ value, readScalar? type (x.text .plain) (x.text .plain).toList =
        some value := by
      rcases htype with rfl | rfl
      · obtain ⟨_, _, -, -, hread⟩ := Binary.read_of_isDecimalLiteral hliteral .single
        exact ⟨_, by rw [readScalar?, hread]; rfl⟩
      · obtain ⟨_, _, -, -, hread⟩ := Binary.read_of_isDecimalLiteral hliteral .double
        exact ⟨_, by rw [readScalar?, hread]; rfl⟩
    obtain ⟨value, hvalue⟩ := hscalar
    exact ⟨value, readSimple_of_isPlain hne (fun c ↦ isPlain_of_isDecimalLiteral hliteral) hvalue⟩

/-! ### Items and rows -/

/-- A scalar that was read from a cell is read again from its own cell, if perhaps as another
one. -/
theorem Value.exists_readSimple_cell {raw : String} {type : DataType} {value : Value}
    (h : readSimple raw type = .ok value) :
    ∃ again, readSimple value.cell type = .ok again := by
  rcases dataType?_of_readSimple h with rfl | htype
  · exact ⟨.null, readSimple_nullMarker type⟩
  by_cases hfloats : type = .float ∨ type = .double
  · cases value with
    | float x => exact exists_readSimple_text x hfloats
    | double x => exact exists_readSimple_text x hfloats
    | _ => rcases hfloats with rfl | rfl <;> cases htype
  · obtain ⟨hfloat, hdouble⟩ := not_or.mp hfloats
    have harray : type ≠ .array := by
      rintro rfl
      have hne : value ≠ null := by
        rintro rfl
        cases htype
      cases (readScalar?_of_readSimple h hne).2
    exact ⟨value, (readSimple_cell_iff hfloat hdouble harray (.inr htype)).mpr
      (isExact_of_readSimple hfloat hdouble h).1⟩

/-- A value that a column reads from a cell can be told. -/
theorem Field.exists_retells_of_read {field : Field} {raw : String} {value : Value}
    (h : Value.read raw field.type field.element = .ok value) :
    ∃ told, field.Retells value told := by
  have hadmits : field.Admits value := admits_of_read h
  cases value with
  | array items =>
    rw [hadmits.type_eq] at h
    have hitems : ∀ item ∈ items, ∃ again,
        Value.readSimple item.cell (field.element.getD .string) = .ok again := by
      intro item hitem
      have hpieces := pieces_of_read_array (List.ne_nil_of_mem hitem) h
      obtain ⟨piece, -, hpiece⟩ := exists_of_mem_forall₂ hpieces hitem
      exact Value.exists_readSimple_cell hpiece
    obtain ⟨again, hagain⟩ := exists_forall₂ hitems
    have helement : field.element ≠ some .array :=
      (Value.array_of_read h).elim nofun And.left
    exact ⟨.array again, hadmits, helement, again, rfl, hagain⟩
  | _ => exact ⟨_, hadmits, rfl⟩

/-- A row that a record stands for can be told. -/
theorem Schema.exists_retells_of_parsed? {schema : Schema} {record : List String} {row : Row}
    (h : schema.parsed? record = some row) : ∃ told, schema.Retells row told := by
  refine Schema.exists_retells ((forall₂_read_of_parsed? h).imp ?_)
  rintro field value ⟨cell, hread⟩
  exact Field.exists_retells_of_read hread

end ColumnStore
