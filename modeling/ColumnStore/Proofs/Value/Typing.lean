import ColumnStore.Proofs.Writer.Writing

/-!
# Values and the types of columns

A column admits null, the values of its type, and for arrays only items that are null or of the type
of its items. Every row that a record stands for is admitted by the schema it was read with. Another
schema admits such a row exactly if the two agree column by column on the kind of the column, but
for columns in which the row holds nothing that has a type.
-/

set_option autoImplicit false

namespace ColumnStore

/-- A value that the column may hold. -/
def Field.Admits (field : Field) (value : Value) : Prop :=
  value = .null ∨ value.dataType? = some field.type ∧
    ∀ items, value = .array items →
      ∀ item ∈ items, item = .null ∨ item.dataType? = some (field.element.getD .string)

/-- The row has exactly one cell for each column, and every column admits its cell. -/
def Schema.Admits (schema : Schema) (row : Row) : Prop :=
  List.Forall₂ Field.Admits schema.fields row

/-- Every row is admitted. -/
def Schema.AdmitsAll (schema : Schema) (rows : List Row) : Prop :=
  ∀ row ∈ rows, schema.Admits row

/-- The type of a column, and the type of its items if it holds arrays. -/
def Field.kind (field : Field) : DataType × Option DataType :=
  (field.type, if field.type = .array then some (field.element.getD .string) else none)

/-- The kinds of the columns, in order. -/
def Schema.kinds (schema : Schema) : List (DataType × Option DataType) :=
  schema.fields.map Field.kind

/-- A column is as good as another one for a value of the other: the two are of one kind, or the
value has no type of its own to tell them apart, being null or an array of nulls. -/
def Field.Suits (field own : Field) (value : Value) : Prop :=
  own.kind = field.kind ∨ value = .null ∨
    own.type = field.type ∧ ∃ items, value = .array items ∧ ∀ item ∈ items, item = .null

/-- A schema has as many columns as another one, each as good as the other's for its cell. -/
def Schema.Suits (schema own : Schema) (row : Row) : Prop :=
  List.Forall₂ (fun field entry ↦ field.Suits entry.1 entry.2) schema.fields
    (own.fields.zip row)

variable {raw : String} {type : DataType} {element : Option DataType} {value : Value}
  {field own : Field}

/-- The name of a type is read as the type. -/
theorem DataType.read_name (type : DataType) : DataType.read type.name = .ok type := by
  cases type <;> rfl

/-- Only columns of arrays admit arrays. -/
theorem Field.Admits.type_eq {items : List Value} (h : field.Admits (.array items)) :
    field.type = .array := by
  rcases h with hnull | ⟨htype, -⟩
  · cases hnull
  · exact (Option.some.inj htype).symm

/-! ### Cells that were read -/

theorem dataType?_of_readScalar? {cs : List Char}
    (h : Value.readScalar? type raw cs = some value) : value.dataType? = some type := by
  cases type <;> simp only [Value.readScalar?, Option.map_eq_some_iff] at h
  case int | date | long | timestamp | double | short | float =>
    obtain ⟨n, -, rfl⟩ := h
    rfl
  case string | varchar =>
    cases h
    rfl
  case decimal =>
    split at h <;> cases h
    rfl
  case boolean =>
    split at h
    · cases h
      rfl
    · split at h <;> cases h
      rfl
  case array => cases h

theorem dataType?_of_readSimple (h : Value.readSimple raw type = .ok value) :
    value = .null ∨ value.dataType? = some type := by
  unfold Value.readSimple at h
  dsimp only at h
  split at h
  · cases h
    exact .inl rfl
  · split at h
    · cases h
      exact .inl rfl
    · split at h
      · rename_i found hfound
        cases h
        exact .inr (dataType?_of_readScalar? hfound)
      · cases h

/-- A cell that reads as a value of a column is one that the column admits. -/
theorem admits_of_read (h : Value.read raw field.type field.element = .ok value) :
    field.Admits value := by
  unfold Value.read at h
  split at h
  · rename_i hscalar
    rcases dataType?_of_readSimple h with hnull | htype
    · exact .inl hnull
    · refine .inr ⟨htype, ?_⟩
      rintro items rfl
      exact absurd (Option.some.inj htype).symm hscalar
  · rename_i harray
    have htype : field.type = .array := not_not.mp harray
    split at h
    · cases h
      exact .inl rfl
    · split at h
      · cases h
      · split at h
        · cases h
          exact .inr ⟨congrArg some htype.symm, by rintro items ⟨⟩; simp⟩
        · obtain ⟨items, hitems, hvalue⟩ := bind_eq_ok_iff.mp h
          cases hvalue
          refine .inr ⟨congrArg some htype.symm, ?_⟩
          rintro _ ⟨⟩ item hmem
          obtain ⟨cell, -, hcell⟩ := exists_of_mem_forall₂ (mapM_eq_ok_iff.mp hitems) hmem
          exact dataType?_of_readSimple hcell

/-- The cells of a row that a record stands for were read from the cells of the record. -/
theorem forall₂_read_of_parsed? {schema : Schema} {record : List String} {row : Row}
    (h : schema.parsed? record = some row) :
    List.Forall₂ (fun field value ↦
      ∃ cell, Value.read cell field.type field.element = .ok value) schema.fields row := by
  unfold Schema.parsed? at h
  split at h
  · rename_i hlength
    refine (forall₂_of_zip hlength (mapM_eq_some_iff.mp h)).imp ?_
    rintro field value ⟨cell, hcell⟩
    refine ⟨cell, ?_⟩
    cases hread : Value.read cell field.type field.element with
    | error error => simp [hread, Except.toOption] at hcell
    | ok found =>
      simp only [hread, Except.toOption, Option.some.injEq] at hcell
      rw [hcell]
  · cases h

/-- The row that a record stands for is admitted by the schema. -/
theorem admits_of_parsed? {schema : Schema} {record : List String} {row : Row}
    (h : schema.parsed? record = some row) : schema.Admits row :=
  (forall₂_read_of_parsed? h).imp fun _ _ ⟨_, hread⟩ ↦ admits_of_read hread

/-! ### Two columns for one cell -/

theorem kind_eq_iff :
    own.kind = field.kind ↔ own.type = field.type ∧
      (own.type = .array → own.element.getD .string = field.element.getD .string) := by
  unfold Field.kind
  rw [Prod.mk.injEq]
  refine and_congr_right fun htype ↦ ?_
  rw [← htype]
  by_cases harray : own.type = .array <;> simp [harray]

/-- A value of one column is admitted by another one exactly if that one is as good for it. -/
theorem Field.Admits.iff_suits (h : own.Admits value) :
    field.Admits value ↔ field.Suits own value := by
  rcases h with hnull | ⟨htype, hitems⟩
  · exact ⟨fun _ ↦ .inr (.inl hnull), fun _ ↦ .inl hnull⟩
  have hvalue : value ≠ .null := by
    rintro rfl
    cases htype
  constructor
  · rintro (hnull | ⟨hother, hadmitted⟩)
    · exact absurd hnull hvalue
    have hsame : own.type = field.type := Option.some.inj (htype.symm.trans hother)
    by_cases hkind : own.kind = field.kind
    · exact .inl hkind
    -- Columns of one type and of two kinds hold arrays of two types of items.
    · have hdiffer : own.type = .array ∧ own.element.getD .string ≠ field.element.getD .string := by
        simpa [kind_eq_iff, hsame] using hkind
      obtain ⟨items, rfl⟩ : ∃ items, value = .array items := by
        rw [hdiffer.1] at htype
        cases value <;> simp [Value.dataType?] at htype ⊢
      refine .inr (.inr ⟨hsame, items, rfl, fun item hitem ↦ ?_⟩)
      rcases hitems items rfl item hitem with hnull | hfirst
      · exact hnull
      rcases hadmitted items rfl item hitem with hnull | hsecond
      · exact hnull
      exact absurd (Option.some.inj (hfirst.symm.trans hsecond)) hdiffer.2
  · rintro (hkind | hnull | ⟨hsame, items, rfl, hnulls⟩)
    · obtain ⟨hsame, helement⟩ := kind_eq_iff.mp hkind
      refine .inr ⟨hsame ▸ htype, ?_⟩
      rintro items rfl item hitem
      have harray : own.type = .array := (Option.some.inj htype).symm
      rw [← helement harray]
      exact hitems items rfl item hitem
    · exact absurd hnull hvalue
    · refine .inr ⟨hsame ▸ htype, ?_⟩
      rintro _ ⟨⟩ item hitem
      exact .inl (hnulls item hitem)

/-- A row of one schema is admitted by another one exactly if that one is as good for it. -/
theorem Schema.Admits.iff_suits {schema own : Schema} {row : Row} (h : own.Admits row) :
    schema.Admits row ↔ schema.Suits own row := by
  obtain ⟨fields⟩ := schema
  obtain ⟨columns⟩ := own
  change List.Forall₂ _ columns row at h
  change List.Forall₂ _ fields row ↔ List.Forall₂ _ fields (columns.zip row)
  induction h generalizing fields with
  | nil => rw [List.zip_nil_left, List.forall₂_nil_right_iff, List.forall₂_nil_right_iff]
  | cons hcell _ ih =>
    rw [List.zip_cons_cons, List.forall₂_cons_right_iff, List.forall₂_cons_right_iff]
    simp only [hcell.iff_suits, ih]

/-- A schema is as good as another one of the same kinds for all its rows. -/
theorem Schema.Admits.suits_of_kinds {schema own : Schema} {row : Row} (h : own.Admits row)
    (hkinds : own.kinds = schema.kinds) : schema.Suits own row := by
  obtain ⟨fields⟩ := schema
  obtain ⟨columns⟩ := own
  change List.Forall₂ _ columns row at h
  change columns.map Field.kind = fields.map Field.kind at hkinds
  change List.Forall₂ _ fields (columns.zip row)
  induction h generalizing fields with
  | nil =>
    have hnone : fields = [] := by simpa using hkinds.symm
    rw [hnone]
    exact .nil
  | cons hcell _ ih =>
    cases fields with
    | nil => cases hkinds
    | cons field fields =>
      obtain ⟨hkind, hkinds⟩ := List.cons.inj hkinds
      exact .cons (.inl hkind) (ih fields hkinds)

end ColumnStore
