import ColumnStore.Proofs.Text.Pieces
import ColumnStore.Proofs.Value.Typing

/-!
# Values that survive their cells

A column carries a value if the cell of the value is read as the value itself. A record of the cells
of a row stands for the row if every column carries its value. The items of an array that is carried
are carried one by one: the separator stands in none of their cells, as there would be more pieces
than items otherwise.
-/

set_option autoImplicit false

namespace ColumnStore

/-- The cell of the value is read as the value. -/
def Field.Carries (field : Field) (value : Value) : Prop :=
  Value.read value.cell field.type field.element = .ok value

/-- The row has one cell for each column, and every column carries its cell. -/
def Schema.Carries (schema : Schema) (row : Row) : Prop :=
  List.Forall₂ Field.Carries schema.fields row

/-! ### Records -/

/-- If the cell of every value is read as what the value turns into, the cells of the row stand for
what its values turn into. -/
theorem Schema.parsed?_cells {schema : Schema} {row : Row} (turn : Value → Value)
    (h : List.Forall₂ (fun field value ↦
      Value.read value.cell field.type field.element = .ok (turn value)) schema.fields row) :
    schema.parsed? (Value.cells row) = some (row.map turn) := by
  have hcells : ∀ (fields : List Field) (row : Row), List.Forall₂ (fun field value ↦
      Value.read value.cell field.type field.element = .ok (turn value)) fields row →
      List.Forall₂ (fun entry value ↦ (Value.read entry.1 entry.2.type entry.2.element).toOption =
        some value) ((row.map Value.cell).zip fields) (row.map turn) := by
    intro fields row hfields
    induction hfields with
    | nil => exact .nil
    | cons hcell _ ih => exact .cons (congrArg Except.toOption hcell) ih
  have hlength : (Value.cells row).length = schema.length := by
    rw [Value.cells_eq_map, List.length_map]
    exact h.length_eq.symm
  unfold Schema.parsed?
  rw [if_pos hlength, mapM_eq_some_iff, Value.cells_eq_map]
  exact hcells schema.fields row h

/-- The cells of a row that is carried stand for the row. -/
theorem Schema.Carries.parsed? {schema : Schema} {row : Row} (h : schema.Carries row) :
    schema.parsed? (Value.cells row) = some row :=
  (Schema.parsed?_cells id h).trans (congrArg some (List.map_id row))

/-! ### Arrays -/

section Arrays

variable {raw : String} {element : Option DataType} {items : List Value}

/-- A cell that is neither the null marker nor empty is read piece by piece as an array. -/
theorem read_array_eq_ok_iff (hmarker : raw ≠ Value.nullMarker) (hempty : raw ≠ "")
    (helement : element ≠ some .array) :
    Value.read raw .array element = .ok (.array items) ↔
      List.Forall₂ (fun piece item ↦
        Value.readSimple piece (element.getD .string) = .ok item)
          (Text.splitAll Value.arrayDelimiter raw) items := by
  unfold Value.read
  rw [if_neg (not_not.mpr rfl), if_neg hmarker, if_neg helement,
    if_neg (fun hnone ↦ hempty (String.isEmpty_iff.mp hnone)), bind_eq_ok_iff, ← mapM_eq_ok_iff]
  simp

/-- The items of an array were read from the pieces of its cell, unless there are none. -/
theorem pieces_of_read_array (hne : items ≠ [])
    (h : Value.read raw .array element = .ok (.array items)) :
    List.Forall₂ (fun piece item ↦ Value.readSimple piece (element.getD .string) = .ok item)
      (Text.splitAll Value.arrayDelimiter raw) items := by
  have hread := h
  unfold Value.read at hread
  rw [if_neg (not_not.mpr rfl)] at hread
  by_cases hmarker : raw = Value.nullMarker
  · rw [if_pos hmarker] at hread
    cases hread
  by_cases helement : element = some .array
  · rw [if_neg hmarker, if_pos helement] at hread
    cases hread
  by_cases hempty : raw = ""
  · rw [if_neg hmarker, if_neg helement, if_pos (String.isEmpty_iff.mpr hempty)] at hread
    cases hread
    exact absurd rfl hne
  · exact (read_array_eq_ok_iff hmarker hempty helement).mp h

/-- The cell of an array with items joins the cells of the items. -/
theorem cell_array (items : List Value) :
    (Value.array items).cell =
      Text.joinWith (String.singleton Value.arrayDelimiter) (items.map Value.cell) := by
  rw [Value.cell, Value.cells_eq_map]

/-- The pieces of the cell of an array that is carried are the cells of its items. -/
theorem splitAll_of_read_array (hne : items ≠ [])
    (h : Value.read (Value.array items).cell .array element = .ok (.array items)) :
    Text.splitAll Value.arrayDelimiter (Value.array items).cell = items.map Value.cell := by
  have hlength := (pieces_of_read_array hne h).length_eq
  rw [cell_array] at hlength ⊢
  exact Text.splitAll_joinWith (by simpa using hne) (by rw [hlength, List.length_map])

/-- The items of an array that is carried are carried one by one. -/
theorem readSimple_of_read_array
    (h : Value.read (Value.array items).cell .array element = .ok (.array items)) :
    ∀ item ∈ items, Value.readSimple item.cell (element.getD .string) = .ok item := by
  by_cases hne : items = []
  · subst hne
    exact List.forall_mem_nil _
  · have hread := pieces_of_read_array hne h
    rw [splitAll_of_read_array hne h, List.forall₂_map_left_iff, List.forall₂_same] at hread
    exact hread

end Arrays

/-! ### Items -/

/-- The column admits the value, and the items of an array survive their cells one by one. The array
itself need not: the cell of an array of a single null is the null marker. -/
def Field.CarriesItems (field : Field) (value : Value) : Prop :=
  field.Admits value ∧ ∀ items, value = .array items →
    ∀ item ∈ items, Value.readSimple item.cell (field.element.getD .string) = .ok item

/-- The row has one cell for each column, and every column carries the items of its cell. -/
def Schema.CarriesItems (schema : Schema) (row : Row) : Prop :=
  List.Forall₂ Field.CarriesItems schema.fields row

/-- The column admits the value, and it is told as `told`: the items of an array, which are no
arrays themselves, are read again, each from its cell, and every other value is told as it is. -/
def Field.Retells (field : Field) (value told : Value) : Prop :=
  field.Admits value ∧
    match value with
    | .array items => field.element ≠ some .array ∧ ∃ again, told = .array again ∧
        List.Forall₂ (fun item again ↦
          Value.readSimple item.cell (field.element.getD .string) = .ok again) items again
    | _ => told = value

/-- Every value of the row has a column that tells it as the value at its place. -/
structure Schema.Retells (schema : Schema) (row told : Row) : Prop where
  length : told.length = row.length
  cells : ∀ (ordinal : Nat) (value : Value), row[ordinal]? = some value →
    ∃ (field : Field) (again : Value), schema.fields[ordinal]? = some field ∧
      told[ordinal]? = some again ∧ field.Retells value again

/-- Items that are carried are told as they are. -/
theorem Field.CarriesItems.retells {field : Field} {value : Value} (h : field.CarriesItems value)
    (hwell : field.IsWellFormed) : field.Retells value value := by
  refine ⟨h.1, ?_⟩
  cases value with
  | array items =>
    refine ⟨?_, items, rfl, List.forall₂_same.mpr (h.2 items rfl)⟩
    unfold Field.IsWellFormed at hwell
    rw [h.1.type_eq] at hwell
    obtain ⟨element, helement, hscalar⟩ := hwell
    rw [helement]
    exact fun hsame ↦ hscalar (Option.some.inj hsame)
  | _ => rfl

theorem Schema.CarriesItems.retells {schema : Schema} {row : Row} (h : schema.CarriesItems row)
    (hwell : ∀ field ∈ schema.fields, field.IsWellFormed) : schema.Retells row row := by
  refine ⟨rfl, fun ordinal value hvalue ↦ ?_⟩
  obtain ⟨field, hfield, hcarries⟩ := getElem?_of_forall₂ h.flip hvalue
  have hfieldWell := hwell field (List.mem_of_getElem? hfield)
  exact ⟨field, value, hfield, hvalue, Field.CarriesItems.retells hcarries hfieldWell⟩

/-- A row of which every value can be told can be told as a whole. -/
theorem Schema.exists_retells {schema : Schema} {row : Row}
    (h : List.Forall₂ (fun field value ↦ ∃ told, Field.Retells field value told) schema.fields
      row) : ∃ told, schema.Retells row told := by
  have hentries : ∀ entry ∈ schema.fields.zip row, ∃ told, Field.Retells entry.1 entry.2 told := by
    rintro ⟨field, value⟩ hentry
    exact (List.forall₂_iff_zip.mp h).2 hentry
  obtain ⟨told, htold⟩ := exists_forall₂ hentries
  have hlength : (schema.fields.zip row).length = row.length := by
    rw [List.length_zip, h.length_eq, Nat.min_self]
  refine ⟨told, htold.length_eq.symm.trans hlength, fun ordinal value hvalue ↦ ?_⟩
  obtain ⟨field, hfield, -⟩ := getElem?_of_forall₂ h.flip hvalue
  have hentry : (schema.fields.zip row)[ordinal]? = some (field, value) :=
    List.getElem?_zip_eq_some.mpr ⟨hfield, hvalue⟩
  obtain ⟨again, hagain, hretells⟩ := getElem?_of_forall₂ htold hentry
  exact ⟨field, again, hfield, hagain, hretells⟩

/-- A column that carries an array carries its items. -/
theorem Field.Carries.carriesItems {field : Field} {value : Value} (h : field.Carries value) :
    field.CarriesItems value := by
  have hadmits : field.Admits value := admits_of_read h
  refine ⟨hadmits, ?_⟩
  rintro items rfl
  rcases hadmits with hnull | ⟨htype, -⟩
  · cases hnull
  · have harray : field.type = .array := (Option.some.inj htype).symm
    rw [Field.Carries, harray] at h
    exact readSimple_of_read_array h

theorem Schema.Carries.carriesItems {schema : Schema} {row : Row} (h : schema.Carries row) :
    schema.CarriesItems row :=
  h.imp fun _ _ ↦ Field.Carries.carriesItems

end ColumnStore
