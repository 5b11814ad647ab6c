import ColumnStore.Proofs.Json.Denoting
import ColumnStore.Proofs.Traversal
import ColumnStore.Schema.Text

/-!
# Schemas as texts

The text of a well-formed schema is read as the schema, whatever the names of its columns are.
-/

set_option autoImplicit false

namespace ColumnStore

/-- The text of a schema denotes an array of objects with one member each. -/
theorem Schema.denotes_text (schema : Schema) :
    Json.Denotes schema.text (.array (schema.fields.map fun field ↦
      .object [(some field.name, .text (some field.typeText))])) := by
  refine Json.denotes_arrayText ?_
  rw [List.forall₂_map_left_iff, List.forall₂_map_right_iff, List.forall₂_same]
  intro field _
  exact Json.denotes_objectText (.cons ⟨rfl, Json.denotes_quoted field.typeText⟩ .nil)

/-- The text of a schema is strict. -/
theorem Schema.objects?_text (schema : Schema) :
    objects? schema.text =
      some (schema.fields.map fun field ↦ [(field.name, .text (some field.typeText))]) := by
  have hsound : ∀ fields : List Field, Json.areSound 126 (fields.map fun field ↦
      .object [(some field.name, .text (some field.typeText))]) = true := by
    intro fields
    induction fields with
    | nil => rfl
    | cons field fields ih =>
      rw [List.map_cons, Json.areSound, ih]
      rfl
  have hread : Json.readSound schema.text = some (.array (schema.fields.map fun field ↦
      .object [(some field.name, .text (some field.typeText))])) := by
    rw [Json.readSound, schema.denotes_text.read_eq, Option.filter_some, Json.isSound]
    exact if_pos (hsound schema.fields)
  unfold objects?
  rw [hread]
  dsimp only
  rw [mapM_eq_some_iff, List.forall₂_map_left_iff, List.forall₂_map_right_iff, List.forall₂_same]
  exact fun field _ ↦ rfl

theorem Schema.pairs_text (schema : Schema) :
    pairs schema.text = .ok (schema.fields.map fun field ↦ (field.name, field.typeText)) := by
  unfold pairs
  rw [objects?_text]
  dsimp only
  rw [← List.flatMap_def, ← List.map_eq_flatMap, mapM_eq_ok_iff, List.forall₂_map_left_iff,
    List.forall₂_map_right_iff, List.forall₂_same]
  exact fun field _ ↦ rfl

theorem Field.read_schemaName (name : String) {type : DataType} (h : type ≠ .array) :
    Field.read name type.schemaName = .ok (.scalar name type) := by
  cases type <;> simp only [DataType.schemaName]
  case array => exact absurd rfl h
  all_goals rfl

theorem Field.read_array (name : String) {element : DataType} (h : element ≠ .array) :
    Field.read name (Field.array name element).typeText = .ok (.array name element) := by
  cases element <;> simp only [Field.array, Field.typeText, DataType.schemaName]
  case array => exact absurd rfl h
  all_goals rfl

/-- The type text of a well-formed column is read as its type. -/
theorem Field.IsWellFormed.read_typeText {field : Field} (h : field.IsWellFormed) :
    Field.read field.name field.typeText = .ok field := by
  obtain ⟨name, type, element⟩ := field
  by_cases htype : type = .array
  · subst htype
    obtain ⟨items, rfl, hitems⟩ : ∃ items, element = some items ∧ items ≠ .array := h
    exact Field.read_array name hitems
  · obtain rfl : element = none := by
      cases type <;> first | exact h | exact absurd rfl htype
    have htext : (⟨name, type, none⟩ : Field).typeText = type.schemaName := by
      cases type <;> rfl
    rw [htext]
    exact Field.read_schemaName name htype

theorem Text.sameIgnoringCase_iff {first second : String} : sameIgnoringCase first second ↔
    first.toList.map Char.toLower = second.toList.map Char.toLower :=
  beq_iff_eq

/-- In a schema without two columns of one name, a name is found where the column is that has it. -/
theorem Schema.indexOf?_eq_some_iff {schema : Schema} {name : String} {position : Nat}
    (h : schema.fields.Pairwise fun first second ↦
      ¬ Text.sameIgnoringCase first.name second.name) :
    schema.indexOf? name = some position ↔
      ∃ field, schema.field? position = some field ∧ Text.sameIgnoringCase field.name name := by
  unfold indexOf? field?
  rw [List.findIdx?_eq_some_iff_getElem]
  constructor
  · rintro ⟨hlt, hname, -⟩
    exact ⟨_, List.getElem?_eq_getElem hlt, hname⟩
  · rintro ⟨field, hfield, hname⟩
    obtain ⟨hlt, rfl⟩ := List.getElem?_eq_some_iff.mp hfield
    refine ⟨hlt, hname, fun earlier hearlier hsame ↦ ?_⟩
    have hcolumns :=
      (Text.sameIgnoringCase_iff.mp hsame).trans (Text.sameIgnoringCase_iff.mp hname).symm
    exact List.pairwise_iff_getElem.mp h earlier position _ _ hearlier
      (Text.sameIgnoringCase_iff.mpr hcolumns)

/-- In a schema without two columns of one name, no name is used twice. -/
theorem Schema.duplicate?_eq_none {schema : Schema}
    (h : schema.fields.Pairwise fun first second ↦
      ¬ Text.sameIgnoringCase first.name second.name) : schema.duplicate? = none := by
  unfold duplicate?
  rw [Option.map_eq_none_iff, List.find?_eq_none]
  rintro ⟨field, position⟩ hmem
  have hfield : schema.field? position = some field := List.mk_mem_zipIdx_iff_getElem?.mp hmem
  have hindex : schema.indexOf? field.name = some position :=
    (indexOf?_eq_some_iff h).mpr ⟨field, hfield, beq_self_eq_true _⟩
  simp [hindex]

/-- A well-formed schema is read back from its text. -/
theorem Schema.IsWellFormed.read_text {schema : Schema} (h : schema.IsWellFormed) :
    Schema.read schema.text = .ok schema := by
  obtain ⟨hcolumns, hnames, hfields⟩ := h
  have hread : (schema.fields.map fun field ↦ (field.name, field.typeText)).mapM
      (fun pair ↦ Field.read pair.1 pair.2) = .ok schema.fields := by
    rw [mapM_eq_ok_iff, List.forall₂_map_left_iff, List.forall₂_same]
    exact fun field hfield ↦ (hfields field hfield).read_typeText
  unfold Schema.read
  rw [pairs_text]
  change ofPairs _ = _
  unfold ofPairs
  rw [if_neg (by simpa using hcolumns)]
  change ((schema.fields.map fun field ↦ (field.name, field.typeText)).mapM
      (fun pair ↦ Field.read pair.1 pair.2) >>= _) = _
  rw [hread]
  dsimp only [bind, Except.bind]
  rw [duplicate?_eq_none hnames]

end ColumnStore
