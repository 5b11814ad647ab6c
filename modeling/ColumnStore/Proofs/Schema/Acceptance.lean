import ColumnStore.Proofs.Schema.Bare

/-!
# What an accepted text yields

Two readers stand behind `Schema.read`, one for each spelling, and what they find goes through one
reader of types. Whatever text is accepted, what is done with a schema afterwards may rely on it: a
name leads to the one column that has it, the items of arrays have a type, and the schema can be
passed on as a text.
-/

set_option autoImplicit false

namespace ColumnStore.Schema

variable {text : String} {schema : Schema}

/-- A text that is accepted, in either spelling, yields a schema with at least one column, without
two columns of one name up to the case of ASCII letters, whose array columns and no others have a
type of items, which is not array. A name is found at a position exactly if the column there has the
name, so each column is found at its own position. The text of the schema is accepted in turn and
yields the same schema. -/
theorem accepted_text_yields_well_formed (h : read text = .ok schema) :
    schema.IsWellFormed ∧
    (∀ name position, schema.indexOf? name = some position ↔
      ∃ field, schema.field? position = some field ∧ Text.sameIgnoringCase field.name name) ∧
    read schema.text = .ok schema := by
  have hformed := isWellFormed_of_read h
  exact ⟨hformed, fun _ _ ↦ indexOf?_eq_some_iff hformed.2.1, hformed.read_text⟩

/-- A bare text with other names of types, letters of both cases and an array without a type of
items. -/
theorem accepted_text_yields_well_formed_of_bare :
    let pairs := [("Id", "BIGINT"), ("tags", "Array< Timestamp >"), ("raw", "array")]
    let schema : Schema := ⟨[.scalar "Id" .long, .array "tags" .timestamp, .array "raw" .string]⟩
    bareText pairs =
      "[\x7bId:BIGINT\x7d,\x7btags:Array< Timestamp >\x7d,\x7braw:array\x7d]" ∧
    read (bareText pairs) = .ok schema ∧ schema.IsWellFormed ∧
      schema.indexOf? "TAGS" = some 1 ∧ read schema.text = .ok schema := by
  intro pairs schema
  have hnames : ∀ pair ∈ pairs, IsBareName pair.1 := by decide
  have htypes : ∀ pair ∈ pairs, IsBareType pair.2 := by decide
  have hread : read (bareText pairs) = .ok schema := by
    rw [read_of_pairs ((isBare_bareText _).pairs_eq (List.cons_ne_nil _ _) hnames htypes)]
    rfl
  obtain ⟨hformed, hfound, htext⟩ := accepted_text_yields_well_formed hread
  exact ⟨by decide, hread, hformed, (hfound "TAGS" 1).mpr ⟨_, rfl, by decide⟩, htext⟩

end ColumnStore.Schema
