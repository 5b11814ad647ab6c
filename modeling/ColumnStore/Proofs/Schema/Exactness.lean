import ColumnStore.Proofs.Schema.RoundTrip

/-!
# Which schemas survive their text

Whatever text a schema is read from, strict or bare, it comes out well formed: a column is made as
an array of items that are no arrays or without a type of items, and a name that is used twice is
refused. So a schema that is not well formed cannot be read back from its text, and the well-formed
schemas are exactly those that can.
-/

set_option autoImplicit false

namespace ColumnStore

/-- A column that is read is well formed, whatever its type text is. -/
theorem Field.isWellFormed_of_read {name typeText : String} {field : Field}
    (h : Field.read name typeText = .ok field) : field.IsWellFormed := by
  unfold Field.read at h
  dsimp only at h
  split at h
  · obtain ⟨element, -, h⟩ := bind_eq_ok_iff.mp h
    split at h
    · cases h
    · rename_i hitems
      cases h
      exact ⟨element, rfl, hitems⟩
  · obtain ⟨type, -, h⟩ := bind_eq_ok_iff.mp h
    split at h
    · cases h
      exact ⟨.string, rfl, by decide⟩
    · rename_i hscalar
      cases h
      cases type <;> first | rfl | exact absurd rfl hscalar

/-- If no name is used twice, no two columns share a name. -/
theorem Schema.pairwise_of_duplicate?_eq_none {schema : Schema} (h : schema.duplicate? = none) :
    schema.fields.Pairwise fun first second ↦
      ¬ Text.sameIgnoringCase first.name second.name := by
  unfold duplicate? at h
  rw [Option.map_eq_none_iff, List.find?_eq_none] at h
  rw [List.pairwise_iff_getElem]
  intro earlier later hearlier hlater hlt hsame
  have hmem : (schema.fields[later], later) ∈ schema.fields.zipIdx :=
    List.mk_mem_zipIdx_iff_getElem?.mpr (List.getElem?_eq_getElem hlater)
  have hindex : schema.indexOf? schema.fields[later].name = some later := by
    simpa using h _ hmem
  -- the search for the later name cannot have passed the earlier column
  obtain ⟨_, -, hpassed⟩ := List.findIdx?_eq_some_iff_getElem.mp hindex
  exact hpassed earlier hlt hsame

/-- A schema that is read is well formed, whatever the text is. -/
theorem Schema.isWellFormed_of_read {text : String} {schema : Schema}
    (h : Schema.read text = .ok schema) : schema.IsWellFormed := by
  obtain ⟨pairs, -, h⟩ := bind_eq_ok_iff.mp h
  unfold ofPairs at h
  split at h
  · cases h
  · rename_i hpairs
    obtain ⟨fields, hfields, h⟩ := bind_eq_ok_iff.mp h
    rw [mapM_eq_ok_iff] at hfields
    split at h
    · cases h
    · rename_i hduplicate
      cases h
      refine ⟨?_, pairwise_of_duplicate?_eq_none hduplicate, fun field hmem ↦ ?_⟩
      · rintro rfl
        cases hfields
        exact hpairs rfl
      · obtain ⟨pair, -, hread⟩ := exists_of_mem_forall₂ hfields hmem
        exact Field.isWellFormed_of_read hread

/-- A schema is read back from its text exactly if it has a column, no two columns share a name up
to the case of ASCII letters, the items of every array column have a type other than array, and no
other column has a type of items. The names may be any texts. -/
theorem Schema.read_text_eq_ok_iff (schema : Schema) :
    Schema.read schema.text = .ok schema ↔ schema.IsWellFormed :=
  ⟨isWellFormed_of_read, IsWellFormed.read_text⟩

end ColumnStore
