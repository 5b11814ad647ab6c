import ColumnStore.Proofs.Schema.Strict

/-!
# Columns of pairs

A list of pairs is a schema if there is a pair, every type text is read and no two names are the
same up to the case of ASCII letters; its columns stand in the order of the pairs. One column can be
given another type without touching the others.
-/

set_option autoImplicit false

namespace ColumnStore

namespace Schema

variable {text name typeText other : String} {pairs before after : List (String × String)}
  {schema : Schema} {field : Field} {error : Error}

theorem read_of_pairs (h : Schema.pairs text = .ok pairs) : read text = ofPairs pairs := by
  unfold read
  rw [h]
  rfl

/-- Which pairs are a schema, and which one. -/
theorem ofPairs_eq_ok_iff : ofPairs pairs = .ok schema ↔ pairs ≠ [] ∧
    List.Forall₂ (fun pair field ↦ Field.read pair.1 pair.2 = .ok field) pairs schema.fields ∧
      pairs.Pairwise fun first second ↦ ¬ Text.sameIgnoringCase first.1 second.1 := by
  constructor
  · intro h
    obtain ⟨hcolumns, hdistinct⟩ := columns_of_ofPairs h
    refine ⟨?_, hcolumns.imp fun _ _ hcolumn ↦ hcolumn.2, hdistinct⟩
    rintro rfl
    cases h
  · rintro ⟨hsome, hfields, hdistinct⟩
    have hnames : schema.fields.map Field.name = pairs.map Prod.fst := by
      rw [← List.forall₂_eq_eq_eq, List.forall₂_map_left_iff, List.forall₂_map_right_iff]
      exact hfields.flip.imp fun field pair hread ↦ Field.name_of_read hread
    have hapart : schema.fields.Pairwise fun first second ↦
        ¬ Text.sameIgnoringCase first.name second.name := by
      rw [← List.pairwise_map (f := Field.name) (R := fun first second ↦
        ¬ Text.sameIgnoringCase first second), hnames, List.pairwise_map]
      exact hdistinct
    unfold ofPairs
    rw [if_neg (by simpa using hsome)]
    change (pairs.mapM fun pair ↦ Field.read pair.1 pair.2) >>= _ = _
    rw [mapM_eq_ok_iff.mpr hfields]
    dsimp only [bind, Except.bind]
    rw [duplicate?_eq_none hapart]

/-- A column whose type text is read as another column takes on that type. -/
theorem ofPairs_replace (h : ofPairs (before ++ (name, typeText) :: after) = .ok schema)
    (hother : Field.read name other = .ok field) :
    ofPairs (before ++ (name, other) :: after) = .ok ⟨schema.fields.set before.length field⟩ := by
  obtain ⟨-, hfields, hdistinct⟩ := ofPairs_eq_ok_iff.mp h
  refine ofPairs_eq_ok_iff.mpr ⟨by simp, forall₂_replace hfields hother, ?_⟩
  rw [← List.pairwise_map (f := Prod.fst) (R := fun first second ↦
    ¬ Text.sameIgnoringCase first second)] at hdistinct ⊢
  simpa using hdistinct

/-- A type text that cannot be read spoils the schema. -/
theorem ofPairs_replace_error (h : ofPairs (before ++ (name, typeText) :: after) = .ok schema)
    (hother : Field.read name other = .error error) :
    ofPairs (before ++ (name, other) :: after) = .error error := by
  obtain ⟨-, hfields, -⟩ := ofPairs_eq_ok_iff.mp h
  have hbefore : ∀ pair ∈ before, ∃ field, Field.read pair.1 pair.2 = .ok field := by
    intro pair hpair
    obtain ⟨place, hplace⟩ := List.mem_iff_getElem?.mp (List.mem_append_left _ hpair)
    obtain ⟨field, -, hread⟩ := getElem?_of_forall₂ hfields hplace
    exact ⟨field, hread⟩
  have hpairs : (before ++ (name, other) :: after).mapM (fun pair ↦ Field.read pair.1 pair.2) =
      .error error := mapM_eq_error hbefore hother
  unfold ofPairs
  rw [if_neg (by simp)]
  change ((before ++ (name, other) :: after).mapM (fun pair ↦ Field.read pair.1 pair.2) >>= _) = _
  rw [hpairs]
  rfl

/-- A strict text with one member to an object has the members in its order. -/
theorem IsStrict.pairs_singles (h : IsStrict text (pairs.map fun pair ↦ [pair])) :
    Schema.pairs text = .ok pairs := by
  have hsingle : ∀ pair : String × String, Dictionary.ofEntries [pair] = [pair] := fun _ ↦ rfl
  rw [h.pairs_eq, List.flatMap_map]
  simp only [hsingle]
  rw [List.flatMap_singleton']

end Schema

end ColumnStore
