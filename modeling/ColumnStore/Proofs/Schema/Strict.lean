import ColumnStore.Proofs.Schema.Exactness
import ColumnStore.Proofs.Text.Dictionary
import Mathlib.Data.List.Pairwise

/-!
# The order of columns in strict schema texts

A strict schema text is an array of objects whose members name columns and their types. The objects
are taken in the order of the text, but the members of one object go through a dictionary: they
come out in the order of their names, and of several members with one name only the last is left.
So a name is refused if two objects have it, or if one object has it in two spellings, but not if
one object repeats it letter by letter. The columns stand in the order of the text if the members
of every object do in the order of their names, as in the texts of `Schema.text`, which have one
member to an object.
-/

set_option autoImplicit false

namespace ColumnStore

/-- A column is read under the name it is given. -/
theorem Field.name_of_read {name typeText : String} {field : Field}
    (h : Field.read name typeText = .ok field) : field.name = name := by
  unfold Field.read at h
  dsimp only at h
  split at h
  · obtain ⟨element, -, h⟩ := bind_eq_ok_iff.mp h
    split at h <;> cases h
    rfl
  · obtain ⟨type, -, h⟩ := bind_eq_ok_iff.mp h
    split at h <;> cases h <;> rfl

namespace Text

/-- Two texts differ, up to case, from each other. -/
instance {α : Type} (name : α → String) :
    Std.Symm fun first second ↦ ¬ sameIgnoringCase (name first) (name second) where
  symm _ _ h hsame := h (sameIgnoringCase_iff.mpr (sameIgnoringCase_iff.mp hsame).symm)

end Text

namespace Schema

/-- A strict schema text with the given objects, each with its members in the order of the text.
-/
def IsStrict (text : String) (objects : List (List (String × String))) : Prop :=
  Json.readSound text = some (.array (objects.map fun members ↦
    .object (members.map fun member ↦ (some member.1, .text (some member.2)))))

variable {text : String} {objects : List (List (String × String))} {schema : Schema}

/-- The strict text of objects without any spaces. -/
def strictText (objects : List (List (String × String))) : String :=
  Json.arrayText (objects.map fun members ↦
    Json.objectText (members.map fun member ↦ (member.1, Json.quoted member.2)))

theorem membersAreSound_texts (members : List (String × String)) : Json.membersAreSound 125
    (members.map fun member ↦ (some member.1, .text (some member.2))) = true := by
  induction members with
  | nil => rfl
  | cons member members ih =>
    rw [List.map_cons, Json.membersAreSound, ih]
    rfl

theorem areSound_objects (objects : List (List (String × String))) : Json.areSound 126
    (objects.map fun members ↦
      .object (members.map fun member ↦ (some member.1, .text (some member.2)))) = true := by
  induction objects with
  | nil => rfl
  | cons members objects ih =>
    rw [List.map_cons, Json.areSound, ih, Json.isSound, membersAreSound_texts]
    rfl

theorem isStrict_strictText (objects : List (List (String × String))) :
    IsStrict (strictText objects) objects := by
  have hdenotes : Json.Denotes (strictText objects) (.array (objects.map fun members ↦
      .object (members.map fun member ↦ (some member.1, .text (some member.2))))) := by
    refine Json.denotes_arrayText ?_
    rw [List.forall₂_map_left_iff, List.forall₂_map_right_iff, List.forall₂_same]
    intro members _
    refine Json.denotes_objectText ?_
    rw [List.forall₂_map_left_iff, List.forall₂_map_right_iff, List.forall₂_same]
    exact fun member _ ↦ ⟨rfl, Json.denotes_quoted member.2⟩
  rw [IsStrict, Json.readSound, hdenotes.read_eq, Option.filter_some, Json.isSound]
  exact if_pos (areSound_objects objects)

/-- The members of a strict text go through dictionaries, one for each object. -/
theorem IsStrict.pairs_eq (h : IsStrict text objects) :
    pairs text = .ok (objects.flatMap Dictionary.ofEntries) := by
  have hdictionary : ∀ members : List (String × String),
      dictionary? (members.map fun member ↦ (some member.1, .text (some member.2))) =
        some (Dictionary.mapItems (fun _ typeText ↦ Json.text (some typeText))
          (Dictionary.ofEntries members)) := by
    intro members
    have hentries : (members.map fun member ↦ (some member.1, Json.text (some member.2))).mapM
        entry? = some (Dictionary.mapItems (fun _ typeText ↦ .text (some typeText)) members) := by
      rw [mapM_eq_some_iff, Dictionary.mapItems, List.forall₂_map_left_iff,
        List.forall₂_map_right_iff, List.forall₂_same]
      exact fun member _ ↦ rfl
    rw [dictionary?, hentries, Option.map_some, Dictionary.ofEntries_mapItems]
  have hobjects : objects? text = some (objects.map fun members ↦
      Dictionary.mapItems (fun _ typeText ↦ .text (some typeText))
        (Dictionary.ofEntries members)) := by
    unfold objects?
    rw [h]
    dsimp only
    rw [mapM_eq_some_iff, List.forall₂_map_left_iff, List.forall₂_map_right_iff,
      List.forall₂_same]
    exact fun members _ ↦ hdictionary members
  have hflatten : (objects.map fun members ↦
      Dictionary.mapItems (fun _ typeText ↦ Json.text (some typeText))
        (Dictionary.ofEntries members)).flatten =
      Dictionary.mapItems (fun _ typeText ↦ .text (some typeText))
        (objects.flatMap Dictionary.ofEntries) := by
    rw [Dictionary.mapItems, List.map_flatMap, List.flatMap_def]
    rfl
  unfold pairs
  rw [hobjects]
  dsimp only
  rw [hflatten, mapM_eq_ok_iff, Dictionary.mapItems, List.forall₂_map_left_iff,
    List.forall₂_same]
  exact fun member _ ↦ rfl

/-- A schema that is read has a column for each pair, with its name and its type, and no two pairs
share a name. -/
theorem columns_of_ofPairs {pairs : List (String × String)} (h : ofPairs pairs = .ok schema) :
    List.Forall₂ (fun pair field ↦ field.name = pair.1 ∧ Field.read pair.1 pair.2 = .ok field)
        pairs schema.fields ∧
      pairs.Pairwise fun first second ↦ ¬ Text.sameIgnoringCase first.1 second.1 := by
  unfold ofPairs at h
  split at h
  · cases h
  · obtain ⟨fields, hfields, h⟩ := bind_eq_ok_iff.mp h
    rw [mapM_eq_ok_iff] at hfields
    split at h
    · cases h
    · rename_i hduplicate
      cases h
      have hcolumns := hfields.imp fun pair field hread ↦
        (⟨Field.name_of_read hread, hread⟩ :
          field.name = pair.1 ∧ Field.read pair.1 pair.2 = .ok field)
      have hnames : fields.map Field.name = pairs.map Prod.fst := by
        rw [← List.forall₂_eq_eq_eq, List.forall₂_map_left_iff, List.forall₂_map_right_iff]
        exact hcolumns.flip.imp fun field pair hcolumn ↦ hcolumn.1
      have hdistinct := pairwise_of_duplicate?_eq_none hduplicate
      refine ⟨hcolumns, ?_⟩
      rw [← List.pairwise_map (f := Field.name) (R := fun first second ↦
        ¬ Text.sameIgnoringCase first second), hnames, List.pairwise_map] at hdistinct
      exact hdistinct

/-- If a strict text is read as a schema, the columns are those of its objects, one object after the
other. An object has a column for each name of its members, in ascending order of the names, with
the type of the last member that has the name. A name is not in two objects, nor in two spellings
in one. If the members of every object are in ascending order already, there is one column for each
member, in the order of the text. -/
theorem columns_of_strict_text (htext : IsStrict text objects)
    (hread : Schema.read text = .ok schema) :
    ∃ columns : List (List (String × String)),
      List.Forall₂ Dictionary.Gathers objects columns ∧
      List.Forall₂ (fun column field ↦
        field.name = column.1 ∧ Field.read column.1 column.2 = .ok field) columns.flatten
          schema.fields ∧
      (objects.Pairwise fun earlier later ↦ ∀ member ∈ earlier, ∀ other ∈ later,
        ¬ Text.sameIgnoringCase member.1 other.1) ∧
      (∀ members ∈ objects, ∀ member ∈ members, ∀ other ∈ members,
        Text.sameIgnoringCase member.1 other.1 → member.1 = other.1) ∧
      ((∀ members ∈ objects, Dictionary.Ascending members) → columns = objects) := by
  unfold Schema.read at hread
  rw [htext.pairs_eq] at hread
  obtain ⟨hcolumns, hdistinct⟩ := columns_of_ofPairs hread
  rw [List.flatMap_def, List.pairwise_flatten, List.pairwise_map] at hdistinct
  obtain ⟨hwithin, hacross⟩ := hdistinct
  -- every member is there by name in the dictionary of its object
  have hnamed : ∀ {members : List (String × String)} {member : String × String},
      member ∈ members → ∃ column ∈ Dictionary.ofEntries members, column.1 = member.1 := by
    intro members member hmember
    have hkey := ((Dictionary.gathers_ofEntries members).keys member.1).mpr
      (List.mem_map_of_mem hmember)
    exact List.mem_map.mp hkey
  refine ⟨objects.map Dictionary.ofEntries, ?_, ?_, ?_, ?_, ?_⟩
  · rw [List.forall₂_map_right_iff, List.forall₂_same]
    exact fun members _ ↦ Dictionary.gathers_ofEntries members
  · rwa [List.flatMap_def] at hcolumns
  · refine hacross.imp fun {earlier later} hapart member hmember other hother ↦ ?_
    obtain ⟨column, hcolumn, hname⟩ := hnamed hmember
    obtain ⟨next, hnext, hnextname⟩ := hnamed hother
    rw [← hname, ← hnextname]
    exact hapart column hcolumn next hnext
  · intro members hmembers member hmember other hother hsame
    obtain ⟨column, hcolumn, hname⟩ := hnamed hmember
    obtain ⟨next, hnext, hnextname⟩ := hnamed hother
    by_contra hne
    have hapart : column ≠ next := fun heq ↦ hne (by rw [← hname, ← hnextname, heq])
    refine (hwithin _ (List.mem_map_of_mem hmembers)).forall hcolumn hnext hapart ?_
    rwa [hname, hnextname]
  · intro hascending
    exact (List.map_congr_left fun members hmembers ↦
      Dictionary.ofEntries_of_ascending (hascending members hmembers)).trans (List.map_id objects)

/-- Two objects, of which the second has its members out of order. -/
def sampleObjects : List (List (String × String)) :=
  [[("n", "long")], [("b", "int"), ("a", "string")]]

theorem columns_of_strict_text_on_sample :
    ∃ columns : List (List (String × String)),
      List.Forall₂ Dictionary.Gathers sampleObjects columns ∧
      List.Forall₂ (fun column field ↦
        field.name = column.1 ∧ Field.read column.1 column.2 = .ok field) columns.flatten
          [.scalar "n" .long, .scalar "a" .string, .scalar "b" .int] :=
  have hread : Schema.read (strictText sampleObjects) =
      .ok ⟨[.scalar "n" .long, .scalar "a" .string, .scalar "b" .int]⟩ := by
    rw [Schema.read, (isStrict_strictText sampleObjects).pairs_eq]
    decide +kernel
  have h := columns_of_strict_text (isStrict_strictText sampleObjects) hread
  h.imp fun _ hcolumns ↦ ⟨hcolumns.1, hcolumns.2.1⟩

/-- Two members of one object that are out of order change places, and of two members with one name
the first is lost; neither text is refused. -/
theorem members_of_an_object_reordered :
    strictText [[("b", "int"), ("a", "string")]] = "[\x7b\"b\":\"int\",\"a\":\"string\"\x7d]" ∧
    IsStrict (strictText [[("b", "int"), ("a", "string")]]) [[("b", "int"), ("a", "string")]] ∧
    Schema.read (strictText [[("b", "int"), ("a", "string")]]) =
      .ok ⟨[.scalar "a" .string, .scalar "b" .int]⟩ ∧
    Schema.read (strictText [[("a", "int"), ("a", "string")]]) = .ok ⟨[.scalar "a" .string]⟩ := by
  refine ⟨by decide, isStrict_strictText _, ?_, ?_⟩
  all_goals
    rw [Schema.read, (isStrict_strictText _).pairs_eq]
    decide +kernel

end Schema

end ColumnStore
