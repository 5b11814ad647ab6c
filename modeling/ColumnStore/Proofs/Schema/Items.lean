import ColumnStore.Proofs.Schema.Columns
import ColumnStore.Proofs.Text.Trimming

/-!
# Types of items

The type of the items of an array is written between angle brackets behind the word `array`. It is
read as the name of a type and nothing else, in any letter case and with blanks around it. The type
of a column is read in the same way, but for one thing: an opening parenthesis, with precision and
scale behind it, ends the name. So a column may have the type `decimal(10,2)` and there is no such
type of items.
-/

set_option autoImplicit false

namespace ColumnStore

/-- The spelling of a type by which it is looked up, in lower case and without blanks around. -/
theorem Text.lowerAscii_trim (text : String) : Text.lowerAscii (Text.trim text) =
    String.ofList ((Text.trimChars text.toList).map Char.toLower) := by
  rw [Text.lowerAscii, Text.trim, String.toList_ofList]

namespace DataType

/-- Two texts that are looked up by one spelling are the same type. -/
theorem read_congr {first second : String}
    (h : Text.lowerAscii (Text.trim first) = Text.lowerAscii (Text.trim second)) :
    read first = read second := by
  unfold read
  rw [h]

theorem read_map_toLower (cs : List Char) :
    read (String.ofList (cs.map Char.toLower)) = read (String.ofList cs) := by
  apply read_congr
  rw [Text.lowerAscii_trim, Text.lowerAscii_trim, String.toList_ofList, String.toList_ofList,
    Text.trimChars_map_toLower, List.map_map]
  exact congrArg String.ofList (List.map_congr_left fun c _ ↦ Text.toLower_toLower c)

theorem read_trimChars (cs : List Char) :
    read (String.ofList (Text.trimChars cs)) = read (String.ofList cs) := by
  apply read_congr
  rw [Text.lowerAscii_trim, Text.lowerAscii_trim, String.toList_ofList, String.toList_ofList,
    Text.trimChars_trimChars]

/-- No type has a parenthesis in its name. -/
theorem paren_not_mem_of_ofSpelling? {spelling : String} {type : DataType}
    (h : ofSpelling? spelling = some type) : '(' ∉ spelling.toList := by
  unfold ofSpelling? at h
  split at h
  case h_17 => cases h
  all_goals decide

theorem read_of_paren {text : String} (h : '(' ∈ text.toList) : read text =
    .error (.schema ("unknown data type '" ++ Text.lowerAscii (Text.trim text) ++ "'")) := by
  have hspelling : '(' ∈ (Text.lowerAscii (Text.trim text)).toList := by
    rw [Text.lowerAscii_trim, String.toList_ofList, Text.mem_map_toLower_iff (by decide),
      Text.mem_trimChars_iff (by decide)]
    exact h
  have hnone : ofSpelling? (Text.lowerAscii (Text.trim text)) = none := by
    rw [Option.eq_none_iff_forall_ne_some]
    exact fun type htype ↦ paren_not_mem_of_ofSpelling? htype hspelling
  unfold read
  dsimp only
  rw [hnone]

end DataType

namespace Field

variable {name typeText : String} {type : DataType}

/-- Between angle brackets behind the word `array` stands the name of a type. -/
theorem read_arrayOf (name typeText : String) : Field.read name ("array<" ++ typeText ++ ">") =
    DataType.read typeText >>= fun element ↦
      if element = .array then .error (.schema ("nested array in column '" ++ name ++ "'"))
      else .ok (.array name element) := by
  have htext : ("array<" ++ typeText ++ ">").toList =
      "array<".toList ++ typeText.toList ++ ['>'] := by
    simp [String.toList_append]
  have htrimmed : Text.IsTrimmed ("array<".toList ++ typeText.toList ++ ['>']) := by
    constructor
    · rintro c ⟨⟩
      decide
    · rw [List.getLast?_concat]
      rintro c ⟨⟩
      decide
  have hlower : ("array<".toList ++ typeText.toList ++ ['>']).map Char.toLower =
      "array<".toList ++ typeText.toList.map Char.toLower ++ ['>'] := by
    rw [List.map_append, List.map_append]
    rfl
  have hinner : ((("array<".toList ++ typeText.toList.map Char.toLower ++ ['>']).drop
      "array<".toList.length)).dropLast = typeText.toList.map Char.toLower := by
    rw [List.append_assoc, List.drop_left, List.dropLast_concat]
  have hopens : ("array<".toList.isPrefixOf
        ("array<".toList ++ typeText.toList.map Char.toLower ++ ['>']) &&
      "array<".toList.length <
        ("array<".toList ++ typeText.toList.map Char.toLower ++ ['>']).length &&
      ("array<".toList ++ typeText.toList.map Char.toLower ++ ['>']).getLast? = some '>') =
        true := by
    rw [List.getLast?_concat, List.append_assoc, List.isPrefixOf_iff_prefix.mpr
      (List.prefix_append _ _)]
    simp
  unfold Field.read
  dsimp only
  rw [htext, Text.trimChars_of_isTrimmed htrimmed, hlower, if_pos hopens, hinner,
    DataType.read_map_toLower, String.ofList_toList]

/-- The type of a column that holds no arrays is the name in front of an opening parenthesis. -/
theorem read_name_of_scalar (h : Field.read name typeText = .ok (.scalar name type)) :
    type ≠ .array ∧ DataType.read (String.ofList
      (((Text.trimChars typeText.toList).map Char.toLower).takeWhile (· != '('))) = .ok type := by
  unfold Field.read at h
  dsimp only at h
  split at h
  · obtain ⟨element, -, h⟩ := bind_eq_ok_iff.mp h
    split at h <;> cases h
  · obtain ⟨found, hfound, h⟩ := bind_eq_ok_iff.mp h
    split at h
    · cases h
    · rename_i hscalar
      cases h
      exact ⟨hscalar, hfound⟩

/-- The type text of a column that holds no arrays is a type of items exactly if there is no opening
parenthesis in it. -/
theorem read_arrayOf_of_scalar (h : Field.read name typeText = .ok (.scalar name type)) :
    Field.read name ("array<" ++ typeText ++ ">") =
      if '(' ∈ typeText.toList then
        .error (.schema ("unknown data type '" ++ Text.lowerAscii (Text.trim typeText) ++ "'"))
      else .ok (.array name type) := by
  obtain ⟨hscalar, hname⟩ := read_name_of_scalar h
  rw [read_arrayOf]
  by_cases hparen : '(' ∈ typeText.toList
  · rw [if_pos hparen, DataType.read_of_paren hparen]
    rfl
  · have hwhole : ((Text.trimChars typeText.toList).map Char.toLower).takeWhile (· != '(') =
        (Text.trimChars typeText.toList).map Char.toLower := by
      rw [List.takeWhile_eq_self_iff]
      intro c hc
      rw [bne_iff_ne]
      rintro rfl
      rw [Text.mem_map_toLower_iff (by decide), Text.mem_trimChars_iff (by decide)] at hc
      exact hparen hc
    rw [hwhole, DataType.read_map_toLower, DataType.read_trimChars, String.ofList_toList] at hname
    rw [if_neg hparen, hname]
    exact if_neg hscalar

end Field

namespace Schema

/-- A text is read as a schema, and one of its columns holds no arrays. Take a text that differs
from it in the type of that column alone, which becomes an array with items of the type text as it
was; there is such a text. If no opening parenthesis is in the type text, the column becomes an
array of what it held, and the other columns stay as they are. If there is one, the text is refused,
as the parenthesis is taken to be part of the name of a type. -/
theorem items_spelled_like_column {text name typeText : String}
    {before after : List (String × String)} {schema : Schema} {type : DataType}
    (htext : pairs text = .ok (before ++ (name, typeText) :: after))
    (hread : read text = .ok schema)
    (hscalar : schema.field? before.length = some (.scalar name type)) :
    (∃ other, pairs other = .ok (before ++ (name, "array<" ++ typeText ++ ">") :: after)) ∧
      ∀ other, pairs other = .ok (before ++ (name, "array<" ++ typeText ++ ">") :: after) →
        read other =
          if '(' ∈ typeText.toList then
            .error (.schema ("unknown data type '" ++ Text.lowerAscii (Text.trim typeText) ++ "'"))
          else .ok ⟨schema.fields.set before.length (.array name type)⟩ := by
  rw [read_of_pairs htext] at hread
  obtain ⟨-, hfields, -⟩ := ofPairs_eq_ok_iff.mp hread
  have hplace : (before ++ (name, typeText) :: after)[before.length]? = some (name, typeText) := by
    simp
  obtain ⟨field, hfield, hcolumn⟩ := getElem?_of_forall₂ hfields hplace
  obtain rfl : field = .scalar name type := Option.some.inj (hfield.symm.trans hscalar)
  have hitems := Field.read_arrayOf_of_scalar hcolumn
  refine ⟨⟨_, (isStrict_strictText _).pairs_singles⟩, fun other hother ↦ ?_⟩
  rw [read_of_pairs hother]
  by_cases hparen : '(' ∈ typeText.toList
  · rw [if_pos hparen] at hitems ⊢
    exact ofPairs_replace_error hread hitems
  · rw [if_neg hparen] at hitems ⊢
    exact ofPairs_replace hread hitems

/-- A column between two others, whose type is spelled with blanks and in mixed letter case. -/
theorem items_spelled_like_column_of_decimal :
    let before := [("id", "int")]
    let after := [("tags", "array")]
    let text := strictText ((before ++ ("price", " Decimal") :: after).map fun pair ↦ [pair])
    let schema : Schema := ⟨[.scalar "id" .int, .scalar "price" .decimal, .array "tags" .string]⟩
    (pairs text = .ok (before ++ ("price", " Decimal") :: after) ∧ read text = .ok schema ∧
      schema.field? 1 = some (.scalar "price" .decimal)) ∧
    read (strictText ((before ++ ("price", "array< Decimal>") :: after).map fun pair ↦ [pair])) =
      .ok ⟨[.scalar "id" .int, .array "price" .decimal, .array "tags" .string]⟩ := by
  intro before after text schema
  have htext : pairs text = .ok (before ++ ("price", " Decimal") :: after) :=
    (isStrict_strictText _).pairs_singles
  have hread : read text = .ok schema := by
    rw [read_of_pairs htext]
    rfl
  have hother := (items_spelled_like_column htext hread rfl).2 _
    (isStrict_strictText ((before ++ ("price", "array< Decimal>") :: after).map
      fun pair ↦ [pair])).pairs_singles
  exact ⟨⟨htext, hread, rfl⟩, hother⟩

/-- Precision and scale are accepted in the type of a column and refused in that of items. -/
theorem decimal_items_with_scale_refused :
    strictText [[("d", "array<decimal(10,2)>")]] =
      "[\x7b\"d\":\"array<decimal(10,2)>\"\x7d]" ∧
    read (strictText [[("d", "decimal(10,2)")]]) = .ok ⟨[.scalar "d" .decimal]⟩ ∧
    read (strictText [[("d", "array<decimal(10,2)>")]]) =
      .error (.schema "unknown data type 'decimal(10,2)'") := by
  refine ⟨by decide, ?_, ?_⟩
  all_goals
    rw [read, (isStrict_strictText _).pairs_eq]
    rfl

end Schema

end ColumnStore
