import ColumnStore.Proofs.Json.Refusing
import ColumnStore.Proofs.Schema.Columns
import ColumnStore.Proofs.Text.Pieces

/-!
# The bare spelling of schemas

In the bare spelling a schema text is a list of entries in brackets, with a name and a type in
braces and no quotes around them. Blanks may stand around names and types, braces and brackets. The
scanner finds the entries in order, whatever other characters the names and the types have in them,
and no such text is taken for a strict one, since a key without quotes begins no member of an
object.
-/

set_option autoImplicit false

namespace ColumnStore

namespace Text

/-- None of the marks is there. -/
def Avoids (marks cs : List Char) : Prop := ∀ c ∈ cs, c ∉ marks

instance (marks cs : List Char) : Decidable (Avoids marks cs) :=
  List.decidableBAll (fun c ↦ c ∉ marks) cs

variable {marks fewer core cs : List Char} {mark : Char}

theorem Avoids.not_mem (h : Avoids marks cs) (hmark : mark ∈ marks) : mark ∉ cs :=
  fun hmem ↦ h mark hmem hmark

theorem Avoids.mono (h : Avoids marks cs) (hfewer : fewer ⊆ marks) : Avoids fewer cs :=
  fun c hc hmem ↦ h c hc (hfewer hmem)

/-- Blanks bring no mark with them. -/
theorem Avoids.not_mem_of_padded (h : Avoids marks core) (hpadded : Padded core cs)
    (hmark : mark ∈ marks) (hblank : isBlank mark = false) : mark ∉ cs := by
  intro hmem
  rcases hpadded.mem hmem with hcore | hbeside
  · exact h.not_mem hmark hcore
  · rw [hblank] at hbeside
    cases hbeside

end Text

namespace Schema

/-- A name that needs no quotes: it has content, no blank stands at either end, and none of the
characters that tell the parts of an entry is in it. -/
structure IsBareName (name : String) : Prop where
  nonempty : name ≠ ""
  trimmed : Text.IsTrimmed name.toList
  plain : Text.Avoids ['\x7b', '\x7d', ':', '"', '\''] name.toList

/-- A type text that needs no quotes. -/
def IsBareType (typeText : String) : Prop :=
  Text.Avoids ['\x7d', '"', '\''] typeText.toList

instance (name : String) : Decidable (IsBareName name) :=
  decidable_of_iff (name ≠ "" ∧ Text.IsTrimmed name.toList ∧
      Text.Avoids ['\x7b', '\x7d', ':', '"', '\''] name.toList)
    ⟨fun h ↦ ⟨h.1, h.2.1, h.2.2⟩, fun h ↦ ⟨h.nonempty, h.trimmed, h.plain⟩⟩

instance (typeText : String) : Decidable (IsBareType typeText) :=
  inferInstanceAs (Decidable (Text.Avoids _ _))

/-- The entry of a pair: a name and a type with a colon between them, in braces. Blanks may stand
around each of the parts and around the whole. -/
def IsBareEntry (pair : String × String) (entry : List Char) : Prop :=
  ∃ name typeText, Text.Padded pair.1.toList name ∧ Text.Padded pair.2.toList typeText ∧
    Text.Padded ('\x7b' :: (name ++ ':' :: (typeText ++ ['\x7d']))) entry

/-- A text in the bare spelling: the entries of pairs with commas between them, in brackets. -/
def IsBare (text : String) (pairs : List (String × String)) : Prop :=
  ∃ entries, List.Forall₂ IsBareEntry pairs entries ∧
    Text.Padded ('[' :: ([','].intercalate entries ++ [']'])) text.toList

variable {text : String} {pair : String × String} {pairs : List (String × String)}
  {core cs entry : List Char} {entries : List (List Char)}

/-! ### Entries -/

/-- Where there are no quotes, none are taken off. -/
theorem unquoted_of_padded (h : Text.Padded core cs) (hquotes : Text.Avoids ['"', '\''] core) :
    unquoted cs = String.ofList (Text.trimChars core) := by
  have hkept : ∀ kept : List Char, (∀ c ∈ kept, c ∈ Text.trimChars core) →
      kept.dropWhile (fun c ↦ c == '"' || c == '\'') = kept := by
    intro kept hmem
    cases kept with
    | nil => rfl
    | cons c kept =>
      have hc := hquotes c (Text.mem_of_mem_trimChars (hmem c List.mem_cons_self))
      exact List.dropWhile_cons_of_neg (by simpa using hc)
  unfold unquoted
  dsimp only
  rw [Text.trimChars_of_padded h, hkept _ fun _ ↦ id, hkept _ fun _ ↦ List.mem_reverse.mp,
    List.reverse_reverse]

/-- An entry gives its name, and its type without the blanks around. -/
theorem barePair_of_padded {name typeText : List Char} (hname : IsBareName pair.1)
    (htype : IsBareType pair.2) (hnamed : Text.Padded pair.1.toList name)
    (htyped : Text.Padded pair.2.toList typeText) :
    barePair (name ++ ':' :: typeText) = .ok (pair.1, Text.trim pair.2) := by
  have hcolon : ':' ∉ name := hname.plain.not_mem_of_padded hnamed (by simp) rfl
  have hfirst : unquoted name = pair.1 := by
    rw [unquoted_of_padded hnamed (hname.plain.mono (by simp)),
      Text.trimChars_of_isTrimmed hname.trimmed, String.ofList_toList]
  have hsecond : unquoted typeText = Text.trim pair.2 :=
    unquoted_of_padded htyped (htype.mono (by simp))
  unfold barePair
  rw [Text.cutFirst_append_cons hcolon]
  dsimp only
  rw [hfirst, hsecond, if_neg hname.nonempty]

/-- Where no brace opens there is no entry. -/
theorem bareEntries_of_not_mem (h : '\x7b' ∉ cs) : bareEntries cs = .ok [] := by
  rw [bareEntries]
  split
  · rfl
  · rename_i hopen
    rw [Text.cutFirst_eq_none h] at hopen
    cases hopen

/-- The scanner goes on behind the brace that closes an entry. -/
theorem bareEntries_append_entry {skipped inside : List Char} (hskipped : '\x7b' ∉ skipped)
    (hinside : '\x7d' ∉ inside) (rest : List Char) :
    bareEntries (skipped ++ '\x7b' :: (inside ++ '\x7d' :: rest)) =
      barePair inside >>= fun pair ↦ bareEntries rest >>= fun others ↦ .ok (pair :: others) := by
  rw [bareEntries]
  split
  · rename_i hopen
    rw [Text.cutFirst_append_cons hskipped] at hopen
    cases hopen
  · rename_i hopen
    rw [Text.cutFirst_append_cons hskipped] at hopen
    cases hopen
    split
    · rename_i hclose
      rw [Text.cutFirst_append_cons hinside] at hclose
      cases hclose
    · rename_i hclose
      rw [Text.cutFirst_append_cons hinside] at hclose
      cases hclose
      rfl

/-- Behind what is skipped the scanner takes the next entry, and goes on with the blanks behind it.
-/
theorem IsBareEntry.bareEntries_eq (h : IsBareEntry pair entry) (hname : IsBareName pair.1)
    (htype : IsBareType pair.2) {skipped : List Char} (hskipped : '\x7b' ∉ skipped) :
    ∃ back, '\x7b' ∉ back ∧ ∀ rest, bareEntries (skipped ++ entry ++ rest) =
      bareEntries (back ++ rest) >>= fun others ↦ .ok ((pair.1, Text.trim pair.2) :: others) := by
  obtain ⟨name, typeText, hnamed, htyped, front, back, hfront, hback, rfl⟩ := h
  have hopen : ∀ {blanks}, Text.AreBlank blanks → '\x7b' ∉ blanks := fun hblanks hmem ↦ by
    cases hblanks _ hmem
  have hclose : '\x7d' ∉ name ++ ':' :: typeText := by
    rw [List.mem_append, List.mem_cons]
    rintro (hmem | hcolon | hmem)
    · exact hname.plain.not_mem_of_padded hnamed (by simp) rfl hmem
    · cases hcolon
    · exact htype.not_mem_of_padded htyped (by simp) rfl hmem
  refine ⟨back, hopen hback, fun rest ↦ ?_⟩
  have hsplit : skipped ++ (front ++ '\x7b' :: (name ++ ':' :: (typeText ++ ['\x7d'])) ++ back) ++
        rest =
      (skipped ++ front) ++ '\x7b' :: ((name ++ ':' :: typeText) ++ '\x7d' :: (back ++ rest)) := by
    simp
  have hbefore : '\x7b' ∉ skipped ++ front := by
    rw [List.mem_append, not_or]
    exact ⟨hskipped, hopen hfront⟩
  rw [hsplit, bareEntries_append_entry hbefore hclose, barePair_of_padded hname htype hnamed htyped]
  rfl

/-- The scanner finds every entry, in order. -/
theorem bareEntries_intercalate (h : List.Forall₂ IsBareEntry pairs entries)
    (hnames : ∀ pair ∈ pairs, IsBareName pair.1) (htypes : ∀ pair ∈ pairs, IsBareType pair.2)
    {skipped : List Char} (hskipped : '\x7b' ∉ skipped) :
    bareEntries (skipped ++ [','].intercalate entries) =
      .ok (pairs.map fun pair ↦ (pair.1, Text.trim pair.2)) := by
  induction h generalizing skipped with
  | nil =>
    rw [List.intercalate_nil, List.append_nil]
    exact bareEntries_of_not_mem hskipped
  | @cons pair entry pairs entries hentry hentries ih =>
    obtain ⟨hname, hnames⟩ := List.forall_mem_cons.mp hnames
    obtain ⟨htype, htypes⟩ := List.forall_mem_cons.mp htypes
    obtain ⟨back, hback, hstep⟩ := hentry.bareEntries_eq hname htype hskipped
    rw [List.map_cons]
    cases hentries with
    | nil =>
      rw [List.intercalate_singleton, ← List.append_nil (skipped ++ entry), hstep,
        List.append_nil, bareEntries_of_not_mem hback]
      rfl
    | cons hnext hothers =>
      have hcomma : '\x7b' ∉ back ++ [','] := by
        rw [List.mem_append, not_or]
        exact ⟨hback, by decide⟩
      rw [List.intercalate_cons_cons, List.append_assoc, ← List.append_assoc, hstep,
        ← List.append_assoc, ih hnames htypes hcomma]
      rfl

/-! ### Texts -/

/-- An entry opens with a brace, and the first character behind it, blanks aside, is that of the
name. -/
theorem IsBareEntry.opening (h : IsBareEntry pair entry) (hname : IsBareName pair.1) :
    ∃ front blanks c rest, Text.AreBlank front ∧ Text.AreBlank blanks ∧
      Text.isBlank c = false ∧ c ≠ '"' ∧ c ≠ '\x7d' ∧
        entry = front ++ '\x7b' :: (blanks ++ c :: rest) := by
  obtain ⟨name, typeText, ⟨blanks, after, hblanks, -, rfl⟩, -, front, back, hfront, -, rfl⟩ := h
  obtain ⟨c, rest, hfirst⟩ : ∃ c rest, pair.1.toList = c :: rest := by
    refine List.exists_cons_of_ne_nil fun hnil ↦ hname.nonempty ?_
    exact String.toList_eq_nil_iff.mp hnil
  have hplain := hname.plain c (by rw [hfirst]; exact List.mem_cons_self)
  simp only [List.mem_cons, not_or] at hplain
  have hblank := hname.trimmed.1 c (by rw [hfirst]; rfl)
  refine ⟨front, blanks, c, rest ++ after ++ ':' :: (typeText ++ ['\x7d']) ++ back, hfront,
    hblanks, hblank, hplain.2.2.2.1, hplain.2.1, ?_⟩
  simp [hfirst]

/-- A bare text is not taken for a strict one. -/
theorem IsBare.objects?_eq_none (h : IsBare text pairs) (hsome : pairs ≠ [])
    (hnames : ∀ pair ∈ pairs, IsBareName pair.1) : objects? text = none := by
  obtain ⟨entries, hentries, front, back, hfront, -, htext⟩ := h
  cases hentries with
  | nil => exact absurd rfl hsome
  | @cons pair entry pairs entries hentry hentries =>
    obtain ⟨before, blanks, c, rest, hbefore, hblanks, hblank, hquote, hbrace, rfl⟩ :=
      hentry.opening (hnames pair List.mem_cons_self)
    obtain ⟨tail, htail⟩ : ∃ tail, [','].intercalate
        ((before ++ '\x7b' :: (blanks ++ c :: rest)) :: entries) =
          before ++ '\x7b' :: (blanks ++ c :: tail) := by
      cases entries with
      | nil => exact ⟨rest, List.intercalate_singleton⟩
      | cons next entries =>
        refine ⟨rest ++ ',' :: [','].intercalate (next :: entries), ?_⟩
        rw [List.intercalate_cons_cons]
        simp
    have hobject := Json.refuses_object hblanks (Json.isSpace_of_isBlank hblank) hquote hbrace
      (tail ++ [']'] ++ back)
    have harray := Json.refuses_array hbefore rfl (by decide) hobject
    have hnone : Json.read text = none := by
      refine Json.read_eq_none_of_refuses ?_
      have hwhole := Json.refuses_dropSpaces hfront rfl harray
      rw [htext, htail]
      simpa using hwhole
    unfold objects?
    rw [Json.readSound, hnone]
    rfl

/-- The pairs of a bare text are those of its entries, in order. -/
theorem IsBare.pairs_eq (h : IsBare text pairs) (hsome : pairs ≠ [])
    (hnames : ∀ pair ∈ pairs, IsBareName pair.1) (htypes : ∀ pair ∈ pairs, IsBareType pair.2) :
    Schema.pairs text = .ok (pairs.map fun pair ↦ (pair.1, Text.trim pair.2)) := by
  have hstrict := h.objects?_eq_none hsome hnames
  obtain ⟨entries, hentries, hpadded⟩ := h
  have hbrackets : Text.IsTrimmed ('[' :: ([','].intercalate entries ++ [']'])) := by
    constructor
    · rintro c ⟨⟩
      rfl
    · rw [← List.cons_append, List.getLast?_concat]
      rintro c ⟨⟩
      rfl
  have htext : Text.trimChars text.toList = '[' :: ([','].intercalate entries ++ [']']) := by
    rw [Text.trimChars_of_padded hpadded, Text.trimChars_of_isTrimmed hbrackets]
  have hfound : barePairs text = bareEntries ([','].intercalate entries) := by
    unfold barePairs
    rw [htext]
    split
    · rename_i c rest hcons
      rw [List.cons.injEq] at hcons
      rw [← hcons.2, List.getLast?_concat, if_pos rfl, List.dropLast_concat]
    · rename_i hnone
      obtain ⟨c, rest, hrest⟩ := List.exists_cons_of_ne_nil
        (List.append_ne_nil_of_right_ne_nil ([','].intercalate entries) (List.cons_ne_nil ']' []))
      exact absurd (by rw [hrest]) (hnone c rest)
  unfold Schema.pairs
  rw [hstrict]
  dsimp only
  rw [hfound]
  exact bareEntries_intercalate hentries hnames htypes List.not_mem_nil

/-! ### Both spellings -/

/-- Blanks around a type text do not matter. -/
theorem read_trim (name typeText : String) :
    Field.read name (Text.trim typeText) = Field.read name typeText := by
  unfold Field.read
  rw [Text.trim, String.toList_ofList, Text.trimChars_trimChars]

/-- The bare text of pairs without any blanks. -/
def bareText (pairs : List (String × String)) : String :=
  let entries := pairs.map fun pair ↦
    '\x7b' :: (pair.1.toList ++ ':' :: (pair.2.toList ++ ['\x7d']))
  String.ofList ('[' :: ([','].intercalate entries ++ [']']))

theorem isBare_bareText (pairs : List (String × String)) : IsBare (bareText pairs) pairs := by
  refine ⟨_, ?_, by rw [bareText, String.toList_ofList]; exact Text.padded_self _⟩
  rw [List.forall₂_map_right_iff, List.forall₂_same]
  exact fun pair _ ↦ ⟨_, _, Text.padded_self _, Text.padded_self _, Text.padded_self _⟩

/-- If names and types need no quotes, every type is read and no two names are the same up to the
case of ASCII letters, then the pairs are a schema in both spellings, and in both it is the same:
however blanks stand around the parts of the bare text and however the strict text is written, the
columns are those of the pairs, in order. -/
theorem spellings_agree (hsome : pairs ≠ [])
    (hdistinct : pairs.Pairwise fun first second ↦ ¬ Text.sameIgnoringCase first.1 second.1)
    (hnames : ∀ pair ∈ pairs, IsBareName pair.1) (htypes : ∀ pair ∈ pairs, IsBareType pair.2)
    (haccepted : ∀ pair ∈ pairs, ∃ field, Field.read pair.1 pair.2 = .ok field) :
    ∃ schema,
      List.Forall₂ (fun pair field ↦ field.name = pair.1 ∧
        Field.read pair.1 pair.2 = .ok field) pairs schema.fields ∧
      (∀ text, IsBare text pairs → read text = .ok schema) ∧
      ∀ text, IsStrict text (pairs.map fun pair ↦ [pair]) → read text = .ok schema := by
  obtain ⟨fields, hfields⟩ := exists_forall₂ haccepted
  have hbare : List.Forall₂ (fun pair field ↦ Field.read pair.1 pair.2 = .ok field)
      (pairs.map fun pair ↦ (pair.1, Text.trim pair.2)) fields := by
    rw [List.forall₂_map_left_iff]
    refine hfields.imp fun pair field hread ↦ ?_
    dsimp only
    rw [read_trim]
    exact hread
  have hapart : (pairs.map fun pair ↦ (pair.1, Text.trim pair.2)).Pairwise fun first second ↦
      ¬ Text.sameIgnoringCase first.1 second.1 := by
    rw [List.pairwise_map]
    exact hdistinct
  refine ⟨⟨fields⟩, ?_, fun text htext ↦ ?_, fun text htext ↦ ?_⟩
  · exact hfields.imp fun _ _ hread ↦ ⟨Field.name_of_read hread, hread⟩
  · rw [read_of_pairs (htext.pairs_eq hsome hnames htypes), ofPairs_eq_ok_iff]
    exact ⟨fun hnil ↦ hsome (List.map_eq_nil_iff.mp hnil), hbare, hapart⟩
  · rw [read_of_pairs htext.pairs_singles, ofPairs_eq_ok_iff]
    exact ⟨hsome, hfields, hdistinct⟩

/-- Names with commas, brackets and blanks in them, types with blanks, parentheses and letters of
both cases, and blanks around braces, brackets and colons. -/
theorem spellings_agree_on_odd_names :
    let pairs := [("a,b]", "array< Decimal >"), ("x [y", "decimal(10,2)")]
    let text := "\n[ \x7ba,b]\t:array< Decimal >\x7d , \x7b x [y : decimal(10,2) \x7d] "
    let schema : Schema := ⟨[.array "a,b]" .decimal, .scalar "x [y" .decimal]⟩
    (pairs ≠ [] ∧
      (pairs.Pairwise fun first second ↦ ¬ Text.sameIgnoringCase first.1 second.1) ∧
      (∀ pair ∈ pairs, IsBareName pair.1) ∧ (∀ pair ∈ pairs, IsBareType pair.2) ∧
      (∀ pair ∈ pairs, ∃ field, Field.read pair.1 pair.2 = .ok field)) ∧
    IsBare text pairs ∧ read text = .ok schema ∧
      read (strictText (pairs.map fun pair ↦ [pair])) = .ok schema := by
  intro pairs text schema
  have hsome : pairs ≠ [] := List.cons_ne_nil _ _
  have hdistinct : pairs.Pairwise fun first second ↦
      ¬ Text.sameIgnoringCase first.1 second.1 := by decide
  have hnames : ∀ pair ∈ pairs, IsBareName pair.1 := by decide
  have htypes : ∀ pair ∈ pairs, IsBareType pair.2 := by decide
  have haccepted : ∀ pair ∈ pairs, ∃ field, Field.read pair.1 pair.2 = .ok field := by
    simp only [pairs, List.forall_mem_cons, List.not_mem_nil, false_implies, implies_true, and_true]
    exact ⟨⟨.array "a,b]" .decimal, by rfl⟩,
      ⟨.scalar "x [y" .decimal, by rfl⟩⟩
  have hbare : IsBare text pairs := by
    have hentries : List.Forall₂ IsBareEntry pairs
        [" \x7ba,b]\t:array< Decimal >\x7d ".toList, " \x7b x [y : decimal(10,2) \x7d".toList] := by
      refine .cons ⟨"a,b]\t".toList, "array< Decimal >".toList, ?_, ?_, ?_⟩
        (.cons ⟨" x [y ".toList, " decimal(10,2) ".toList, ?_, ?_, ?_⟩ .nil)
      · exact ⟨[], ['\t'], by decide, by decide, by decide⟩
      · exact ⟨[], [], by decide, by decide, by decide⟩
      · exact ⟨[' '], [' '], by decide, by decide, by decide⟩
      · exact ⟨[' '], [' '], by decide, by decide, by decide⟩
      · exact ⟨[' '], [' '], by decide, by decide, by decide⟩
      · exact ⟨[' '], [], by decide, by decide, by decide⟩
    exact ⟨_, hentries, ['\n'], [' '], by decide, by decide, by decide⟩
  obtain ⟨found, -, hread, hstrict⟩ := spellings_agree hsome hdistinct hnames htypes haccepted
  have hschema : read (strictText (pairs.map fun pair ↦ [pair])) = .ok schema := by
    rw [read_of_pairs (isStrict_strictText _).pairs_singles]
    rfl
  have hfound : found = schema :=
    Except.ok.inj ((hstrict _ (isStrict_strictText _)).symm.trans hschema)
  refine ⟨⟨hsome, hdistinct, hnames, htypes, haccepted⟩, hbare, ?_, hschema⟩
  rw [← hfound]
  exact hread text hbare

end Schema

end ColumnStore
