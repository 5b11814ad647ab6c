import ColumnStore.Proofs.Text.Digits
import ColumnStore.Proofs.Value.Settling

/-!
# Cells of numbers

`Text.DenotesWhole` and `Text.IsDecimal` say how whole numbers and decimals are written, without
regard to how they are read. A column of whole numbers reads a cell as the number that is written in
it, if a word of the column can hold it, and a column of decimals keeps the text. Blanks around a
number do not count. The null marker and a blank cell are null, and all else is refused: no number
is ever wrapped or cut off.
-/

set_option autoImplicit false

namespace ColumnStore

/-! ### How numbers are written -/

namespace Text

/-- A sign or none; the flag says that it is a minus sign. -/
inductive IsSign : Bool → List Char → Prop
  | none : IsSign false []
  | plus : IsSign false ['+']
  | minus : IsSign true ['-']

/-- A sign or none, and at least one digit: the whole number that is written with them. -/
inductive DenotesWhole : List Char → Int → Prop
  | intro {negative : Bool} {sign digits : List Char} (hsign : IsSign negative sign)
      (hne : digits ≠ []) (hdigits : AreDigits digits) :
      DenotesWhole (sign ++ digits)
        (if negative then -(Nat.ofDigitChars 10 digits 0 : Int) else Nat.ofDigitChars 10 digits 0)

/-- A sign or none, and digits: with nothing behind them, with a point behind them and perhaps more
digits, or at least one digit behind a point. -/
inductive IsDecimal : List Char → Prop
  | whole {negative : Bool} {sign digits : List Char} (hsign : IsSign negative sign)
      (hne : digits ≠ []) (hdigits : AreDigits digits) : IsDecimal (sign ++ digits)
  | point {negative : Bool} {sign digits fraction : List Char} (hsign : IsSign negative sign)
      (hne : digits ≠ []) (hdigits : AreDigits digits) (hfraction : AreDigits fraction) :
      IsDecimal (sign ++ (digits ++ '.' :: fraction))
  | fraction {negative : Bool} {sign fraction : List Char} (hsign : IsSign negative sign)
      (hne : fraction ≠ []) (hfraction : AreDigits fraction) : IsDecimal (sign ++ '.' :: fraction)

variable {negative : Bool} {sign digits rest cs : List Char} {n : Int} {bits : Nat}

/-! ### Signs -/

/-- What is taken off as a sign is one. -/
theorem exists_sign (cs : List Char) :
    ∃ sign, IsSign (takeSign cs).1 sign ∧ cs = sign ++ (takeSign cs).2 := by
  unfold takeSign
  split
  · exact ⟨['-'], .minus, rfl⟩
  · exact ⟨['+'], .plus, rfl⟩
  · exact ⟨[], .none, rfl⟩

/-- A sign is taken off if no other one stands behind it. -/
theorem takeSign_append (hsign : IsSign negative sign)
    (hrest : ∀ c ∈ rest.head?, c.isDigit = true ∨ c = '.') :
    takeSign (sign ++ rest) = (negative, rest) := by
  cases hsign with
  | plus => rfl
  | minus => rfl
  | none =>
    cases rest with
    | nil => rfl
    | cons c rest =>
      have hc := hrest c rfl
      rw [List.nil_append]
      unfold takeSign
      split
      · rename_i heq
        cases heq
        exact absurd hc (by decide)
      · rename_i heq
        cases heq
        exact absurd hc (by decide)
      · rfl

theorem AreDigits.head (h : AreDigits digits) : ∀ c ∈ digits.head?, c.isDigit = true ∨ c = '.' :=
  fun c hc ↦ .inl (h c (List.mem_of_head? hc))

/-! ### Reading numbers -/

/-- The number that is read is the one that is written. -/
theorem readInteger_eq_some_iff : readInteger cs = some n ↔ DenotesWhole cs n := by
  have hread : readInteger cs = (readNat (takeSign cs).2).map (signed (takeSign cs).1) := rfl
  constructor
  · intro h
    obtain ⟨sign, hsign, hcs⟩ := exists_sign cs
    rw [hread] at h
    obtain ⟨size, hsize, rfl⟩ := Option.map_eq_some_iff.mp h
    obtain ⟨hdigits, hvalue⟩ := Option.ite_none_right_eq_some.mp hsize
    obtain ⟨hne, hall⟩ := isDigits_iff.mp hdigits
    have hdenotes := DenotesWhole.intro hsign hne hall
    rw [← hcs] at hdenotes
    rw [← Option.some.inj hvalue]
    exact hdenotes
  · rintro ⟨hsign, hne, hdigits⟩
    rw [hread, takeSign_append hsign hdigits.head, readNat,
      if_pos (isDigits_iff.mpr ⟨hne, hdigits⟩)]
    rfl

/-- A word is read if it can hold the number that is written. -/
theorem readWord_eq_some_iff : readWord bits cs = some n ↔
    DenotesWhole cs n ∧ -(2 ^ (bits - 1)) ≤ n ∧ n < 2 ^ (bits - 1) := by
  have hpower : ((Nat.pow 2 (bits - 1) : Nat) : Int) = 2 ^ (bits - 1) := Nat.cast_pow 2 (bits - 1)
  rw [readWord, readWithin, Option.filter_eq_some_iff, readInteger_eq_some_iff, decide_eq_true_eq,
    hpower, Int.le_sub_one_iff]

end Text

namespace Value

theorem isDecimalLiteral_iff {cs : List Char} :
    isDecimalLiteral cs = true ↔ Text.IsDecimal cs := by
  constructor
  · intro h
    obtain ⟨sign, hsign, hcs⟩ := Text.exists_sign cs
    obtain ⟨whole, fraction, hdigits, hne, hrest⟩ := exists_digits_of_isDecimalLiteral h
    obtain ⟨hwhole, hfraction⟩ := List.forall_mem_append.mp hdigits
    rw [hcs]
    rcases hrest with hrest | ⟨hrest, rfl⟩
    · rw [hrest]
      by_cases hempty : whole = []
      · subst hempty
        exact .fraction hsign hne hfraction
      · exact .point hsign hempty hwhole hfraction
    · rw [hrest]
      exact .whole hsign (by rwa [List.append_nil] at hne) hwhole
  · intro h
    unfold isDecimalLiteral
    cases h with
    | whole hsign hne hdigits =>
      rw [Text.takeSign_append hsign hdigits.head]
      dsimp only
      rw [Text.cutFirst_eq_none hdigits.point_not_mem]
      exact Text.isDigits_iff.mpr ⟨hne, hdigits⟩
    | @point _ sign digits fraction hsign hne hdigits hfraction =>
      have hhead : ∀ c ∈ (digits ++ '.' :: fraction).head?, c.isDigit = true ∨ c = '.' := by
        rw [List.head?_append_of_ne_nil digits hne]
        exact hdigits.head
      rw [Text.takeSign_append hsign hhead]
      dsimp only
      rw [Text.cutFirst_append_cons hdigits.point_not_mem]
      simp [hne, List.all_eq_true.mpr hdigits, List.all_eq_true.mpr hfraction]
    | @fraction _ sign fraction hsign hne hfraction =>
      have hcut : Text.cutFirst '.' ([] ++ '.' :: fraction) = some ([], fraction) :=
        Text.cutFirst_append_cons List.not_mem_nil fraction
      rw [Text.takeSign_append hsign (by simp)]
      dsimp only
      rw [List.nil_append] at hcut
      rw [hcut]
      simp [hne, List.all_eq_true.mpr hfraction]

/-! ### Cells -/

variable {raw : String} {type : DataType} {element : Option DataType} {value : Value} {bits : Nat}

/-- A value other than null is read as the scalar that is left without blanks, in a column whose
scalars are neither blank nor look like the null marker. -/
theorem readSimple_eq_ok_iff (hvalue : value ≠ null)
    (hmarker : readScalar? type nullMarker nullMarker.toList ≠ some value)
    (hblank : readScalar? type raw [] ≠ some value) :
    readSimple raw type = .ok value ↔
      readScalar? type raw (Text.trimChars raw.toList) = some value := by
  refine ⟨fun h ↦ (readScalar?_of_readSimple h hvalue).2, fun h ↦ ?_⟩
  have hraw : raw ≠ nullMarker := by
    rintro rfl
    exact hmarker h
  have hsome : (Text.trimChars raw.toList).isEmpty = false := by
    rw [List.isEmpty_eq_false_iff]
    intro hnil
    rw [hnil] at h
    exact hblank h
  simp [readSimple, hraw, hsome, h]

/-- A cell is refused if it is not null and no scalar is left without blanks. -/
theorem readSimple_eq_error_iff (hblank : blankIsNull type = true) :
    readSimple raw type = .error (cellError raw type) ↔
      raw ≠ nullMarker ∧ ¬ Text.AreBlank raw.toList ∧
        readScalar? type raw (Text.trimChars raw.toList) = none := by
  have hempty : (Text.trimChars raw.toList).isEmpty = true ↔ Text.AreBlank raw.toList := by
    rw [List.isEmpty_iff]
    exact Text.trimChars_eq_nil_iff
  unfold readSimple
  dsimp only
  rw [hblank, Bool.and_true, ← hempty]
  by_cases hmarker : raw = nullMarker
  · simp [hmarker]
  · by_cases hnone : (Text.trimChars raw.toList).isEmpty = true
    · simp [hmarker, hnone]
    · cases readScalar? type raw (Text.trimChars raw.toList) <;> simp [hmarker, hnone]

theorem readSimple_eq_null_iff_areBlank (hblank : blankIsNull type = true) :
    readSimple raw type = .ok null ↔ raw = nullMarker ∨ Text.AreBlank raw.toList := by
  rw [readSimple_eq_null_iff, Text.isAllBlank, List.all_eq_true, hblank]
  simp [Text.AreBlank]

/-- The value is a whole number in a word of a column type. -/
def IsNumber (type : DataType) (n : Int) : Value → Prop
  | short m => type = .short ∧ m.toInt = n
  | int m => type = .int ∧ m.toInt = n
  | long m => type = .long ∧ m.toInt = n
  | _ => False

/-- What a column with words of `bits` bits reads from a cell. -/
structure ReadsWords (type : DataType) (bits : Nat) (raw : String) (element : Option DataType) :
    Prop where
  number : ∀ n, (∃ value, read raw type element = .ok value ∧ value.IsNumber type n) ↔
    Text.DenotesWhole (Text.trimChars raw.toList) n ∧ -(2 ^ (bits - 1)) ≤ n ∧ n < 2 ^ (bits - 1)
  null : read raw type element = .ok null ↔ raw = nullMarker ∨ Text.AreBlank raw.toList
  error : read raw type element = .error (cellError raw type) ↔
    raw ≠ nullMarker ∧ ¬ Text.AreBlank raw.toList ∧
      ∀ n, Text.DenotesWhole (Text.trimChars raw.toList) n →
        n < -(2 ^ (bits - 1)) ∨ 2 ^ (bits - 1) ≤ n

/-- What a column of decimals reads from a cell. -/
structure ReadsDecimals (raw : String) (element : Option DataType) : Prop where
  number : ∀ text, read raw .decimal element = .ok (decimal text) ↔
    text = Text.trim raw ∧ Text.IsDecimal (Text.trimChars raw.toList)
  null : read raw .decimal element = .ok null ↔ raw = nullMarker ∨ Text.AreBlank raw.toList
  error : read raw .decimal element = .error (cellError raw .decimal) ↔
    raw ≠ nullMarker ∧ ¬ Text.AreBlank raw.toList ∧ ¬ Text.IsDecimal (Text.trimChars raw.toList)

/-- A column reads words if its scalars are words and these are the numbers that they were made
of. -/
theorem readsWords_of_scalar (wrap : Int → Value) (harray : type ≠ .array)
    (hblank : blankIsNull type = true) (hnull : ∀ n, wrap n ≠ null)
    (hscalar : ∀ raw cs, readScalar? type raw cs = (Text.readWord bits cs).map wrap)
    (hnumber : ∀ n m, -(2 ^ (bits - 1)) ≤ n → n < 2 ^ (bits - 1) →
      ((wrap n).IsNumber type m ↔ n = m)) (raw : String) (element : Option DataType) :
    ReadsWords type bits raw element := by
  have hsimple : read raw type element = readSimple raw type := if_pos harray
  have hnone : ∀ cs, cs = nullMarker.toList ∨ cs = [] → Text.readWord bits cs = none := by
    intro cs hcs
    have hinteger : Text.readInteger cs = none := by
      rcases hcs with rfl | rfl <;> decide
    rw [Text.readWord, Text.readWithin, hinteger]
    rfl
  have hread : ∀ value, value ≠ null → (readSimple raw type = .ok value ↔
      (Text.readWord bits (Text.trimChars raw.toList)).map wrap = some value) := by
    intro value hvalue
    rw [← hscalar raw]
    refine readSimple_eq_ok_iff hvalue ?_ ?_
    · simp [hscalar, hnone _ (.inl rfl)]
    · simp [hscalar, hnone _ (.inr rfl)]
  constructor
  · intro m
    rw [hsimple, ← Text.readWord_eq_some_iff]
    constructor
    · rintro ⟨value, hok, hvalue⟩
      have hne : value ≠ .null := by
        rintro rfl
        exact hvalue
      obtain ⟨n, hn, rfl⟩ := Option.map_eq_some_iff.mp ((hread value hne).mp hok)
      obtain ⟨-, hleast, hgreatest⟩ := Text.readWord_eq_some_iff.mp hn
      rwa [← (hnumber n m hleast hgreatest).mp hvalue]
    · intro hm
      obtain ⟨-, hleast, hgreatest⟩ := Text.readWord_eq_some_iff.mp hm
      refine ⟨wrap m, (hread _ (hnull m)).mpr ?_, (hnumber m m hleast hgreatest).mpr rfl⟩
      rw [hm, Option.map_some]
  · rw [hsimple]
    exact readSimple_eq_null_iff_areBlank hblank
  · rw [hsimple, readSimple_eq_error_iff hblank, hscalar, Option.map_eq_none_iff,
      Option.eq_none_iff_forall_ne_some]
    simp only [ne_eq, Text.readWord_eq_some_iff, not_and_or, not_le, not_lt, imp_iff_not_or]

theorem readsDecimals (raw : String) (element : Option DataType) : ReadsDecimals raw element := by
  have hscalar : ∀ raw cs value, readScalar? .decimal raw cs = some value ↔
      value = decimal (String.ofList cs) ∧ Text.IsDecimal cs := by
    intro raw cs value
    rw [readScalar?, Option.ite_none_right_eq_some, isDecimalLiteral_iff, Option.some_inj, and_comm,
      eq_comm]
  have hnone : ∀ raw cs, readScalar? .decimal raw cs = none ↔ ¬ Text.IsDecimal cs := by
    intro raw cs
    rw [readScalar?, ← isDecimalLiteral_iff]
    split <;> simp_all
  have hmarker : ¬ Text.IsDecimal nullMarker.toList := by
    rw [← isDecimalLiteral_iff]
    decide
  have hempty : ¬ Text.IsDecimal [] := by
    rw [← isDecimalLiteral_iff]
    decide
  constructor
  · intro text
    have hread : readSimple raw .decimal = .ok (decimal text) ↔
        readScalar? .decimal raw (Text.trimChars raw.toList) = some (decimal text) :=
      readSimple_eq_ok_iff (by simp) (by simp [(hnone _ _).mpr hmarker])
        (by simp [(hnone _ _).mpr hempty])
    rw [show read raw .decimal element = readSimple raw .decimal from rfl, hread, hscalar]
    simp [Text.trim]
  · exact readSimple_eq_null_iff_areBlank rfl
  · have herror := @readSimple_eq_error_iff raw .decimal rfl
    rwa [hnone] at herror

/-- Cells of numbers are read exactly. A column of words reads the whole numbers that are written
with a sign or none and at least one digit and that a word can hold; a column of decimals reads what
is written like a decimal, and keeps the text without the blanks around it. The null marker and a
blank cell are null, and every other cell is refused. -/
theorem number_cells_read_exactly (raw : String) (element : Option DataType) :
    ReadsWords .short 16 raw element ∧ ReadsWords .int 32 raw element ∧
      ReadsWords .long 64 raw element ∧ ReadsDecimals raw element := by
  refine ⟨?_, ?_, ?_, readsDecimals raw element⟩
  · have harray : DataType.short ≠ .array := nofun
    refine readsWords_of_scalar (fun n ↦ short (.ofInt n)) harray rfl (fun _ ↦ nofun)
      (fun _ _ ↦ rfl) ?_ raw element
    intro n m hleast hgreatest
    simp [IsNumber, Int16.toInt_ofInt_of_le hleast hgreatest]
  · have harray : DataType.int ≠ .array := nofun
    refine readsWords_of_scalar (fun n ↦ int (.ofInt n)) harray rfl (fun _ ↦ nofun)
      (fun _ _ ↦ rfl) ?_ raw element
    intro n m hleast hgreatest
    simp [IsNumber, Int32.toInt_ofInt_of_le hleast hgreatest]
  · have harray : DataType.long ≠ .array := nofun
    refine readsWords_of_scalar (fun n ↦ long (.ofInt n)) harray rfl (fun _ ↦ nofun)
      (fun _ _ ↦ rfl) ?_ raw element
    intro n m hleast hgreatest
    simp [IsNumber, Int64.toInt_ofInt_of_le hleast hgreatest]

end Value

end ColumnStore
