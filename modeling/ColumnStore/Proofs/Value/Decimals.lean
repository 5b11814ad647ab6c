import ColumnStore.Proofs.Binary.Decimal
import ColumnStore.Proofs.Text.Pieces
import ColumnStore.Proofs.Writer.Sorting

/-!
# How decimals are sorted

A decimal keeps all of its digits, but two decimals are compared as the double-precision numbers
nearest to them. So they are never sorted the wrong way round, but decimals that share their nearest
number are not told apart, and a column of decimals is sorted in the order of the nearest numbers
only.
-/

set_option autoImplicit false

namespace ColumnStore

/-- The exact number that a decimal literal stands for. -/
def Value.decimalNumber (cs : List Char) : ℚ :=
  let (negative, digits) := Text.takeSign cs
  signedRatio negative <|
    match Text.cutFirst '.' digits with
    | some (whole, fraction) => Text.natOfDigits (whole ++ fraction) / 10 ^ fraction.length
    | none => Text.natOfDigits digits

/-- A decimal literal is read as the nearest number. -/
theorem Binary.exists_isNearest_of_isDecimalLiteral {cs : List Char}
    (h : Value.isDecimalLiteral cs = true) :
    ∃ x : Binary64, Binary.read .double cs = some x ∧ x.IsNearest (Value.decimalNumber cs) := by
  obtain ⟨whole, fraction, hdigits, hrest, hread⟩ := Binary.read_of_isDecimalLiteral h .double
  have hpoint : '.' ∉ whole := fun hmem ↦
    absurd (hdigits '.' (List.mem_append_left fraction hmem)) (by decide)
  have hnumber : Value.decimalNumber cs = signedRatio (Text.takeSign cs).1
      (Text.natOfDigits (whole ++ fraction) * 10 ^ (0 - fraction.length : Int)) := by
    unfold Value.decimalNumber
    rw [zero_sub, zpow_neg, zpow_natCast, ← div_eq_mul_inv]
    dsimp only
    rcases hrest with hrest | ⟨hrest, rfl⟩
    · rw [hrest, Text.cutFirst_append_cons hpoint]
    · rw [hrest, Text.cutFirst_eq_none hpoint]
      simp
  exact ⟨_, hread, hnumber ▸ isNearest_ofDecimal _ _ _⟩

namespace Value

variable {s t raw raw' : String} {type : DataType} {element : Option DataType}

/-- The comparison of two decimals: they tie exactly if they share their nearest number, and they
are told apart in the right direction only. -/
theorem compareDecimals_spec (hs : isDecimalLiteral s.toList = true)
    (ht : isDecimalLiteral t.toList = true) :
    (compareDecimals s t = .eq ↔
        ShareNearest (decimalNumber s.toList) (decimalNumber t.toList)) ∧
      (compareDecimals s t = .lt → decimalNumber s.toList < decimalNumber t.toList) ∧
      (compareDecimals s t = .gt → decimalNumber t.toList < decimalNumber s.toList) := by
  obtain ⟨x, hx, hxnear⟩ := Binary.exists_isNearest_of_isDecimalLiteral hs
  obtain ⟨y, hy, hynear⟩ := Binary.exists_isNearest_of_isDecimalLiteral ht
  have hcompare : compareDecimals s t = Ord.compare x.key y.key := by
    simp [compareDecimals, hx, hy, Binary.compare?, hxnear.number, hynear.number]
  rw [hcompare, Binary.shareNearest_iff hxnear hynear]
  refine ⟨compare_eq_iff_eq, fun hlt ↦ ?_, fun hgt ↦ ?_⟩
  · exact hxnear.lt_of_key_lt hynear (compare_lt_iff_lt.mp hlt)
  · exact hynear.lt_of_key_lt hxnear (compare_gt_iff_gt.mp hgt)

/-- The values stand as in a sorted column of decimals: null first, and of two decimals the first
one is not the greater one, as far as the nearest numbers tell. -/
inductive InDecimalOrder : Value → Value → Prop
  | null (later : Value) : InDecimalOrder .null later
  | decimals {s t : String} (h : decimalNumber s.toList ≤ decimalNumber t.toList ∨
      ShareNearest (decimalNumber s.toList) (decimalNumber t.toList)) :
      InDecimalOrder (.decimal s) (.decimal t)

theorem inDecimalOrder_of_isLE {first last : Value} (h : IsOf .decimal first)
    (h' : IsOf .decimal last) (hle : (compare first last).isLE) : InDecimalOrder first last := by
  rcases h with rfl | ⟨htype, hs⟩
  · exact .null last
  rcases h' with rfl | ⟨htype', ht⟩
  · cases first <;> cases htype
    cases hle
  cases first <;> cases htype
  cases last <;> cases htype'
  rename_i s t
  obtain ⟨heq, hlt, -⟩ := compareDecimals_spec (hs s rfl) (ht t rfl)
  rcases Ordering.isLE_iff_eq_lt_or_eq_eq.mp hle with hless | htie
  · exact .decimals (.inl (hlt hless).le)
  · exact .decimals (.inr (heq.mp htie))

end Value

/-! ### Files -/

namespace Memory

variable {memory : Memory} {builder handle : Nat} {plan : WriterPlan} {schema : Schema}

/-- What is in order by some positions is in order by the first one. -/
theorem isLE_valueAt_of_isLE_compareAt {position : Nat} {rest : List Nat} {first last : Row}
    (h : (Row.compareAt (position :: rest) first last).isLE) :
    ((first.valueAt position).compare (last.valueAt position)).isLE := by
  rw [Row.compareAt_cons] at h
  cases hfirst : (first.valueAt position).compare (last.valueAt position) with
  | lt | eq => rfl
  | gt =>
    rw [hfirst] at h
    exact h

/-- Rows that records stand for, sorted by a column of decimals and further ones, stand in decimal
order in this column. -/
theorem pairwise_inDecimalOrder {position : Nat} {rest : List Nat} {rows : List Row}
    (hfirst : ∃ field, schema.field? position = some field ∧ field.type = .decimal)
    (hrest : ∀ other ∈ rest, ∃ field, schema.field? other = some field ∧
      field.type ≠ .float ∧ field.type ≠ .double)
    (hrows : ∀ row ∈ rows, ∃ record, schema.parsed? record = some row) :
    (Row.sortRows (position :: rest) rows).Pairwise fun earlier later ↦
      Value.InDecimalOrder (earlier.valueAt position) (later.valueAt position) := by
  obtain ⟨field, hfield, htype⟩ := hfirst
  have horder := @Schema.ordersOn_compareAt schema (position :: rest) <|
    List.forall_mem_cons.mpr ⟨⟨field, hfield, by simp [htype], by simp [htype]⟩, hrest⟩
  have hisOf : ∀ row ∈ Row.sortRows (position :: rest) rows,
      Value.IsOf .decimal (row.valueAt position) := by
    intro row hrow
    obtain ⟨record, hrecord⟩ := hrows row ((Row.sortRows_perm _ _).mem_iff.mp hrow)
    exact htype ▸ schema.isOf_valueAt hrecord hfield
  refine (Row.pairwise_sortRows horder hrows).imp_of_mem fun hearlier hlater hle ↦ ?_
  exact Value.inDecimalOrder_of_isLE (hisOf _ hearlier) (hisOf _ hlater)
    (isLE_valueAt_of_isLE_compareAt hle)

/-- Decimals are sorted by the numbers nearest to them. Two decimals that a column reads from cells
tie exactly if one double-precision number is nearest to both; otherwise they are told apart as
their exact numbers are. And a file that is sorted by the column first, and by no column of
floating-point numbers, holds the rows that were written, null first in this column and the others
in the order of their exact numbers but where these share their nearest number. -/
theorem decimals_sorted_by_nearest {schema : Schema} {position : Nat} {field : Field}
    (hfield : schema.field? position = some field) (htype : field.type = .decimal) :
    (∀ raw raw' s t : String,
      Value.read raw field.type field.element = .ok (.decimal s) →
      Value.read raw' field.type field.element = .ok (.decimal t) →
        (Value.compare (.decimal s) (.decimal t) = .eq ↔
          ShareNearest (Value.decimalNumber s.toList) (Value.decimalNumber t.toList)) ∧
        (Value.compare (.decimal s) (.decimal t) = .lt →
          Value.decimalNumber s.toList < Value.decimalNumber t.toList) ∧
        (Value.compare (.decimal s) (.decimal t) = .gt →
          Value.decimalNumber t.toList < Value.decimalNumber s.toList)) ∧
    ∀ (memory : Memory) (builder handle : Nat) (plan : WriterPlan) (column : String)
      (rest : List String) (calls : List Call),
      memory.Holds builder (.writerBuilder plan) → plan.schema = some schema →
      plan.sortColumns = column :: rest → schema.indexOf? column = some position →
      (∀ column ∈ rest, ∀ position field, schema.indexOf? column = some position →
        schema.field? position = some field → field.type ≠ .float ∧ field.type ≠ .double) →
      (memory.reply (.onObject builder Operation.buildWriter.method [])).outcome =
        .returned (.object (some handle)) →
      (∀ call ∈ calls, call.LeavesOpen handle) →
        let built := (memory.reply (.onObject builder Operation.buildWriter.method [])).state
        let written := built.rowsTaken handle schema calls
        let closing :=
          (built.after calls).reply (.onObject handle Operation.closeWriter.method [])
        closing.outcome = .returned .nothing ∧
          (written ≠ [] → ∃ commit : Commit,
            closing.state.store.commits = (built.after calls).store.commits ++ [commit] ∧
            commit.rows.Perm written ∧
            commit.rows.Pairwise fun earlier later ↦
              Value.InDecimalOrder (earlier.valueAt position) (later.valueAt position)) := by
  constructor
  · intro raw raw' s t hs ht
    rw [htype] at hs ht
    exact Value.compareDecimals_spec (Value.isDecimalLiteral_of_read hs)
      (Value.isDecimalLiteral_of_read ht)
  · intro memory builder handle plan column rest calls hplan hschema hsort hposition hrest hbuilt
      hcalls built written closing
    obtain ⟨houtcome, -, hsome⟩ := reply_close_after hplan hschema hbuilt hcalls
    refine ⟨houtcome, fun hwritten ↦ ?_⟩
    obtain ⟨commit, positions, hcommits, -, -, hpositions, hrows⟩ := hsome hwritten
    rw [hsort] at hpositions
    cases positions with
    | nil => cases hpositions
    | cons first others =>
      obtain ⟨hfirst, hothers⟩ := List.cons.inj hpositions
      obtain rfl : position = first := Option.some.inj (hposition.symm.trans hfirst)
      refine ⟨commit, hcommits, ?_, ?_⟩ <;> rw [hrows]
      · exact Row.sortRows_perm _ _
      · exact pairwise_inDecimalOrder ⟨field, hfield, htype⟩
          (forall_field_of_map_indexOf? hothers hrest)
          fun row hrow ↦ exists_parsed?_of_mem_rowsTaken hrow

/-- A plan for prices, sorted by price. -/
def pricesPlan : WriterPlan :=
  { WriterPlan.empty with
    path := some "t", schema := some ⟨[⟨"price", .decimal, none⟩]⟩, writtenBy := some "w",
    sortColumns := ["price"] }

/-- Two spellings of one price tie, and prices with different counts of digits are sorted. -/
theorem decimals_sorted_by_nearest_of_prices :
    ShareNearest (Value.decimalNumber "0.1".toList) (Value.decimalNumber "+.10".toList) ∧
      let written := (freshlyBuilt pricesPlan).after (writesOf [["10"], ["\\N"], ["9.5"], ["-.5"]])
      let closing := written.reply (.onObject 2 Operation.closeWriter.method [])
      ∃ commit : Commit, closing.state.store.commits = written.store.commits ++ [commit] ∧
        commit.rows.Perm [[.decimal "10"], [.null], [.decimal "9.5"], [.decimal "-.5"]] ∧
        commit.rows.Pairwise fun earlier later ↦
          Value.InDecimalOrder (earlier.valueAt 0) (later.valueAt 0) := by
  obtain ⟨hcompare, hfiles⟩ := @decimals_sorted_by_nearest ⟨[⟨"price", .decimal, none⟩]⟩ 0
    ⟨"price", .decimal, none⟩ rfl rfl
  refine ⟨(hcompare "0.1" "+.10" "0.1" "+.10" rfl rfl).1.mp (by decide +kernel), ?_⟩
  obtain ⟨-, hfiled⟩ := hfiles ⟨.empty, #[some (.writerBuilder pricesPlan)], false⟩ 1 2 pricesPlan
    "price" [] (writesOf [["10"], ["\\N"], ["9.5"], ["-.5"]]) ⟨rfl, rfl⟩ rfl rfl
    (by decide +kernel) nofun (by decide +kernel) (by decide +kernel)
  exact hfiled nofun

end Memory

/-- Two decimals that differ in their last digit tie. -/
theorem Value.long_decimals_tie :
    read "9007199254740993" .decimal none = .ok (decimal "9007199254740993") ∧
      read "9007199254740992" .decimal none = .ok (decimal "9007199254740992") ∧
      compare (decimal "9007199254740993") (decimal "9007199254740992") = .eq ∧
      decimalNumber "9007199254740992".toList < decimalNumber "9007199254740993".toList :=
  ⟨rfl, rfl, by decide +kernel, by decide +kernel⟩

end ColumnStore
