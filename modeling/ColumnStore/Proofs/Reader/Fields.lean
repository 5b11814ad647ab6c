import ColumnStore.Proofs.Reader.Getters
import ColumnStore.Proofs.Value.Codec
import ColumnStore.Proofs.Value.Survival

/-!
# The fields of a row

An accessor of a row that is held tells the type of a column and the value of a cell. What it is
asked for leaves no trace in the backend but counted calls. A value reaches it by the getter of the
column's type; the items of an array pass through texts once more, which they survive as they
survived the cell of the array.
-/

set_option autoImplicit false

namespace ColumnStore.Memory

variable {before after memory : Memory} {handle ordinal : Nat} {field : Field} {value : Value}
  {operation : Operation}

/-! ### Fields that are shown -/

/-- A row that is held has a field at an ordinal, which a getter can be asked for. -/
structure Shows (memory : Memory) (handle ordinal : Nat) (field : Field) (value : Value) :
    Prop where
  fits : ordinal ≤ Accessor.greatestOrdinal
  held : ∃ row : RowState, memory.Holds handle (.row row) ∧
    row.schema.field? ordinal = some field ∧ row.values[ordinal]? = some value

theorem Recounts.shows (h : before.Recounts after)
    (hshows : before.Shows handle ordinal field value) :
    after.Shows handle ordinal field value := by
  obtain ⟨row, hholds, hfield, hvalue⟩ := hshows.held
  exact ⟨hshows.fits, row, h.holds hholds, hfield, hvalue⟩

theorem Shows.running (h : memory.Shows handle ordinal field value) :
    memory.isShutDown = false := by
  obtain ⟨row, hholds, -, -⟩ := h.held
  exact hholds.running

theorem Shows.counting (h : memory.Shows handle ordinal field value) (method : Method) :
    (memory.counting method).Shows handle ordinal field value :=
  (recounts_counting memory method).shows h

theorem columnAt_eq {row : RowState} (h : row.schema.field? ordinal = some field) :
    columnAt row ordinal = field := by
  rw [columnAt, h]
  rfl

theorem Shows.fieldOfRow_eq (h : memory.Shows handle ordinal field value) (method : String) :
    memory.fieldOfRow handle [.int (Int32.ofNat ordinal)] method =
      .ok ⟨ordinal, field, value⟩ := by
  obtain ⟨row, hholds, hfield, hvalue⟩ := h.held
  rw [hholds.fieldOfRow_eq h.fits, hvalue, columnAt_eq hfield]

/-- What a typed getter answers. -/
theorem Shows.getWith_eq {method wanted : String} {take : Value → Option Returned}
    (h : memory.Shows handle ordinal field value) :
    getWith method wanted take handle [.int (Int32.ofNat ordinal)] memory =
      match take value with
      | some returned => .ok returned
      | none =>
        if value.isNull then .error (.nullValue method ordinal)
        else .error (.classCast (valueClass value) wanted) := by
  unfold getWith
  rw [h.fieldOfRow_eq method]
  rfl

/-- Asking for one field is a call that only looks. -/
theorem looks_callField {found : Except CallError Returned}
    (h : memory.Shows handle ordinal field value) (hkind : operation.method.kind = .onObject)
    (hperform : ∀ after : Memory, after.Shows handle ordinal field value →
      perform operation handle [.int (Int32.ofNat ordinal)] after = .ofExcept after found) :
    Looks (Accessor.callField ⟨some handle⟩ operation ordinal) memory
      (found.mapError fun error ↦ .error (.ofCall
        (operation.method.name ++ "(" ++ toString ordinal ++ ")") (.field ordinal) error)) :=
  looks_of_runs
    (runs_callField h.running h.fits hkind (hperform _ (h.counting operation.method)))
    (recounts_counting memory operation.method)

/-! ### Getters and types -/

/-- A getter that has an answer for the value. -/
theorem looks_ask (h : memory.Shows handle ordinal field value) (getter : Getter)
    {result : getter.Result}
    (hanswer : (if value.isNull then getter.forNull? else getter.reads value) = some result) :
    Looks (getter.ask ⟨some handle⟩ ordinal) memory (.ok result) := by
  obtain ⟨row, hholds, -, hvalue⟩ := h.held
  have hfound : found getter row ordinal = .ok result := by
    unfold found
    rw [hvalue]
    dsimp only
    rw [hanswer]
  have hruns := looks_of_runs (runs_ask hholds h.fits getter)
    (recounts_counting memory getter.operation.method)
  rwa [hfound] at hruns

/-- What an accessor makes of a null that a getter stumbled over. -/
def nullError (getter : Getter) (ordinal : Nat) : Error :=
  .ofCall (getter.operation.method.name ++ "(" ++ toString ordinal ++ ")") (.field ordinal)
    (.nullValue getter.complaint ordinal)

/-- A getter that stumbles over a null. -/
theorem looks_ask_null (h : memory.Shows handle ordinal field .null) (getter : Getter)
    (hnull : getter.forNull? = none) :
    Looks (getter.ask ⟨some handle⟩ ordinal) memory
      (.error (.error (nullError getter ordinal))) := by
  obtain ⟨row, hholds, -, hvalue⟩ := h.held
  have hfound : found getter row ordinal = .error (.nullValue getter.complaint ordinal) := by
    simp [found, hvalue, hnull, Value.isNull]
  have hruns := looks_of_runs (runs_ask hholds h.fits getter)
    (recounts_counting memory getter.operation.method)
  rwa [hfound] at hruns

/-- An accessor tells the type of a column. -/
theorem looks_type (h : memory.Shows handle ordinal field value) :
    Looks (Accessor.type ⟨some handle⟩ ordinal) memory (.ok field.type) := by
  obtain ⟨row, hholds, hfield, hvalue⟩ := h.held
  rw [← columnAt_eq hfield]
  exact looks_of_runs (runs_type hholds h.fits hvalue) (recounts_counting memory _)

/-- An accessor tells the type of the items of an array column. -/
theorem looks_elementType (h : memory.Shows handle ordinal field value)
    (harray : field.type = .array) :
    Looks (Accessor.elementType ⟨some handle⟩ ordinal) memory
      (.ok (field.element.getD .string)) := by
  let name := (field.element.getD .string).name
  have hget : Looks (Accessor.getField ⟨some handle⟩ .elementTypeName Returned.toText ordinal)
      memory (.ok (some name)) := by
    refine (@looks_callField _ _ _ _ _ _ (.ok (.text (some name))) h rfl fun after hafter ↦ ?_).bind
      fun _ _ ↦ looks_pure (some name)
    change Reply.ofExcept after (after.fieldOfRow handle _ _ >>= fun field ↦ _) = _
    rw [hafter.fieldOfRow_eq]
    change Reply.ofExcept after (if field.type = .array then _ else _) = _
    rw [if_pos harray]
  have hname : Looks (Accessor.elementTypeName ⟨some handle⟩ ordinal) memory (.ok name) :=
    hget.bind fun _ _ ↦ looks_pure _
  refine hname.bind fun after _ ↦ ?_
  unfold Accessor.readType
  rw [DataType.read_name]
  exact looks_pure _

/-! ### Values -/

/-- A null is answered as null or stumbled over. -/
theorem looks_valueOf_null (h : memory.Shows handle ordinal field .null) :
    Looks (Accessor.valueOf ⟨some handle⟩ ordinal field.type) memory (.ok .null) ∨
      ∃ error : Error, error.isNullPointer = true ∧
        Looks (Accessor.valueOf ⟨some handle⟩ ordinal field.type) memory
          (.error (.error error)) := by
  have hstumbles (getter : Getter) (form : getter.Result → Value)
      (hnull : getter.forNull? = none) : ∃ error : Error, error.isNullPointer = true ∧
        Looks (form <$> getter.ask ⟨some handle⟩ ordinal) memory (.error (.error error)) :=
    ⟨nullError getter ordinal, rfl, (looks_ask_null h getter hnull).map_error form⟩
  cases htype : field.type with
  | string => exact .inl ((looks_ask h .string rfl).map _)
  | varchar => exact .inl ((looks_ask h .varchar rfl).map _)
  | array =>
    refine .inr ⟨nullError .array ordinal, rfl, ?_⟩
    refine (looks_elementType h htype).bind fun after hafter ↦ ?_
    exact (looks_ask_null (hafter.shows h) .array rfl).bind_error
  | short => exact .inr (hstumbles .short _ rfl)
  | int => exact .inr (hstumbles .int _ rfl)
  | date => exact .inr (hstumbles .int _ rfl)
  | long => exact .inr (hstumbles .long _ rfl)
  | timestamp => exact .inr (hstumbles .long _ rfl)
  | double => exact .inr (hstumbles .double _ rfl)
  | float => exact .inr (hstumbles .float _ rfl)
  | boolean => exact .inr (hstumbles .boolean _ rfl)
  | decimal => exact .inr (hstumbles .decimal _ rfl)

/-- An item that an accessor is given as a text is read again. -/
theorem looks_readItem {element : DataType} {item again : Value} (helement : element ≠ .array)
    (hitem : Value.readSimple item.cell element = .ok again) :
    Looks (Accessor.readItem element ordinal (if item.isNull then none else some item.cell)) memory
      (.ok again) := by
  by_cases hnull : item.isNull
  · obtain rfl : item = .null := by cases item <;> first | rfl | cases hnull
    rw [Value.cell, Value.readSimple_nullMarker] at hitem
    obtain rfl : Value.null = again := Except.ok.inj hitem
    exact looks_pure Value.null
  · rw [if_neg hnull]
    unfold Accessor.readItem
    dsimp only
    rw [Value.read, if_pos helement, hitem]
    exact looks_pure again

/-- An array is answered item by item. -/
theorem looks_arrayValue {items again : List Value}
    (h : memory.Shows handle ordinal field (.array items)) (helement : field.element ≠ some .array)
    (hagain : List.Forall₂ (fun item again ↦
      Value.readSimple item.cell (field.element.getD .string) = .ok again) items again)
    (harray : field.type = .array) :
    Looks (Accessor.arrayValue ⟨some handle⟩ ordinal) memory (.ok (.array again)) := by
  have hscalar : field.element.getD .string ≠ .array := Value.getD_string_ne (by decide) helement
  refine (looks_elementType h harray).bind fun after hafter ↦ ?_
  refine (looks_ask (hafter.shows h) .array rfl).bind fun next _ ↦ ?_
  refine (looks_mapM ?_ next (.refl next)).bind fun _ _ ↦ looks_pure (Value.array again)
  rw [List.forall₂_map_left_iff]
  exact hagain.imp fun item again hitem _ _ ↦ looks_readItem hscalar hitem

/-- A value other than null is answered by the getter of the column's type. -/
theorem looks_valueOf {told : Value} (h : memory.Shows handle ordinal field value)
    (hretells : field.Retells value told) (htype : value.dataType? = some field.type) :
    Looks (Accessor.valueOf ⟨some handle⟩ ordinal field.type) memory (.ok told) := by
  have hsame := hretells.2
  cases value with
  | null => cases htype
  | array items =>
    obtain ⟨helement, again, rfl, hagain⟩ := hsame
    have harray : field.type = .array := (Option.some.inj htype).symm
    rw [harray]
    exact looks_arrayValue h helement hagain harray
  | short n =>
    rw [← Option.some.inj htype, hsame]
    exact (looks_ask h .short rfl).map Value.short
  | int n =>
    rw [← Option.some.inj htype, hsame]
    exact (looks_ask h .int rfl).map Value.int
  | date n =>
    rw [← Option.some.inj htype, hsame]
    exact (looks_ask h .int rfl).map Value.date
  | long n =>
    rw [← Option.some.inj htype, hsame]
    exact (looks_ask h .long rfl).map Value.long
  | timestamp n =>
    rw [← Option.some.inj htype, hsame]
    exact (looks_ask h .long rfl).map Value.timestamp
  | float x =>
    rw [← Option.some.inj htype, hsame]
    exact (looks_ask h .float rfl).map Value.float
  | double x =>
    rw [← Option.some.inj htype, hsame]
    exact (looks_ask h .double rfl).map Value.double
  | boolean b =>
    rw [← Option.some.inj htype, hsame]
    exact (looks_ask h .boolean rfl).map Value.boolean
  | string text =>
    rw [← Option.some.inj htype, hsame]
    exact (looks_ask h .string rfl).map fun text ↦ (text.map Value.string).getD .null
  | varchar text =>
    rw [← Option.some.inj htype, hsame]
    exact (looks_ask h .varchar rfl).map fun text ↦ (text.map Value.varchar).getD .null
  | decimal text =>
    rw [← Option.some.inj htype, hsame]
    exact (looks_ask h .decimal rfl).map fun text ↦ (text.map Value.decimal).getD .null

/-- An accessor tells the value of a cell as its column retells it. -/
theorem looks_value {told : Value} (h : memory.Shows handle ordinal field value)
    (hretells : field.Retells value told) :
    Looks (Accessor.value ⟨some handle⟩ ordinal) memory (.ok told) := by
  refine (looks_type h).bind fun after hafter ↦ ?_
  have hshows := hafter.shows h
  rcases hretells.1 with rfl | ⟨htype, -⟩
  · obtain rfl : told = .null := hretells.2
    rcases looks_valueOf_null hshows with hnull | ⟨error, herror, hstumbles⟩
    · exact hnull.attempt.bind fun _ _ ↦ looks_pure _
    · refine hstumbles.attempt_error.bind fun _ _ ↦ ?_
      dsimp only
      rw [if_pos herror]
      exact looks_pure _
  · exact (looks_valueOf hshows hretells htype).attempt.bind fun _ _ ↦ looks_pure _

/-! ### Whole rows -/

variable {schema : Schema} {values told : Row}

/-- The fields of a row that can be told are shown. -/
theorem shows_of_retells (h : memory.Holds handle (.row ⟨schema, values⟩))
    (hretells : schema.Retells values told) (hwidth : values.length ≤ Accessor.greatestOrdinal)
    (hvalue : values[ordinal]? = some value) :
    ∃ (field : Field) (again : Value), schema.fields[ordinal]? = some field ∧
      told[ordinal]? = some again ∧ field.Retells value again ∧
      memory.Shows handle ordinal field value := by
  obtain ⟨field, again, hfield, hagain, hcell⟩ := hretells.cells ordinal value hvalue
  obtain ⟨hlt, -⟩ := List.getElem?_eq_some_iff.mp hvalue
  exact ⟨field, again, hfield, hagain, hcell, Nat.le_trans (Nat.le_of_lt hlt) hwidth,
    ⟨schema, values⟩, h, hfield, hvalue⟩

/-- An accessor tells the values of a row one after the other. -/
theorem looks_valuesFrom (hretells : schema.Retells values told)
    (hwidth : values.length ≤ Accessor.greatestOrdinal)
    (count : Nat) (h : memory.Holds handle (.row ⟨schema, values⟩))
    (hcount : ordinal + count ≤ values.length) :
    Looks (Accessor.valuesFrom ⟨some handle⟩ ordinal count) memory
      (.ok ((told.drop ordinal).take count)) := by
  induction count generalizing ordinal memory with
  | zero => exact looks_pure []
  | succ count ih =>
    have hlt : ordinal < values.length := by omega
    have hvalue := List.getElem?_eq_getElem hlt
    obtain ⟨field, again, hcolumn, hagain, hfield, hshows⟩ :=
      shows_of_retells h hretells hwidth hvalue
    obtain ⟨hplace, rfl⟩ := List.getElem?_eq_some_iff.mp hagain
    rw [List.drop_eq_getElem_cons hplace, List.take_succ_cons]
    refine (looks_value hshows hfield).bind fun after hafter ↦ ?_
    exact (ih (hafter.holds h) (by omega)).bind fun _ _ ↦ looks_pure _

/-- An accessor tells how many fields the row has. -/
theorem looks_length {row : RowState} (h : memory.Holds handle (.row row))
    (hwidth : row.values.length ≤ Accessor.greatestOrdinal) :
    Looks (Accessor.length ⟨some handle⟩) memory (.ok row.values.length) := by
  obtain ⟨hcount, hpositive⟩ := toInt_ofNat_ordinal hwidth
  unfold Accessor.length
  refine (looks_pure handle).bind fun after hafter ↦ ?_
  have hholds := hafter.holds h
  have hperform : perform .rowLength handle [] (after.counting Operation.rowLength.method) =
      .ofExcept (after.counting Operation.rowLength.method)
        (.ok (.int (Int32.ofNat row.values.length))) := by
    change Reply.ofExcept _ ((Memory.row _ handle "getLength").map _) = _
    rw [row_eq_ok_iff.mpr (hholds.counting _).object]
    rfl
  refine (looks_call hholds.running rfl hperform).bind fun next _ ↦ ?_
  refine (looks_pure _).bind fun next _ ↦ (looks_pure (Int32.ofNat row.values.length)).bind
    fun next _ ↦ ?_
  rw [if_neg hpositive, hcount]
  exact looks_pure _

/-- An accessor tells all values of a row. -/
theorem looks_values (h : memory.Holds handle (.row ⟨schema, values⟩))
    (hretells : schema.Retells values told) (hwidth : values.length ≤ Accessor.greatestOrdinal) :
    Looks (Accessor.values ⟨some handle⟩) memory (.ok told) := by
  refine (looks_length h hwidth).bind fun after hafter ↦ ?_
  have hall := looks_valuesFrom hretells hwidth values.length (hafter.holds h)
    (Nat.le_of_eq (Nat.zero_add values.length))
  rwa [List.drop_zero, List.take_of_length_le (Nat.le_of_eq hretells.length)] at hall

end ColumnStore.Memory
