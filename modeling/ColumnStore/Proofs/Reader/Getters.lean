import ColumnStore.Client.Row
import ColumnStore.Proofs.Client.Recorded
import ColumnStore.Proofs.Memory.Looking
import ColumnStore.Proofs.Value.Typing
import Mathlib.Algebra.Group.Nat.Defs

/-!
# Typed getters

A `Getter` is one of the ten ways in which an accessor is asked for a field. `Getter.reads` says
which stored values a getter returns and as what. Whatever the row holds, and whether or not its
values have the types of its columns, a getter returns what it reads, refuses other values as being
of another type, and refuses ordinals at which the row has no value. Nothing is called for an
ordinal that cannot be handed to the backend.

A getter that returns texts as they are stored has an answer for null as well; the others are told
of a null pointer.
-/

set_option autoImplicit false

namespace ColumnStore

/-- The ways in which an accessor can be asked for a field. -/
inductive Getter where
  | short
  | int
  | long
  | float
  | double
  | boolean
  | string
  | varchar
  | decimal
  | array
  deriving DecidableEq

namespace Getter

/-- What a getter returns. -/
abbrev Result : Getter → Type
  | .short => Int16
  | .int => Int32
  | .long => Int64
  | .float => Binary32
  | .double => Binary64
  | .boolean => Bool
  | .string | .varchar | .decimal => Option String
  | .array => List (Option String)

/-- Asks an accessor for a field. -/
def ask {σ : Type} (accessor : Accessor) (ordinal : Nat) :
    (getter : Getter) → Client σ getter.Result
  | .short => accessor.short ordinal
  | .int => accessor.int ordinal
  | .long => accessor.long ordinal
  | .float => accessor.float ordinal
  | .double => accessor.double ordinal
  | .boolean => accessor.boolean ordinal
  | .string => accessor.string ordinal
  | .varchar => accessor.varchar ordinal
  | .decimal => accessor.decimal ordinal
  | .array => accessor.array ordinal

/-- The stored values that a getter returns. Days and milliseconds are returned as numbers, and the
items of an array as the texts of their cells, null as nothing. -/
def reads : (getter : Getter) → Value → Option getter.Result
  | .short, .short n => some n
  | .int, .int n | .int, .date n => some n
  | .long, .long n | .long, .timestamp n => some n
  | .float, .float x => some x
  | .double, .double x => some x
  | .boolean, .boolean b => some b
  | .string, .string text | .string, .varchar text => some (some text)
  | .varchar, .string text | .varchar, .varchar text => some (some text)
  | .decimal, .decimal text => some (some text)
  | .array, .array items => some (items.map fun item ↦ if item.isNull then none else some item.cell)
  | _, _ => none

/-- What a getter returns for null. -/
def forNull? : (getter : Getter) → Option getter.Result
  | .string => some none
  | .varchar => some none
  | _ => none

/-- The getter that matches a type. -/
def ofType : DataType → Getter
  | .short => .short
  | .int | .date => .int
  | .long | .timestamp => .long
  | .float => .float
  | .double => .double
  | .boolean => .boolean
  | .string => .string
  | .varchar => .varchar
  | .decimal => .decimal
  | .array => .array

/-- Nothing is read from null. -/
theorem isNull_of_reads {getter : Getter} {value : Value} {stored : getter.Result}
    (h : getter.reads value = some stored) : value.isNull = false := by
  cases value with
  | null => cases getter <;> cases h
  | _ => rfl

/-- The getter that matches the type of a value reads the value. -/
theorem exists_reads_ofType {value : Value} {type : DataType} (h : value.dataType? = some type) :
    ∃ stored, (ofType type).reads value = some stored := by
  cases value <;> cases h <;> exact ⟨_, rfl⟩

/-- An answer for a value: what the getter reads is returned, and another value is refused as being
of another type. A null is answered as such or refused with a null pointer. -/
structure Answers (getter : Getter) (ordinal : Nat) (value : Value)
    (result : Except Failure getter.Result) : Prop where
  reads : ∀ stored, getter.reads value = some stored → result = .ok stored
  refuses : value ≠ .null → getter.reads value = none →
    ∃ reason, result = .error (.error (.typeMismatch ordinal reason))
  null : value = .null →
    match getter.forNull? with
    | some answer => result = .ok answer
    | none => ∃ activity reason,
      result = .error (.error (.managed activity "java.lang.NullPointerException" reason))

/-- No answer for a value is a refusal of the ordinal. -/
theorem Answers.ne_index {getter : Getter} {ordinal other : Nat} {value : Value}
    {result : Except Failure getter.Result} {reason : String}
    (h : getter.Answers ordinal value result) :
    result ≠ .error (.error (.index other reason)) := by
  by_cases hnull : value = .null
  · have hanswer := h.null hnull
    cases hforNull : getter.forNull? with
    | some answer =>
      rw [hforNull] at hanswer
      simp [hanswer]
    | none =>
      rw [hforNull] at hanswer
      obtain ⟨activity, cause, rfl⟩ := hanswer
      simp
  · cases hreads : getter.reads value with
    | some stored => simp [h.reads stored hreads]
    | none =>
      obtain ⟨cause, rfl⟩ := h.refuses hnull hreads
      simp

/-! ### The calls of getters -/

/-- The operation that a getter calls. -/
def operation : Getter → Operation
  | .short => .getShort
  | .int => .getInt
  | .long => .getLong
  | .float => .getFloat
  | .double => .getDouble
  | .boolean => .getBoolean
  | .string => .getString
  | .varchar => .getVarchar
  | .decimal => .getDecimal
  | .array => .getArray

/-- How a getter takes its result out of what the call returns. -/
def extract : (getter : Getter) → Method → Returned → Except CallError getter.Result
  | .short => Returned.toShort
  | .int => Returned.toInt
  | .long => Returned.toLong
  | .float => Returned.toFloat
  | .double => Returned.toDouble
  | .boolean => Returned.toBoolean
  | .string => Returned.toText
  | .varchar => Returned.toText
  | .decimal => Returned.toText
  | .array => Returned.toTexts

theorem ask_eq_getField {σ : Type} (accessor : Accessor) (ordinal : Nat) (getter : Getter) :
    (getter.ask accessor ordinal : Client σ getter.Result) =
      accessor.getField getter.operation getter.extract ordinal := by
  cases getter <;> rfl

/-- The values for which the backend answers a getter. -/
def take : Getter → Value → Option Returned
  | .short => Memory.takeShort
  | .int => Memory.takeInt
  | .long => Memory.takeLong
  | .float => Memory.takeFloat
  | .double => Memory.takeDouble
  | .boolean => Memory.takeBoolean
  | .string => Memory.takeText
  | .varchar => Memory.takeText
  | .decimal => Memory.takeDecimal
  | .array => Memory.takeArray

/-- The name under which the backend complains about a getter. -/
def complaint : Getter → String
  | .varchar => "getString"
  | getter => getter.operation.method.name

/-- The managed class that a getter wants. -/
def wanted : Getter → String
  | .short => "java.lang.Short"
  | .int => "java.lang.Integer"
  | .long => "java.lang.Long"
  | .float => "java.lang.Float"
  | .double => "java.lang.Double"
  | .boolean => "java.lang.Boolean"
  | .string | .varchar => "java.lang.String"
  | .decimal => "java.math.BigDecimal"
  | .array => "[Ljava.lang.Object;"

theorem perform_operation (getter : Getter) (handle : Handle) (arguments : List Argument)
    (memory : Memory) :
    Memory.perform getter.operation handle arguments memory = .ofExcept memory
      (Memory.getWith getter.complaint getter.wanted getter.take handle arguments memory) := by
  cases getter <;> rfl

/-- The backend answers a getter for the values that it reads, and for null if it has an answer. -/
theorem extract_take (getter : Getter) (value : Value) :
    (getter.take value).map (getter.extract getter.operation.method) =
      (if value.isNull then getter.forNull? else getter.reads value).map .ok := by
  cases getter <;> cases value <;> rfl

end Getter

namespace Memory

variable {memory : Memory} {handle ordinal : Nat} {row : RowState} {operation : Operation}
  {value : Value} {α : Type}

/-! ### The field that is meant -/

/-- The column of a field of a row. A field without one counts as a text. -/
def columnAt (row : RowState) (ordinal : Nat) : Field :=
  (row.schema.field? ordinal).getD (.scalar "" .string)

/-- A number that fits is not taken for another one. -/
theorem toInt_ofNat_ordinal (h : ordinal ≤ Accessor.greatestOrdinal) :
    (Int32.ofNat ordinal).toInt = ordinal ∧ ¬ Int32.ofNat ordinal < 0 := by
  have hordinal : (Int32.ofNat ordinal).toInt = ordinal :=
    Int32.toInt_ofNat_of_lt (Nat.lt_succ_of_le h)
  have hzero : (0 : Int32).toInt = 0 := rfl
  refine ⟨hordinal, ?_⟩
  rw [Int32.lt_iff_toInt_lt, hordinal, hzero]
  omega

/-- The field that an ordinal means, if the row has one there. -/
theorem Holds.fieldOfRow_eq (h : memory.Holds handle (.row row))
    (hfits : ordinal ≤ Accessor.greatestOrdinal) (method : String) :
    memory.fieldOfRow handle [.int (Int32.ofNat ordinal)] method =
      match row.values[ordinal]? with
      | some value => .ok ⟨ordinal, columnAt row ordinal, value⟩
      | none => .error (.indexOutOfBounds ordinal row.values.length) := by
  obtain ⟨hordinal, hpositive⟩ := toInt_ofNat_ordinal hfits
  change (memory.row handle method >>= fun row ↦ _) = _
  rw [row_eq_ok_iff.mpr h.object]
  dsimp only [bind, Except.bind]
  rw [hordinal, Int.toNat_natCast]
  cases row.values[ordinal]? with
  | none => rfl
  | some value => exact if_neg hpositive

/-! ### Asking for a field -/

/-- What an accessor makes of a call that failed. -/
def failed (operation : Operation) (ordinal : Nat) (failure : CallError) : Failure :=
  .error (.ofCall (operation.method.name ++ "(" ++ toString ordinal ++ ")") (.field ordinal)
    failure)

/-- Asking for a field is one call. -/
theorem runs_callField {found : Except CallError Returned} (hrunning : memory.isShutDown = false)
    (hfits : ordinal ≤ Accessor.greatestOrdinal) (hkind : operation.method.kind = .onObject)
    (hperform : perform operation handle [.int (Int32.ofNat ordinal)]
      (memory.counting operation.method) = .ofExcept (memory.counting operation.method) found) :
    Client.Runs backend (Accessor.callField ⟨some handle⟩ operation ordinal) memory
      (found.mapError (failed operation ordinal)) (memory.counting operation.method) := by
  unfold Accessor.callField
  refine (Client.runs_pure handle).bind ?_
  rw [if_neg (Nat.not_lt.mpr hfits)]
  refine (runs_call_ofExcept hrunning hkind hperform).bind ?_
  cases found with
  | ok returned => exact Client.runs_pure returned
  | error failure => exact Client.runs_refuse _

/-- What the call returns is taken out, if it is what the method returns. -/
theorem runs_getField {found : Except CallError Returned} {result : Except CallError α}
    {extract : Method → Returned → Except CallError α} (hrunning : memory.isShutDown = false)
    (hfits : ordinal ≤ Accessor.greatestOrdinal) (hkind : operation.method.kind = .onObject)
    (hperform : perform operation handle [.int (Int32.ofNat ordinal)]
      (memory.counting operation.method) = .ofExcept (memory.counting operation.method) found)
    (hextract : found.map (extract operation.method) = result.map .ok) :
    Client.Runs backend (Accessor.getField ⟨some handle⟩ operation extract ordinal) memory
      (result.mapError (failed operation ordinal)) (memory.counting operation.method) := by
  have hcall := runs_callField hrunning hfits hkind hperform
  cases found with
  | error failure =>
    cases result with
    | ok a => cases hextract
    | error other =>
      cases hextract
      exact hcall.bind_error
  | ok returned =>
    cases result with
    | error failure => cases hextract
    | ok a =>
      refine hcall.bind ?_
      rw [Except.ok.inj hextract]
      exact Client.runs_pure a

/-- An ordinal that is no number of 32 bits is refused, and no backend is called. -/
theorem runs_getField_of_gt {σ : Type} {other : Backend σ} {state : σ}
    {extract : Method → Returned → Except CallError α} (h : Accessor.greatestOrdinal < ordinal) :
    Client.Runs other (Accessor.getField ⟨some handle⟩ operation extract ordinal) state
      (.error (.error (.index ordinal "ordinal does not fit a Java int"))) state := by
  have hrefused : Client.Runs other (Accessor.callField ⟨some handle⟩ operation ordinal) state
      (.error (.error (.index ordinal "ordinal does not fit a Java int"))) state := by
    unfold Accessor.callField
    refine (Client.runs_pure handle).bind ?_
    rw [if_pos h]
    exact Client.runs_refuse _
  exact hrefused.bind_error

/-- What is found at a field, as far as a getter is asked for it. -/
def found (getter : Getter) (row : RowState) (ordinal : Nat) : Except CallError getter.Result :=
  match row.values[ordinal]? with
  | none => .error (.indexOutOfBounds ordinal row.values.length)
  | some value =>
    match if value.isNull then getter.forNull? else getter.reads value with
    | some result => .ok result
    | none => .error (if value.isNull then .nullValue getter.complaint ordinal
        else .classCast (valueClass value) getter.wanted)

/-- A getter is one call, and the row that is held decides its answer. -/
theorem runs_ask (h : memory.Holds handle (.row row)) (hfits : ordinal ≤ Accessor.greatestOrdinal)
    (getter : Getter) :
    Client.Runs backend (getter.ask ⟨some handle⟩ ordinal) memory
      ((found getter row ordinal).mapError (failed getter.operation ordinal))
      (memory.counting getter.operation.method) := by
  have hkind : getter.operation.method.kind = .onObject := by cases getter <;> rfl
  have hcounted := h.counting getter.operation.method
  rw [getter.ask_eq_getField]
  refine runs_getField h.running hfits hkind
    (getter.perform_operation handle [.int (Int32.ofNat ordinal)] _) ?_
  unfold getWith found
  rw [hcounted.fieldOfRow_eq hfits]
  cases row.values[ordinal]? with
  | none => rfl
  | some value =>
    have hextract := getter.extract_take value
    dsimp only [bind, Except.bind]
    cases htake : getter.take value with
    | none =>
      rw [htake, Option.map_none, eq_comm, Option.map_eq_none_iff] at hextract
      dsimp only
      rw [hextract]
      cases value.isNull <;> rfl
    | some returned =>
      rw [htake, Option.map_some, eq_comm, Option.map_eq_some_iff] at hextract
      obtain ⟨result, hanswer, hresult⟩ := hextract
      dsimp only
      rw [hanswer, Except.map, ← hresult]
      rfl

/-- The type of a column is one call. -/
theorem runs_type (h : memory.Holds handle (.row row)) (hfits : ordinal ≤ Accessor.greatestOrdinal)
    (hvalue : row.values[ordinal]? = some value) :
    Client.Runs backend (Accessor.type ⟨some handle⟩ ordinal) memory
      (.ok (columnAt row ordinal).type) (memory.counting Operation.columnTypeName.method) := by
  let name := (columnAt row ordinal).type.name
  let result : Except CallError (Option String) := .ok (some name)
  have hname : Client.Runs backend
      (Accessor.getField ⟨some handle⟩ .columnTypeName Returned.toText ordinal) memory
      (result.mapError (failed .columnTypeName ordinal))
      (memory.counting Operation.columnTypeName.method) := by
    refine @runs_getField _ _ _ _ _ (.ok (.text (some name))) result _ h.running hfits rfl ?_ rfl
    change Reply.ofExcept _ ((Memory.fieldOfRow _ handle _ _).map _) = _
    rw [(h.counting _).fieldOfRow_eq hfits, hvalue]
    rfl
  have htold : Client.Runs backend (Accessor.typeName ⟨some handle⟩ ordinal) memory (.ok name)
      (memory.counting Operation.columnTypeName.method) := hname.bind (Client.runs_pure name)
  refine htold.bind ?_
  unfold Accessor.readType
  rw [DataType.read_name]
  exact Client.runs_pure _

/-! ### What getters answer -/

/-- What is found where the row has a value answers for the value. -/
theorem answers_found (getter : Getter) (hvalue : row.values[ordinal]? = some value) :
    getter.Answers ordinal value
      ((found getter row ordinal).mapError (failed getter.operation ordinal)) := by
  unfold found
  rw [hvalue]
  refine ⟨fun stored hstored ↦ ?_, fun hvalue hnone ↦ ?_, ?_⟩
  · have hnull : value.isNull = false := getter.isNull_of_reads hstored
    simp [hnull, hstored, Except.mapError]
  · have hnull : value.isNull = false := by
      cases value <;> first | rfl | exact absurd rfl hvalue
    simp only [hnull, hnone]
    exact ⟨_, rfl⟩
  · rintro rfl
    simp only [Value.isNull, if_true]
    cases getter.forNull? with
    | some answer => rfl
    | none => exact ⟨_, _, rfl⟩

/-- Whatever a row holds, a getter refuses the ordinals at which the row has no value, and only
these as such; the value decides its answer for every other ordinal. If the value has the type of
its column, the accessor names the type, and the getter that matches the type returns the value. -/
theorem getters_answer_exactly (h : memory.Holds handle (.row row))
    (hwidth : row.values.length < 2 ^ 31) (getter : Getter) (ordinal : Nat) :
    ∃ result : Except Failure getter.Result,
      Client.Runs backend (getter.ask ⟨some handle⟩ ordinal) memory result
        (if ordinal < 2 ^ 31 then memory.counting getter.operation.method else memory) ∧
      ((∃ reason, result = .error (.error (.index ordinal reason))) ↔
        row.values.length ≤ ordinal) ∧
      (2 ^ 31 ≤ ordinal → ∀ {σ : Type} (other : Backend σ),
        Client.Makes other (getter.ask ⟨some handle⟩ ordinal) []) ∧
      ∀ value, row.values[ordinal]? = some value → getter.Answers ordinal value result ∧
        (value.dataType? = some (columnAt row ordinal).type →
          let named := memory.counting Operation.columnTypeName.method
          let matching := Getter.ofType (columnAt row ordinal).type
          Client.Runs backend (Accessor.type ⟨some handle⟩ ordinal) memory
            (.ok (columnAt row ordinal).type) named ∧
          ∃ stored, matching.reads value = some stored ∧
            Client.Runs backend (matching.ask ⟨some handle⟩ ordinal) named (.ok stored)
              (named.counting matching.operation.method)) := by
  have hgreatest : Accessor.greatestOrdinal = 2 ^ 31 - 1 := rfl
  by_cases hlt : ordinal < 2 ^ 31
  · have hfits : ordinal ≤ Accessor.greatestOrdinal := by omega
    refine ⟨_, by rw [if_pos hlt]; exact runs_ask h hfits getter, ?_, by omega, ?_⟩
    · cases hvalue : row.values[ordinal]? with
      | none =>
        rw [found, hvalue]
        exact iff_of_true ⟨_, rfl⟩ (List.getElem?_eq_none_iff.mp hvalue)
      | some value =>
        obtain ⟨hinside, -⟩ := List.getElem?_eq_some_iff.mp hvalue
        refine iff_of_false ?_ (Nat.not_le.mpr hinside)
        rintro ⟨reason, hindex⟩
        exact (answers_found getter hvalue).ne_index hindex
    · intro value hvalue
      refine ⟨answers_found getter hvalue, fun htype ↦ ⟨runs_type h hfits hvalue, ?_⟩⟩
      obtain ⟨stored, hstored⟩ := Getter.exists_reads_ofType htype
      have hasked := runs_ask (h.counting Operation.columnTypeName.method) hfits
        (Getter.ofType (columnAt row ordinal).type)
      rw [(answers_found _ hvalue).reads stored hstored] at hasked
      exact ⟨stored, hstored, hasked⟩
  · have hgt : Accessor.greatestOrdinal < ordinal := by omega
    have hout : row.values.length ≤ ordinal := by omega
    refine ⟨.error (.error (.index ordinal "ordinal does not fit a Java int")), ?_,
      iff_of_true ⟨_, rfl⟩ hout, ?_, ?_⟩
    · rw [if_neg hlt, getter.ask_eq_getField]
      exact runs_getField_of_gt hgt
    · intro _ σ other state
      rw [getter.ask_eq_getField]
      exact (runs_getField_of_gt hgt).mono fun _ _ hended ↦ hended.2
    · intro value hvalue
      rw [List.getElem?_eq_none_iff.mpr hout] at hvalue
      cases hvalue

/-- A row with a number and a null, asked for the number, the null and something behind them. -/
theorem getters_answer_exactly_on_sample :
    let row : RowState := ⟨⟨[.scalar "a" .int, .scalar "b" .string]⟩, [.int 7, .null]⟩
    let memory : Memory := ⟨.empty, #[some (.row row)], false⟩
    memory.Holds 1 (.row row) ∧ row.values.length < 2 ^ 31 ∧
      (∃ after, Client.Runs backend (Getter.int.ask ⟨some 1⟩ 0) memory (.ok (7 : Int32)) after) ∧
      (∃ after, Client.Runs backend (Getter.string.ask ⟨some 1⟩ 1) memory (.ok none) after) ∧
      ∃ reason after, Client.Runs backend (Getter.array.ask ⟨some 1⟩ 2) memory
        (.error (.error (.index 2 reason))) after := by
  intro row memory
  have hholds : memory.Holds 1 (.row row) := ⟨rfl, rfl⟩
  have hwidth : row.values.length < 2 ^ 31 := by decide
  refine ⟨hholds, hwidth, ?_, ?_, ?_⟩
  · obtain ⟨result, hruns, -, -, hanswers⟩ := getters_answer_exactly hholds hwidth .int 0
    obtain rfl := (hanswers (.int 7) rfl).1.reads (7 : Int32) rfl
    exact ⟨_, hruns⟩
  · obtain ⟨result, hruns, -, -, hanswers⟩ := getters_answer_exactly hholds hwidth .string 1
    obtain rfl : result = .ok none := (hanswers .null rfl).1.null rfl
    exact ⟨_, hruns⟩
  · obtain ⟨result, hruns, hindex, -⟩ := getters_answer_exactly hholds hwidth .array 2
    obtain ⟨reason, rfl⟩ := hindex.mpr (Nat.le_refl 2)
    exact ⟨reason, _, hruns⟩

end Memory

end ColumnStore
