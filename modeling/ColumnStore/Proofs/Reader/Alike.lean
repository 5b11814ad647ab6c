import ColumnStore.Console.Question
import ColumnStore.Proofs.Reader.Fields

/-!
# Fields that answer alike

Two rows that are held, in one backend or in two, show the same column and the same value, perhaps
at different ordinals. Then an accessor of the one answers every question about the field as an
accessor of the other does, even if the value does not fit the column: both have the same answer or
both refuse. An error names the ordinal, so errors need not be equal; what matters is whether they
tell of a null, since `Accessor.value` turns these into values.
-/

set_option autoImplicit false

namespace ColumnStore

/-- Does the question look at one field only? -/
def Question.concernsField : Question → Bool
  | .length | .printedRow | .values => false
  | _ => true

/-- Two ends of questions: one answer, or two errors that both tell of a null or both do not. -/
inductive SameEnd {α : Type} : Except Failure α → Except Failure α → Prop
  | answered (a : α) : SameEnd (.ok a) (.ok a)
  | refused (first second : Error) (h : first.isNullPointer = second.isNullPointer) :
      SameEnd (.error (.error first)) (.error (.error second))

/-- Whether an error tells of a null depends on the failed call and not on the field. -/
theorem Error.isNullPointer_ofCall_field (activity other : String) (ordinal position : Nat)
    (error : CallError) :
    (Error.ofCall activity (.field ordinal) error).isNullPointer =
      (Error.ofCall other (.field position) error).isNullPointer := by
  cases error with
  | exception className reason =>
    unfold Error.ofCall Error.ofException
    dsimp only
    split
    · rfl
    · split
      · rfl
      · rfl
  | _ => rfl

namespace Memory

variable {α β : Type} {first second : Memory} {handle other ordinal position : Nat} {field : Field}
  {value : Value} {operation : Operation}

/-- Two actions that only look at their backends and have the same end, whatever has been counted in
the meantime. -/
def Alike (action : Client Memory α) (first : Memory) (twin : Client Memory α)
    (second : Memory) : Prop :=
  ∃ result twinResult, SameEnd result twinResult ∧
    (∀ later, first.Recounts later → Looks action later result) ∧
      ∀ later, second.Recounts later → Looks twin later twinResult

/-! ### Looking at two backends -/

theorem alike_pure (a : α) : Alike (pure a : Client Memory α) first (pure a) second :=
  ⟨_, _, .answered a, fun _ _ ↦ looks_pure a, fun _ _ ↦ looks_pure a⟩

theorem alike_refuse {error twin : Error} (h : error.isNullPointer = twin.isNullPointer) :
    Alike (Client.refuse error : Client Memory α) first (Client.refuse twin) second :=
  ⟨_, _, .refused error twin h, fun _ _ ↦ looks_refuse error, fun _ _ ↦ looks_refuse twin⟩

/-- Actions that go on alike after every answer are alike. -/
theorem Alike.bind {action twin : Client Memory α} {next twinNext : α → Client Memory β}
    (h : Alike action first twin second)
    (hnext : ∀ a, Alike (next a) first (twinNext a) second) :
    Alike (action >>= next) first (twin >>= twinNext) second := by
  obtain ⟨result, twinResult, hsame, haction, htwin⟩ := h
  cases hsame with
  | refused error twinError herror =>
    exact ⟨_, _, .refused error twinError herror,
      fun later hlater ↦ (haction later hlater).bind_error,
      fun later hlater ↦ (htwin later hlater).bind_error⟩
  | answered a =>
    obtain ⟨last, twinLast, hlast, hgoes, htwinGoes⟩ := hnext a
    refine ⟨last, twinLast, hlast, ?_, ?_⟩
    · intro later hlater
      exact (haction later hlater).bind fun after hafter ↦ hgoes after (hlater.trans hafter)
    · intro later hlater
      exact (htwin later hlater).bind fun after hafter ↦ htwinGoes after (hlater.trans hafter)

theorem Alike.map {action twin : Client Memory α} (f : α → β)
    (h : Alike action first twin second) :
    Alike (f <$> action) first (f <$> twin) second := by
  rw [map_eq_pure_bind, map_eq_pure_bind]
  exact h.bind fun a ↦ alike_pure (f a)

/-- Attempts are alike if what follows takes twin errors alike. -/
theorem Alike.attempt_bind {action twin : Client Memory α}
    {next twinNext : Except Error α → Client Memory β} (h : Alike action first twin second)
    (hok : ∀ a, Alike (next (.ok a)) first (twinNext (.ok a)) second)
    (herror : ∀ error twinError : Error, error.isNullPointer = twinError.isNullPointer →
      Alike (next (.error error)) first (twinNext (.error twinError)) second) :
    Alike (Client.attempt action >>= next) first (Client.attempt twin >>= twinNext) second := by
  obtain ⟨result, twinResult, hsame, haction, htwin⟩ := h
  cases hsame with
  | answered a =>
    obtain ⟨last, twinLast, hlast, hgoes, htwinGoes⟩ := hok a
    refine ⟨last, twinLast, hlast, ?_, ?_⟩
    · intro later hlater
      exact (haction later hlater).attempt.bind fun after hafter ↦ hgoes after (hlater.trans hafter)
    · intro later hlater
      exact (htwin later hlater).attempt.bind fun after hafter ↦
        htwinGoes after (hlater.trans hafter)
  | refused error twinError hnull =>
    obtain ⟨last, twinLast, hlast, hgoes, htwinGoes⟩ := herror error twinError hnull
    refine ⟨last, twinLast, hlast, ?_, ?_⟩
    · intro later hlater
      exact (haction later hlater).attempt_error.bind fun after hafter ↦
        hgoes after (hlater.trans hafter)
    · intro later hlater
      exact (htwin later hlater).attempt_error.bind fun after hafter ↦
        htwinGoes after (hlater.trans hafter)

theorem alike_mapM {use twinUse : α → Client Memory β} (items : List α)
    (h : ∀ item ∈ items, Alike (use item) first (twinUse item) second) :
    Alike (items.mapM use) first (items.mapM twinUse) second := by
  induction items with
  | nil => exact alike_pure []
  | cons item items ih =>
    obtain ⟨hitem, hitems⟩ := List.forall_mem_cons.mp h
    rw [List.mapM_cons, List.mapM_cons]
    exact hitem.bind fun result ↦ (ih hitems).bind fun results ↦ alike_pure (result :: results)

/-! ### Getters -/

/-- What a failed call on a field means to an accessor. -/
def Accessor.told (operation : Operation) (ordinal : Nat) (found : Except CallError Returned) :
    Except Failure Returned :=
  found.mapError fun error ↦ .error (.ofCall
    (operation.method.name ++ "(" ++ toString ordinal ++ ")") (.field ordinal) error)

/-- What is found at a field and what is found at its twin are told alike if they are the same. -/
theorem sameEnd_told_self (found : Except CallError Returned) :
    SameEnd (Accessor.told operation ordinal found) (Accessor.told operation position found) := by
  cases found with
  | ok returned => exact .answered returned
  | error error => exact .refused _ _ (Error.isNullPointer_ofCall_field _ _ _ _ _)

/-- Two fields, in two rows, that show the same column and the same value. -/
structure Twins (first : Memory) (handle ordinal : Nat) (second : Memory) (other position : Nat)
    (field : Field) (value : Value) : Prop where
  left : first.Shows handle ordinal field value
  right : second.Shows other position field value

/-- What the backend finds at a field, as far as the operation looks at the column and the value and
tells the ordinal in an error. -/
def Finds (operation : Operation) (field : Field) (value : Value)
    (found : Nat → Except CallError Returned) : Prop :=
  ∀ (memory : Memory) (handle ordinal : Nat), memory.Shows handle ordinal field value →
    perform operation handle [.int (Int32.ofNat ordinal)] memory = .ofExcept memory (found ordinal)

theorem Twins.alike_callField (h : Twins first handle ordinal second other position field value)
    {found : Nat → Except CallError Returned} (hkind : operation.method.kind = .onObject)
    (hfound : Finds operation field value found)
    (hsame : SameEnd (Accessor.told operation ordinal (found ordinal))
      (Accessor.told operation position (found position))) :
    Alike (Accessor.callField ⟨some handle⟩ operation ordinal) first
      (Accessor.callField ⟨some other⟩ operation position) second := by
  refine ⟨_, _, hsame, ?_, ?_⟩
  · intro later hlater
    exact looks_callField (hlater.shows h.left) hkind fun after hafter ↦ hfound after _ _ hafter
  · intro later hlater
    exact looks_callField (hlater.shows h.right) hkind fun after hafter ↦ hfound after _ _ hafter

/-- A result is taken out of what was returned in the same way for both. -/
theorem alike_expect (activity twinActivity : String) (taken : Except CallError α) :
    Alike (Client.expect activity (.field ordinal) taken) first
      (Client.expect twinActivity (.field position) taken) second := by
  cases taken with
  | ok a => exact alike_pure a
  | error error => exact alike_refuse (Error.isNullPointer_ofCall_field _ _ _ _ _)

theorem Twins.alike_getField (h : Twins first handle ordinal second other position field value)
    {found : Nat → Except CallError Returned} {take : Method → Returned → Except CallError α}
    (hkind : operation.method.kind = .onObject) (hfound : Finds operation field value found)
    (hsame : SameEnd (Accessor.told operation ordinal (found ordinal))
      (Accessor.told operation position (found position))) :
    Alike (Accessor.getField ⟨some handle⟩ operation take ordinal) first
      (Accessor.getField ⟨some other⟩ operation take position) second :=
  (h.alike_callField hkind hfound hsame).bind fun _ ↦ alike_expect _ _ _

/-- What a typed getter finds. -/
def foundWith (method wanted : String) (take : Value → Option Returned) (value : Value)
    (ordinal : Nat) : Except CallError Returned :=
  match take value with
  | some returned => .ok returned
  | none =>
    if value.isNull then .error (.nullValue method ordinal)
    else .error (.classCast (valueClass value) wanted)

/-- A typed getter answers twins alike. -/
theorem Twins.alike_get (h : Twins first handle ordinal second other position field value)
    {method wanted : String} {read : Value → Option Returned}
    {take : Method → Returned → Except CallError α} (hkind : operation.method.kind = .onObject)
    (hget : ∀ handle arguments memory, perform operation handle arguments memory =
      .ofExcept memory (getWith method wanted read handle arguments memory)) :
    Alike (Accessor.getField ⟨some handle⟩ operation take ordinal) first
      (Accessor.getField ⟨some other⟩ operation take position) second := by
  have hfound : Finds operation field value (foundWith method wanted read value) := by
    intro memory handle ordinal hshows
    rw [hget, hshows.getWith_eq]
    rfl
  apply h.alike_getField hkind hfound
  unfold foundWith
  cases read value with
  | some returned => exact sameEnd_told_self (.ok returned)
  | none =>
    by_cases hnull : value.isNull
    · rw [if_pos hnull, if_pos hnull]
      -- the reasons name the ordinals, the exceptions are the same
      exact .refused _ _ rfl
    · rw [if_neg hnull, if_neg hnull]
      exact sameEnd_told_self _

/-! ### Types and values -/

variable (h : Twins first handle ordinal second other position field value)
include h

theorem Twins.alike_typeName : Alike (Accessor.typeName ⟨some handle⟩ ordinal) first
    (Accessor.typeName ⟨some other⟩ position) second := by
  have hfound : Finds .columnTypeName field value fun _ ↦ .ok (.text (some field.type.name)) := by
    intro memory handle ordinal hshows
    show Reply.ofExcept memory ((memory.fieldOfRow handle _ _).map _) = _
    rw [hshows.fieldOfRow_eq]
    rfl
  refine (h.alike_getField rfl hfound (sameEnd_told_self _)).bind fun name ↦ ?_
  cases name with
  | some name => exact alike_pure name
  | none => exact alike_refuse rfl

theorem Twins.alike_elementTypeName : Alike (Accessor.elementTypeName ⟨some handle⟩ ordinal) first
    (Accessor.elementTypeName ⟨some other⟩ position) second := by
  have hfound : Finds .elementTypeName field value fun _ ↦
      if field.type = .array then .ok (.text (some (field.element.getD .string).name))
      else .error .notAnArray := by
    intro memory handle ordinal hshows
    show Reply.ofExcept memory (memory.fieldOfRow handle _ _ >>= fun field ↦ _) = _
    rw [hshows.fieldOfRow_eq]
    rfl
  refine (h.alike_getField rfl hfound (sameEnd_told_self _)).bind fun name ↦ ?_
  cases name with
  | some name => exact alike_pure name
  | none => exact alike_refuse rfl

omit h in
theorem alike_readType (name : String) :
    Alike (Accessor.readType name) first (Accessor.readType name) second := by
  unfold Accessor.readType
  cases DataType.read name with
  | ok type => exact alike_pure type
  | error error => exact alike_refuse rfl

theorem Twins.alike_type : Alike (Accessor.type ⟨some handle⟩ ordinal) first
    (Accessor.type ⟨some other⟩ position) second :=
  h.alike_typeName.bind alike_readType

theorem Twins.alike_elementType : Alike (Accessor.elementType ⟨some handle⟩ ordinal) first
    (Accessor.elementType ⟨some other⟩ position) second :=
  h.alike_elementTypeName.bind alike_readType

theorem Twins.alike_arrayValue : Alike (Accessor.arrayValue ⟨some handle⟩ ordinal) first
    (Accessor.arrayValue ⟨some other⟩ position) second := by
  refine h.alike_elementType.bind fun element ↦ ?_
  have harray : Alike (Accessor.array ⟨some handle⟩ ordinal) first
      (Accessor.array ⟨some other⟩ position) second := h.alike_get rfl fun _ _ _ ↦ rfl
  refine harray.bind fun items ↦ ?_
  refine (alike_mapM items fun item _ ↦ ?_).bind fun values ↦ alike_pure (Value.array values)
  unfold Accessor.readItem
  cases item with
  | none => exact alike_pure Value.null
  | some text =>
    dsimp only
    cases Value.read text element none with
    | ok value => exact alike_pure value
    | error error => exact alike_refuse rfl

theorem Twins.alike_valueOf (type : DataType) :
    Alike (Accessor.valueOf ⟨some handle⟩ ordinal type) first
      (Accessor.valueOf ⟨some other⟩ position type) second := by
  cases type with
  | array => exact h.alike_arrayValue
  | _ => exact Alike.map _ (h.alike_get rfl fun _ _ _ ↦ rfl)

theorem Twins.alike_value : Alike (Accessor.value ⟨some handle⟩ ordinal) first
    (Accessor.value ⟨some other⟩ position) second := by
  refine h.alike_type.bind fun type ↦ ?_
  refine (h.alike_valueOf type).attempt_bind alike_pure fun error twin herror ↦ ?_
  dsimp only
  rw [← herror]
  by_cases hnull : error.isNullPointer
  · rw [if_pos hnull, if_pos hnull]
    exact alike_pure Value.null
  · rw [if_neg hnull, if_neg hnull]
    exact alike_refuse herror

/-- Every question about a field is answered alike for twins. -/
theorem Twins.alike_ask {question : Question} (hquestion : question.concernsField) :
    Alike (question.ask ⟨some handle⟩ ordinal) first (question.ask ⟨some other⟩ position)
      second := by
  cases question with
  | length | printedRow | values => cases hquestion
  | typeName => exact h.alike_typeName.map _
  | type => exact h.alike_type.map _
  | elementTypeName => exact h.alike_elementTypeName.map _
  | elementType => exact h.alike_elementType.map _
  | value => exact h.alike_value.map _
  | printed => exact (h.alike_value.map Value.printed).map _
  | _ => exact Alike.map _ (h.alike_get rfl fun _ _ _ ↦ rfl)

end Memory

end ColumnStore
