import ColumnStore.Proofs.Memory.Call
import Mathlib.Algebra.Order.Group.Multiset
import Mathlib.Tactic.Abel

/-!
# Handles that are given and kept

A client works with handles that it owns. What it does with them is an `Exchange`: it gives some
handles and keeps some, and every handle that it keeps was given or is new. Nothing else is touched,
so an exchange goes on unchanged beside handles that others own, and exchanges follow one another. A
row that lies behind a handle never changes, it can only be given up.
-/

set_option autoImplicit false

namespace ColumnStore

/-- Is the object a row? -/
def ManagedObject.isRow : ManagedObject → Bool
  | .row _ => true
  | _ => false

/-- A handle, and whether a row lies behind it. -/
structure Holding where
  handle : Handle
  isRow : Bool
  deriving DecidableEq

/-- Operations that hand out rows. -/
def Operation.handsOutRows : Operation → Bool
  | .readRow | .readRows => true
  | _ => false

/-- Operations that only look at their target, or at the files of a table. -/
def Operation.looks : Operation → Bool
  | .hasNextRow | .rowLength | .columnTypeName | .elementTypeName | .getShort | .getInt | .getLong
  | .getDouble | .getFloat | .getBoolean | .getString | .getDecimal | .getVarchar | .getArray
  | .versionDetails | .fieldName | .typeName | .getEntry => true
  | _ => false

/-- The new handles in a result. A step of a builder returns no new one, but the builder. -/
def Operation.issued (operation : Operation) : Outcome Returned → Multiset Holding
  | .returned returned =>
    if operation.settles then 0
    else (returned.handles.map fun handle ↦ ⟨handle, operation.handsOutRows⟩ : List Holding)
  | _ => 0

namespace Memory

variable {memory before middle after : Memory} {given traded kept rest : Multiset Holding}
  {holding other : Holding} {handle : Handle} {object : ManagedObject}

/-- An object of the kind that the holding says lies behind its handle. -/
def Has (memory : Memory) (holding : Holding) : Prop :=
  ∃ object, memory.object? holding.handle = some object ∧ object.isRow = holding.isRow

/-- Handles that someone who gives `given` may keep: his own and new ones. -/
def Reaches (memory : Memory) (given : Multiset Holding) (handle : Handle) : Prop :=
  memory.nextHandle ≤ handle ∨ ∃ holding ∈ given, holding.handle = handle

/-- All these handles are in use, none twice, and the backend is running. -/
structure Owns (memory : Memory) (held : Multiset Holding) : Prop where
  running : memory.isShutDown = false
  nodup : held.Nodup
  has : ∀ holding ∈ held, memory.Has holding

/-- From `before` to `after` someone has given `given` and kept `kept`. -/
structure Exchange (given kept : Multiset Holding) (before after : Memory) : Prop where
  running : after.isShutDown = before.isShutDown
  grows : before.nextHandle ≤ after.nextHandle
  others : ∀ handle, ¬ before.Reaches given handle → after.object? handle = before.object? handle
  rows : ∀ handle row, before.object? handle = some (.row row) →
    after.object? handle = some (.row row) ∨ after.object? handle = none
  has : ∀ holding, before.Reaches given holding.handle → (after.Has holding ↔ holding ∈ kept)
  reaches : ∀ holding ∈ kept, before.Reaches given holding.handle
  nodup : kept.Nodup

/-! ### Holdings -/

theorem Has.lt_nextHandle (h : memory.Has holding) : holding.handle < memory.nextHandle := by
  obtain ⟨object, hobject, -⟩ := h
  exact lt_nextHandle_of_object? hobject

/-- Behind a handle lies one object. -/
theorem Has.eq_of_handle (h : memory.Has holding) (hother : memory.Has other)
    (hhandle : holding.handle = other.handle) : holding = other := by
  obtain ⟨object, hobject, hrow⟩ := h
  obtain ⟨found, hfound, hkind⟩ := hother
  rw [hhandle, hfound] at hobject
  obtain rfl := Option.some.inj hobject
  obtain ⟨handle, isRow⟩ := holding
  obtain ⟨otherHandle, otherIsRow⟩ := other
  simp_all

theorem has_congr (h : after.object? holding.handle = before.object? holding.handle) :
    after.Has holding ↔ before.Has holding := by
  unfold Has
  rw [h]

theorem Owns.has_iff (h : memory.Owns given) (hreaches : memory.Reaches given holding.handle) :
    memory.Has holding ↔ holding ∈ given := by
  constructor
  · intro hhas
    rcases hreaches with hnew | ⟨other, hother, hhandle⟩
    · exact absurd hhas.lt_nextHandle (Nat.not_lt.mpr hnew)
    · exact (h.has other hother).eq_of_handle hhas hhandle ▸ hother
  · exact h.has holding

theorem Owns.left (h : memory.Owns (given + rest)) : memory.Owns given :=
  ⟨h.running, (Multiset.nodup_add.mp h.nodup).1,
    fun holding hgiven ↦ h.has holding (Multiset.mem_add.mpr (.inl hgiven))⟩

/-- The handles of others are out of reach. -/
theorem Owns.not_reaches (h : memory.Owns (given + rest)) (hrest : holding ∈ rest) :
    ¬ memory.Reaches given holding.handle := by
  have hhas := h.has holding (Multiset.mem_add.mpr (.inr hrest))
  rintro (hnew | ⟨other, hother, hhandle⟩)
  · exact absurd hhas.lt_nextHandle (Nat.not_lt.mpr hnew)
  · have hgiven := h.has other (Multiset.mem_add.mpr (.inl hother))
    obtain rfl := hgiven.eq_of_handle hhas hhandle
    exact Multiset.disjoint_left.mp (Multiset.nodup_add.mp h.nodup).2.2 hother hrest

/-! ### Exchanges -/

theorem Exchange.owns (h : Exchange given kept before after) (howns : before.Owns given) :
    after.Owns kept :=
  ⟨h.running.trans howns.running, h.nodup,
    fun holding hkept ↦ (h.has holding (h.reaches holding hkept)).mpr hkept⟩

/-- Something that touches no object. -/
theorem Exchange.of_object? (howns : before.Owns given)
    (hrunning : after.isShutDown = before.isShutDown)
    (hnext : after.nextHandle = before.nextHandle) (hobject : after.object? = before.object?) :
    Exchange given given before after where
  running := hrunning
  grows := Nat.le_of_eq hnext.symm
  others handle _ := congrFun hobject handle
  rows handle row hrow := .inl (by rw [hobject, hrow])
  has holding hreaches :=
    (has_congr (congrFun hobject holding.handle)).trans (howns.has_iff hreaches)
  reaches holding hgiven := .inr ⟨holding, hgiven, rfl⟩
  nodup := howns.nodup

theorem Exchange.refl (howns : memory.Owns given) : Exchange given given memory memory :=
  .of_object? howns rfl rfl rfl

/-- What can be reached later could be reached before. -/
theorem Exchange.reaches_of_reaches (h : Exchange given traded before middle)
    (hreaches : middle.Reaches traded handle) : before.Reaches given handle := by
  rcases hreaches with hnew | ⟨holding, htraded, rfl⟩
  · exact .inl (Nat.le_trans h.grows hnew)
  · exact h.reaches holding htraded

theorem Exchange.trans (hfirst : Exchange given traded before middle)
    (hlast : Exchange traded kept middle after) : Exchange given kept before after where
  running := hlast.running.trans hfirst.running
  grows := Nat.le_trans hfirst.grows hlast.grows
  others handle hreaches :=
    (hlast.others handle fun hlater ↦ hreaches (hfirst.reaches_of_reaches hlater)).trans
      (hfirst.others handle hreaches)
  rows handle row hrow := by
    by_cases hreaches : middle.Reaches traded handle
    · rcases hfirst.rows handle row hrow with hsame | hnone
      · exact hlast.rows handle row hsame
      -- A handle that has been given up is not in use again.
      · right
        have hlt : handle < middle.nextHandle :=
          Nat.lt_of_lt_of_le (lt_nextHandle_of_object? hrow) hfirst.grows
        obtain ⟨holding, htraded, rfl⟩ := hreaches.resolve_left (Nat.not_le.mpr hlt)
        have hhas := (hfirst.has holding (hfirst.reaches holding htraded)).mpr htraded
        obtain ⟨object, hobject, -⟩ := hhas
        rw [hnone] at hobject
        cases hobject
    · rw [hlast.others handle hreaches]
      exact hfirst.rows handle row hrow
  has holding hreaches := by
    by_cases hlater : middle.Reaches traded holding.handle
    · exact hlast.has holding hlater
    · rw [has_congr (hlast.others holding.handle hlater), hfirst.has holding hreaches]
      constructor
      · exact fun htraded ↦ absurd (.inr ⟨holding, htraded, rfl⟩) hlater
      · exact fun hkept ↦ absurd (hlast.reaches holding hkept) hlater
  reaches holding hkept := hfirst.reaches_of_reaches (hlast.reaches holding hkept)
  nodup := hlast.nodup

/-- An exchange goes on unchanged beside handles that others own. -/
theorem Exchange.frame (h : Exchange given kept before after)
    (howns : before.Owns (given + rest)) : Exchange (given + rest) (kept + rest) before after where
  running := h.running
  grows := h.grows
  others handle hreaches := by
    refine h.others handle fun hgiven ↦ hreaches (hgiven.imp_right ?_)
    rintro ⟨holding, hmem, hhandle⟩
    exact ⟨holding, Multiset.mem_add.mpr (.inl hmem), hhandle⟩
  rows := h.rows
  has holding hreaches := by
    rw [Multiset.mem_add]
    by_cases hgiven : before.Reaches given holding.handle
    · have hrest : holding ∉ rest := fun hrest ↦ howns.not_reaches hrest hgiven
      rw [h.has holding hgiven, or_iff_left hrest]
    · have hkept : holding ∉ kept := fun hkept ↦ hgiven (h.reaches holding hkept)
      have hmem : holding ∉ given := fun hmem ↦ hgiven (.inr ⟨holding, hmem, rfl⟩)
      rw [has_congr (h.others holding.handle hgiven), howns.has_iff hreaches, Multiset.mem_add,
        or_iff_right hmem, or_iff_right hkept]
  reaches holding hmem := by
    rcases Multiset.mem_add.mp hmem with hkept | hrest
    · refine (h.reaches holding hkept).imp_right ?_
      rintro ⟨other, hother, hhandle⟩
      exact ⟨other, Multiset.mem_add.mpr (.inl hother), hhandle⟩
    · exact .inr ⟨holding, Multiset.mem_add.mpr (.inr hrest), rfl⟩
  nodup := by
    refine Multiset.nodup_add.mpr ⟨h.nodup, (Multiset.nodup_add.mp howns.nodup).2.1, ?_⟩
    exact Multiset.disjoint_left.mpr fun hkept hrest ↦
      howns.not_reaches hrest (h.reaches _ hkept)

/-! ### Single changes -/

/-- An object that takes the place of another one. -/
theorem exchange_put (howns : memory.Owns {⟨handle, false⟩}) (hrow : object.isRow = false) :
    Exchange {⟨handle, false⟩} {⟨handle, false⟩} memory (memory.put handle object) := by
  obtain ⟨old, hold, holdrow⟩ := howns.has _ (Multiset.mem_singleton_self _)
  have hzero := ne_zero_of_object? hold
  have hself : (memory.put handle object).object? handle = some object :=
    object?_put_self (by simp [hold]) object
  refine ⟨rfl, Nat.le_of_eq (nextHandle_put memory handle object).symm, ?_, ?_, ?_, ?_,
    howns.nodup⟩
  · intro other hreaches
    refine object?_put_of_ne hzero (fun hne ↦ hreaches (.inr ?_)) object
    exact ⟨_, Multiset.mem_singleton_self _, hne.symm⟩
  · intro other row hother
    by_cases hne : other = handle
    · subst hne
      rw [hold] at hother
      obtain rfl := Option.some.inj hother
      cases holdrow
    · rw [object?_put_of_ne hzero hne]
      exact .inl hother
  · rintro holding hreaches
    by_cases hne : holding.handle = handle
    · have hhas : (memory.put handle object).Has ⟨handle, false⟩ := ⟨object, hself, hrow⟩
      rw [Multiset.mem_singleton]
      exact ⟨fun hother ↦ hother.eq_of_handle hhas hne, fun heq ↦ heq ▸ hhas⟩
    · rw [has_congr (object?_put_of_ne hzero hne object)]
      exact howns.has_iff hreaches
  · exact fun holding hmem ↦ .inr ⟨holding, hmem, rfl⟩

/-- An object among those that someone owns takes the place of another one. -/
theorem exchange_put_of_mem (howns : memory.Owns given) (hmem : ⟨handle, false⟩ ∈ given)
    (hrow : object.isRow = false) : Exchange given given memory (memory.put handle object) := by
  obtain ⟨rest, rfl⟩ := Multiset.exists_cons_of_mem hmem
  rw [← Multiset.singleton_add] at howns ⊢
  exact (exchange_put howns.left hrow).frame howns

/-- A new object. -/
theorem exchange_pin (memory : Memory) (object : ManagedObject) :
    Exchange 0 {⟨memory.nextHandle, object.isRow⟩} memory (memory.pin object) := by
  have hnew : (memory.pin object).Has ⟨memory.nextHandle, object.isRow⟩ :=
    ⟨object, object?_pin_new memory object, rfl⟩
  have hreaches : ∀ {handle}, memory.Reaches 0 handle ↔ memory.nextHandle ≤ handle := by
    simp [Reaches]
  refine ⟨rfl, by simp, ?_, ?_, ?_, ?_, Multiset.nodup_singleton _⟩
  · intro handle hhandle
    rw [hreaches, Nat.not_le] at hhandle
    exact object?_pin_of_lt hhandle object
  · intro handle row hrow
    exact .inl ((object?_pin_of_lt (lt_nextHandle_of_object? hrow) object).trans hrow)
  · intro holding hhandle
    rw [hreaches] at hhandle
    rw [Multiset.mem_singleton]
    refine ⟨fun hhas ↦ hhas.eq_of_handle hnew ?_, fun heq ↦ heq ▸ hnew⟩
    have hlt := hhas.lt_nextHandle
    rw [nextHandle_pin] at hlt
    exact Nat.le_antisymm (Nat.le_of_lt_succ hlt) hhandle
  · intro holding hmem
    rw [Multiset.mem_singleton.mp hmem, hreaches]

/-- An object that is given up. -/
theorem exchange_vacate (howns : memory.Owns {holding}) :
    Exchange {holding} 0 memory (memory.vacate holding.handle) := by
  obtain ⟨object, hobject, -⟩ := howns.has _ (Multiset.mem_singleton_self _)
  have hzero := ne_zero_of_object? hobject
  have hself := object?_vacate_self memory holding.handle
  have hothers : ∀ handle, handle ≠ holding.handle →
      (memory.vacate holding.handle).object? handle = memory.object? handle :=
    fun handle hne ↦ object?_vacate_of_ne hzero hne
  refine ⟨rfl, Nat.le_of_eq (nextHandle_vacate memory _).symm, ?_, ?_, ?_, by simp,
    Multiset.nodup_zero⟩
  · intro handle hreaches
    refine hothers handle fun hne ↦ hreaches (.inr ?_)
    exact ⟨holding, Multiset.mem_singleton_self _, hne.symm⟩
  · intro handle row hrow
    by_cases hne : handle = holding.handle
    · exact .inr (hne ▸ hself)
    · exact .inl ((hothers handle hne).trans hrow)
  · intro other hreaches
    refine iff_of_false ?_ (Multiset.notMem_zero other)
    by_cases hne : other.handle = holding.handle
    · rintro ⟨found, hfound, -⟩
      rw [hne, hself] at hfound
      cases hfound
    · rw [has_congr (hothers other.handle hne), howns.has_iff hreaches, Multiset.mem_singleton]
      exact fun heq ↦ hne (congrArg Holding.handle heq)

/-- Something that touches no object, and then a new object. -/
theorem Exchange.pin (h : Exchange given kept before after) (howns : before.Owns given)
    (object : ManagedObject) :
    Exchange given (kept + {⟨after.nextHandle, object.isRow⟩}) before (after.pin object) := by
  have hkept : after.Owns (0 + kept) := by
    rw [zero_add]
    exact h.owns howns
  have hpin := (exchange_pin after object).frame hkept
  rw [zero_add, add_comm] at hpin
  exact h.trans hpin

/-- Something that touches no object, and then new objects. -/
theorem Exchange.pinAll (h : Exchange given kept before after) (howns : before.Owns given)
    {objects : List ManagedObject} {isRow : Bool}
    (hrow : ∀ object ∈ objects, object.isRow = isRow) :
    Exchange given
      (kept + ((List.range' after.nextHandle objects.length).map (Holding.mk · isRow) :
        List Holding)) before (after.pinAll objects) := by
  induction objects generalizing after kept with
  | nil =>
    rw [List.length_nil, List.range'_zero, List.map_nil, Multiset.coe_nil, add_zero]
    exact h
  | cons object rest ih =>
    obtain ⟨hfirst, hrest⟩ := List.forall_mem_cons.mp hrow
    have hpin := ih (h.pin howns object) hrest
    rw [nextHandle_pin, hfirst, add_assoc, Multiset.singleton_add] at hpin
    rw [List.length_cons, List.range'_succ, List.map_cons, ← Multiset.cons_coe]
    exact hpin

/-! ### Operations -/

variable {operation : Operation} {outcome : Outcome Returned}

theorem isRow_of_holdsRows (h : object.holdsRows = false) : object.isRow = false := by
  cases object <;> first | rfl | cases h

theorem issued_object (hsettles : operation.settles = false) {isRow : Bool}
    (hrow : operation.handsOutRows = isRow) (handle : Handle) :
    operation.issued (.returned (.object (some handle))) = {⟨handle, isRow⟩} := by
  simp [Operation.issued, hsettles, hrow, Returned.handles]

theorem issued_objects (hsettles : operation.settles = false) {isRow : Bool}
    (hrow : operation.handsOutRows = isRow) (handles : List Handle) :
    operation.issued (.returned (.objects handles)) =
      (handles.map (Holding.mk · isRow) : List Holding) := by
  simp [Operation.issued, hsettles, hrow, Returned.handles]

/-- Operations that need no target make no rows and are no steps of a builder. -/
theorem settles_of_kind_ne (h : operation.method.kind ≠ .onObject) :
    operation.settles = false ∧ operation.handsOutRows = false := by
  cases operation <;> first | exact ⟨rfl, rfl⟩ | exact absurd rfl h

/-- An operation keeps what it is given and the new handles in its result. -/
theorem Effect.exchange (h : Effect operation handle before outcome after)
    (howns : before.Owns given) (htarget : handle ≠ 0 → ⟨handle, false⟩ ∈ given) :
    Exchange given (given + operation.issued outcome) before after := by
  have hput : ∀ {old : ManagedObject} (new : ManagedObject), before.object? handle = some old →
      new.isRow = false → Exchange given given before (before.put handle new) :=
    fun new hold hrow ↦ exchange_put_of_mem howns (htarget (ne_zero_of_object? hold)) hrow
  have hstore : ∀ store, Exchange given given before { before with store := store } :=
    fun store ↦ .of_object? howns rfl rfl rfl
  have hsame := Exchange.refl howns
  cases h with
  | refused => exact (add_zero given).symm ▸ hsame
  | answered returned hnone =>
    have hissued : operation.issued (.returned returned) = 0 := by
      simp [Operation.issued, hnone]
    rw [hissued, add_zero]
    exact hsame
  | made object hkind hrows =>
    obtain ⟨hsettles, hout⟩ := settles_of_kind_ne hkind
    rw [issued_object hsettles (hout.trans (isRow_of_holdsRows hrows).symm)]
    exact hsame.pin howns object
  | described target object _ _ hrows hoperation =>
    have hissued : operation.settles = false ∧ operation.handsOutRows = object.isRow := by
      rw [isRow_of_holdsRows hrows]
      rcases hoperation with rfl | rfl <;> exact ⟨rfl, rfl⟩
    rw [issued_object hissued.1 hissued.2]
    exact hsame.pin howns object
  | describedAll target objects _ _ hrows hoperation =>
    subst hoperation
    rw [issued_objects rfl rfl]
    exact hsame.pinAll howns fun object hobject ↦ isRow_of_holdsRows (hrows object hobject)
  | settled old new hold _ hrows result _ hsettles =>
    have hissued : operation.issued (.returned result) = 0 := if_pos hsettles
    rw [hissued, add_zero]
    exact hput new hold (isRow_of_holdsRows hrows.2)
  | unbuilt | broken => exact (add_zero given).symm ▸ hstore _
  | opened plan _ schema rows hoperation =>
    subst hoperation
    rw [issued_object rfl rfl]
    exact (hstore (before.store.receive plan.path plan.options.entries)).pin howns
      (.reader ⟨schema, rows, false⟩)
  | tookRow reader hreader _ row rest _ hoperation =>
    subst hoperation
    have hleft := hput (.reader { reader with remaining := rest }) hreader rfl
    have hnext := hleft.pin howns (.row ⟨reader.schema, row⟩)
    rw [nextHandle_put] at hnext
    rw [issued_object rfl rfl]
    exact hnext
  | tookRows reader hreader _ count hoperation =>
    subst hoperation
    have hleft := hput (.reader { reader with remaining := reader.remaining.drop count }) hreader
      rfl
    have hrow : ∀ object ∈ (reader.remaining.take count).map fun row ↦
        ManagedObject.row ⟨reader.schema, row⟩, object.isRow = true := by
      intro object hobject
      obtain ⟨row, -, rfl⟩ := List.mem_map.mp hobject
      rfl
    have hall := hleft.pinAll howns hrow
    rw [nextHandle_put, List.length_map] at hall
    rw [issued_objects rfl rfl]
    exact hall
  | closedReader hoperation reader hreader =>
    subst hoperation
    exact (add_zero given).symm ▸ hput _ hreader rfl
  | began plan _ writer _ hoperation =>
    subst hoperation
    rw [issued_object rfl rfl]
    exact (hstore (before.store.receive writer.path plan.options.entries)).pin howns
      (.writer writer)
  | wrote writer hwriter _ record row _ hoperation =>
    subst hoperation
    exact (add_zero given).symm ▸ hput _ hwriter rfl
  | closedEmpty writer hwriter _ _ hoperation =>
    subst hoperation
    exact (add_zero given).symm ▸ hput _ hwriter rfl
  | committed writer hwriter _ _ hoperation =>
    subst hoperation
    have hclosed := hput (.writer { writer with newestFirst := [], closed := true }) hwriter rfl
    exact (add_zero given).symm ▸
      hclosed.trans (.of_object? (hclosed.owns howns) rfl rfl rfl)

/-- A step of a builder returns no handle but that of the builder. -/
theorem Effect.eq_of_settles {returned : Returned} {other : Handle}
    (h : Effect operation handle before (.returned returned) after)
    (hsettles : operation.settles = true) (hother : other ∈ returned.handles) : other = handle := by
  cases h with
  | answered returned hnone => simp [hnone] at hother
  | settled old new hold _ _ result hresult =>
    rcases hresult with rfl | rfl
    · exact List.mem_singleton.mp hother
    · exact absurd hother List.not_mem_nil
  | made object hkind =>
    rw [(settles_of_kind_ne hkind).1] at hsettles
    cases hsettles
  | described target object _ _ _ hoperation =>
    rcases hoperation with rfl | rfl <;> cases hsettles
  | describedAll _ _ _ _ _ hoperation | opened _ _ _ _ hoperation | tookRow _ _ _ _ _ _ hoperation
  | tookRows _ _ _ _ hoperation | closedReader hoperation | began _ _ _ _ hoperation
  | wrote _ _ _ _ _ _ hoperation | closedEmpty _ _ _ _ hoperation
  | committed _ _ _ _ hoperation =>
    subst hoperation
    cases hsettles

/-- Any other operation returns handles only as its method says. -/
theorem Effect.handles_cases {returned : Returned}
    (h : Effect operation handle before (.returned returned) after)
    (hsettles : operation.settles = false) :
    returned.handles = [] ∨
      operation.method.returns = .object ∧ (∃ other, returned = .object (some other)) ∨
        operation.method.returns = .objects ∧ ∃ others, returned = .objects others := by
  cases h with
  | answered returned hnone => exact .inl hnone
  | made object hkind hrows hreturns => exact .inr (.inl ⟨hreturns, _, rfl⟩)
  | described target object _ _ _ hoperation =>
    rcases hoperation with rfl | rfl <;> exact .inr (.inl ⟨rfl, _, rfl⟩)
  | opened _ _ _ _ hoperation | tookRow _ _ _ _ _ _ hoperation | began _ _ _ _ hoperation =>
    subst hoperation
    exact .inr (.inl ⟨rfl, _, rfl⟩)
  | describedAll _ _ _ _ _ hoperation | tookRows _ _ _ _ hoperation =>
    subst hoperation
    exact .inr (.inr ⟨rfl, _, rfl⟩)
  | settled old new hold _ _ result hresult hsettled =>
    rw [hsettled] at hsettles
    cases hsettles
  | closedReader | wrote | closedEmpty | committed => exact .inl rfl

/-- Only building a reader can break off. -/
theorem Effect.eq_buildReader_of_crashed (h : Effect operation handle before .crashed after) :
    operation = .buildReader := by
  cases h with
  | broken _ _ hoperation => exact hoperation

/-- An operation that looks is no step of a builder and returns no object. -/
theorem settles_of_looks (h : operation.looks = true) :
    operation.settles = false ∧ operation.method.returns ≠ .object := by
  cases operation <;> first | exact ⟨rfl, by decide⟩ | cases h

/-- An operation that looks at an object changes nothing, whatever its target is. -/
theorem Effect.eq_of_looks (h : Effect operation handle before outcome after)
    (hlooks : operation.looks = true) : after = before ∧ operation.issued outcome = 0 := by
  cases h with
  | refused => exact ⟨rfl, rfl⟩
  | answered returned hnone => exact ⟨rfl, by simp [Operation.issued, hnone]⟩
  | made object _ _ hreturns => exact absurd hreturns (settles_of_looks hlooks).2
  | described target object _ _ _ hoperation =>
    rcases hoperation with rfl | rfl <;> cases hlooks
  | settled _ _ _ _ _ _ _ hsettles =>
    rw [(settles_of_looks hlooks).1] at hsettles
    cases hsettles
  | describedAll _ _ _ _ _ hoperation | opened _ _ _ _ hoperation | tookRow _ _ _ _ _ _ hoperation
  | unbuilt _ _ _ hoperation | broken _ _ hoperation
  | tookRows _ _ _ _ hoperation | closedReader hoperation | began _ _ _ _ hoperation
  | wrote _ _ _ _ _ _ hoperation | closedEmpty _ _ _ _ hoperation
  | committed _ _ _ _ hoperation =>
    subst hoperation
    cases hlooks

/-! ### All objects -/

/-- Someone owns all objects there are. -/
structure OwnsAll (memory : Memory) (held : Multiset Holding) : Prop extends Owns memory held where
  all : ∀ holding, memory.Has holding → holding ∈ held

theorem Exchange.ownsAll (h : Exchange given kept before after) (howns : before.OwnsAll given) :
    after.OwnsAll kept where
  toOwns := h.owns howns.toOwns
  all holding hhas := by
    by_cases hreaches : before.Reaches given holding.handle
    · exact (h.has holding hreaches).mp hhas
    · have hbefore := (has_congr (h.others holding.handle hreaches)).mp hhas
      exact absurd (.inr ⟨holding, howns.all holding hbefore, rfl⟩) hreaches

/-- The objects of a backend by their handles, in ascending order. -/
def holdings (memory : Memory) : List Holding :=
  (List.range memory.slots.size).filterMap fun position ↦
    (memory.object? (position + 1)).map fun object ↦ ⟨position + 1, object.isRow⟩

theorem mem_holdings : holding ∈ memory.holdings ↔ memory.Has holding := by
  obtain ⟨handle, isRow⟩ := holding
  simp only [holdings, List.mem_filterMap, List.mem_range, Option.map_eq_some_iff]
  constructor
  · rintro ⟨position, -, object, hobject, hholding⟩
    obtain ⟨rfl, rfl⟩ := Holding.mk.inj hholding
    exact ⟨object, hobject, rfl⟩
  · intro hhas
    have hlt := hhas.lt_nextHandle
    obtain ⟨object, hobject, rfl⟩ := hhas
    obtain ⟨position, rfl⟩ := Nat.exists_eq_succ_of_ne_zero (ne_zero_of_object? hobject)
    exact ⟨position, Nat.lt_of_succ_lt_succ hlt, object, hobject, rfl⟩

theorem nodup_holdings (memory : Memory) : memory.holdings.Nodup := by
  refine List.nodup_range.filterMap fun first second holding hfirst hsecond ↦ ?_
  obtain ⟨object, -, rfl⟩ := Option.map_eq_some_iff.mp hfirst
  obtain ⟨other, -, hholding⟩ := Option.map_eq_some_iff.mp hsecond
  exact (Nat.succ.inj (congrArg Holding.handle hholding)).symm

theorem liveObjects_eq_length (memory : Memory) : memory.liveObjects = memory.holdings.length := by
  have hcount : ∀ (slots : List (Option ManagedObject)) (count : Nat),
      slots.foldl (fun count slot ↦ if slot.isSome then count + 1 else count) count =
        count + slots.countP Option.isSome := by
    intro slots
    induction slots with
    | nil => exact fun _ ↦ rfl
    | cons slot slots ih =>
      intro count
      rw [List.foldl_cons, ih, List.countP_cons, Nat.add_comm (slots.countP _), ← Nat.add_assoc]
      by_cases hslot : slot.isSome = true <;> simp [hslot]
  have hslots : memory.slots.toList =
      (List.range memory.slots.size).map fun position ↦ (memory.slots[position]?).join := by
    apply List.ext_getElem
    · simp
    · intro position hposition _
      have hlt : position < memory.slots.size := by simpa using hposition
      simp [Array.getElem?_eq_getElem hlt]
  have hobject : ∀ position, (memory.slots[position]?).join = memory.object? (position + 1) :=
    fun position ↦ (object?_of_ne_zero (Nat.succ_ne_zero position)).symm
  rw [liveObjects, ← Array.foldl_toList, hcount, Nat.zero_add, hslots, List.countP_map, holdings,
    List.length_filterMap_eq_countP]
  simp only [Function.comp_def, hobject, Option.isSome_map]

/-- Who owns all objects has as many handles as there are objects. -/
theorem OwnsAll.liveObjects_eq (h : memory.OwnsAll given) : memory.liveObjects = given.card := by
  have hsame : given = (memory.holdings : Multiset Holding) := by
    refine (Multiset.Nodup.ext h.nodup (Multiset.coe_nodup.mpr (nodup_holdings memory))).mpr ?_
    intro holding
    rw [Multiset.mem_coe, mem_holdings]
    exact ⟨h.has holding, h.all holding⟩
  rw [hsame, Multiset.coe_card, liveObjects_eq_length]

end Memory

end ColumnStore
