import ColumnStore.Proofs.Memory.Call
import ColumnStore.Proofs.Text.Dictionary

/-!
# Configurations in key order

A configuration lists its entries with ascending keys, whatever is called on the backend and in
whatever order: only setting an entry changes a configuration, and an entry is put in its place.
-/

set_option autoImplicit false

namespace ColumnStore

/-- The object is no configuration, or one that lists its entries with ascending keys. -/
def ManagedObject.Ascends : ManagedObject → Prop
  | .configuration entries => Dictionary.Ascending entries
  | _ => True

namespace Memory

/-- Every configuration lists its entries with ascending keys. -/
abbrev SettingsAscend (memory : Memory) : Prop := memory.All ManagedObject.Ascends

variable {memory before after : Memory} {operation : Operation} {outcome : Outcome Returned}
  {handle : Nat}

/-! ### Operations -/

theorem SettingsAscend.changeReader (h : memory.SettingsAscend) (handle : Nat) (method : String)
    (change : ReaderPlan → ReaderPlan) :
    (Memory.changeReader handle method change memory).state.SettingsAscend := by
  unfold Memory.changeReader
  split
  · exact h
  · exact h.put handle trivial

theorem SettingsAscend.changeWriter (h : memory.SettingsAscend) (handle : Nat) (method : String)
    (change : WriterPlan → WriterPlan) :
    (Memory.changeWriter handle method change memory).state.SettingsAscend := by
  unfold Memory.changeWriter
  split
  · exact h
  · exact h.put handle trivial

theorem SettingsAscend.setEntry (h : memory.SettingsAscend) (handle : Nat)
    (arguments : List Argument) :
    (Memory.setEntry handle arguments memory).state.SettingsAscend := by
  unfold Memory.setEntry
  split
  · exact h
  · exact h
  · split
    · exact h
    · rename_i entries hentries
      have hascends := h handle _ (configuration_eq_ok_iff.mp hentries)
      exact h.put handle (Dictionary.ascending_insert hascends _ _)

theorem SettingsAscend.schemaOf (h : memory.SettingsAscend)
    (find : Memory → String → Except CallError StoredFile) (method : String)
    (arguments : List Argument) :
    (Memory.schemaOf find method arguments memory).state.SettingsAscend := by
  unfold Memory.schemaOf
  split
  · exact h
  · split
    · exact h
    · exact h.pin trivial

/-- What an operation does to objects that hold rows does not touch configurations. -/
theorem Effect.settingsAscend (heffect : Effect operation handle before outcome after)
    (h : before.SettingsAscend) (hkind : operation.method.kind = .onObject)
    (hsettles : operation.settles = false)
    (hdescribes : operation ∉ [.fieldType, .elementType, .schemaFields]) :
    after.SettingsAscend := by
  have hreceived : ∀ store : Store, SettingsAscend { before with store := store } := fun _ ↦ h
  cases heffect with
  | refused | answered => exact h
  | unbuilt | broken => exact hreceived _
  | made object hnot => exact absurd hkind hnot
  | described _ _ _ _ _ hoperation =>
    rcases hoperation with rfl | rfl <;> simp at hdescribes
  | describedAll _ _ _ _ _ hoperation =>
    subst hoperation
    simp at hdescribes
  | settled old new _ _ _ result _ hdoes => simp [hsettles] at hdoes
  | opened => exact (hreceived _).pin (by trivial)
  | began => exact (hreceived _).pin (by trivial)
  | tookRow => exact (h.put handle (by trivial)).pin (by trivial)
  | tookRows reader =>
    refine (h.put handle (by trivial)).pinAll fun object hmem ↦ ?_
    obtain ⟨row, -, rfl⟩ := List.mem_map.mp hmem
    trivial
  | closedReader | wrote | closedEmpty => exact h.put handle (by trivial)
  | committed writer =>
    have hclosed : (before.put handle
        (.writer { writer with newestFirst := [], closed := true })).SettingsAscend :=
      h.put handle (by trivial)
    exact hclosed

/-- Every operation keeps the order. -/
theorem SettingsAscend.perform (h : memory.SettingsAscend) (operation : Operation) (handle : Nat)
    (arguments : List Argument) :
    (Memory.perform operation handle arguments memory).state.SettingsAscend := by
  cases operation with
  | newNamedReaderBuilder =>
    show (newNamedReaderBuilder arguments memory).state.SettingsAscend
    unfold newNamedReaderBuilder
    split
    · exact h
    · exact h
    · exact h.pin trivial
  | newReaderBuilder =>
    show (newReaderBuilder arguments memory).state.SettingsAscend
    unfold newReaderBuilder
    split
    · exact h
    · exact h.pin trivial
  | newWriterBuilder => exact h.pin trivial
  | newConfiguration => exact h.pin Dictionary.ascending_nil
  | setProjection | setReaderOption | setReaderConfiguration | setBatch =>
    simp only [Memory.perform, setProjection, setReaderOption, setReaderConfiguration, setBatch]
    repeat' split
    all_goals first | exact h | exact h.changeReader _ _ _
  | setOutputPath | setCsvSchema | setWriterOption | setWrittenBy | setSortColumns | setBlockSize
  | setBlockletSize | setUniqueIdentifier =>
    simp only [Memory.perform, setOutputPath, setCsvSchema, setWriterOption, setWrittenBy,
      setSortColumns, setBlockSize, setBlockletSize, setUniqueIdentifier]
    repeat' split
    all_goals first | exact h | exact h.changeWriter _ _ _
  | setEntry => exact h.setEntry handle arguments
  | schemaOfIndexFile | schemaOfDataFile | schemaOfSchemaFile => exact h.schemaOf _ _ arguments
  | schemaFields =>
    show (schemaFields handle memory).state.SettingsAscend
    unfold schemaFields
    split
    · exact h
    · refine h.pinAll fun object hmem ↦ ?_
      obtain ⟨field, -, rfl⟩ := List.mem_map.mp hmem
      trivial
  | fieldType =>
    show (fieldType handle memory).state.SettingsAscend
    unfold fieldType
    split
    · exact h
    · exact h.pin trivial
  | elementType =>
    show (elementType handle memory).state.SettingsAscend
    unfold elementType
    split
    · exact h
    · split
      · exact h.pin trivial
      · exact h
  | versionDetails =>
    show (Reply.ofExcept memory (versionDetails arguments memory)).state.SettingsAscend
    cases versionDetails arguments memory <;> exact h
  | _ => exact (effect_perform _ handle arguments memory).settingsAscend h rfl rfl (by decide)

/-! ### Calls -/

theorem SettingsAscend.invoke (h : memory.SettingsAscend) (kind : MethodKind)
    (target : Option Handle) (method : Method) (arguments : List Argument) :
    (memory.invoke kind target method arguments).state.SettingsAscend := by
  unfold Memory.invoke
  split
  · exact h
  · split
    · exact h
    · split
      · exact h
      · rename_i operation _
        have hcounting : (memory.counting method).SettingsAscend := h
        exact hcounting.perform operation (target.getD 0) arguments

/-- Every call keeps the order. -/
theorem SettingsAscend.reply (h : memory.SettingsAscend) (call : Call) :
    (memory.reply call).state.SettingsAscend :=
  reply_keeps (fun _ _ _ _ ↦ h.invoke _ _ _ _) (fun _ _ hloses ↦ h.of_loses hloses) call

/-- Whatever is called on a backend that was started, configurations list their entries with
ascending keys. -/
theorem settingsAscend_after (store : Store) (calls : List Call) :
    ((start store).after calls).SettingsAscend :=
  after_keeps (fun h ↦ SettingsAscend.reply h) (all_start store) calls

end Memory

end ColumnStore
