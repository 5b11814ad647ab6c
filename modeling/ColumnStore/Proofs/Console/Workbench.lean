import ColumnStore.Proofs.Client.Ownership
import ColumnStore.Proofs.Text.Dictionary
import Mathlib.Algebra.BigOperators.Group.List.Basic

/-!
# What a workbench holds

A workbench holds the handles that its objects own. The shelves are all alike in this: an object
that is taken off leaves all other handles, one that is put on adds its own, and one that is
replaced is given up. Everything else about shelves follows from `Shelf.Lawful`.
-/

set_option autoImplicit false

namespace ColumnStore

open Client

/-! ### Handles in dictionaries -/

namespace Dictionary

variable {α : Type} {held : α → Multiset Holding} {content : Dictionary α} {key : String} {item : α}

/-- The handles that the items of a dictionary own. -/
def holdings (held : α → Multiset Holding) (content : Dictionary α) : Multiset Holding :=
  (content.map fun entry ↦ held entry.2).sum

theorem holdings_erase (h : content.Ascending) (hget : content.get? key = some item) :
    holdings held (content.erase key) + held item = holdings held content := by
  unfold holdings
  rw [((perm_of_get? h hget).map _).sum_eq, List.map_cons, List.sum_cons, add_comm]

theorem holdings_insert (h : content.Ascending) (key : String) (item : α) :
    holdings held (content.insert key item) =
      holdings held (content.erase key) + held item := by
  unfold holdings
  rw [((perm_insert h key item).map _).sum_eq, List.map_cons, List.sum_cons, add_comm]

theorem holdings_eq_zero (h : ∀ item, held item = 0) (content : Dictionary α) :
    holdings held content = 0 := by
  unfold holdings
  refine List.sum_eq_zero fun given hgiven ↦ ?_
  obtain ⟨entry, -, rfl⟩ := List.mem_map.mp hgiven
  exact h entry.2

/-- If every item owns one handle there are as many handles as items. -/
theorem card_holdings (h : ∀ item, (held item).card = 1) (content : Dictionary α) :
    (holdings held content).card = content.length := by
  unfold holdings
  induction content with
  | nil => rfl
  | cons entry content ih =>
    rw [List.map_cons, List.sum_cons, Multiset.card_add, ih, h entry.2, List.length_cons,
      Nat.add_comm]

end Dictionary

/-! ### Workbenches -/

namespace Workbench

/-- The handles that the objects of a workbench own. -/
def held (bench : Workbench) : Multiset Holding :=
  Dictionary.holdings ReaderBuilder.held bench.readerBuilders +
    Dictionary.holdings Reader.held bench.readers +
    Dictionary.holdings HeldRow.held bench.rows +
    Dictionary.holdings WriterBuilder.held bench.writerBuilders +
    Dictionary.holdings Writer.held bench.writers +
    Dictionary.holdings Configuration.held bench.configurations

/-- The count of objects that own a handle: all but the accessors. -/
def objectCount (bench : Workbench) : Nat :=
  bench.readerBuilders.length + bench.readers.length + bench.rows.length +
    bench.writerBuilders.length + bench.writers.length + bench.configurations.length

/-- The names of all kinds are in order. -/
structure Ordered (bench : Workbench) : Prop where
  readerBuilders : bench.readerBuilders.Ascending
  readers : bench.readers.Ascending
  rows : bench.rows.Ascending
  accessors : bench.accessors.Ascending
  writerBuilders : bench.writerBuilders.Ascending
  writers : bench.writers.Ascending
  configurations : bench.configurations.Ascending

theorem ordered_empty : empty.Ordered := by
  constructor <;> exact Dictionary.ascending_nil

theorem card_held (bench : Workbench) : bench.held.card = bench.objectCount := by
  simp only [held, objectCount, Multiset.card_add]
  rw [Dictionary.card_holdings fun _ ↦ rfl, Dictionary.card_holdings fun _ ↦ rfl,
    Dictionary.card_holdings fun _ ↦ rfl, Dictionary.card_holdings fun _ ↦ rfl,
    Dictionary.card_holdings fun _ ↦ rfl, Dictionary.card_holdings fun _ ↦ rfl]

end Workbench

/-- An action has led to a workbench that holds all that is in use. -/
def Workbench.Reached (result : Except Failure Workbench) (kept : Multiset Holding) : Prop :=
  ∃ after, result = .ok after ∧ after.Ordered ∧ kept = after.held

/-- Going on with the workbench that an action leads to. -/
theorem Client.Trades.bind_reached {α : Type} {given : Multiset Holding}
    {action : Client (Faulty Memory) Workbench} {next : Workbench → Client (Faulty Memory) α}
    {post : Except Failure α → Multiset Holding → Prop}
    (h : Trades given action Workbench.Reached)
    (hnext : ∀ after, after.Ordered → Trades after.held (next after) post) :
    Trades given (action >>= next) post := by
  refine h.bind ?_ ?_
  · rintro _ _ ⟨after, ⟨⟩, hafter, rfl⟩
    exact hnext _ hafter
  · rintro failure kept ⟨after, hended, -⟩
    cases hended

/-! ### Shelves -/

/-- A shelf holds objects of one kind, and what they own is held by the workbench. -/
structure Shelf.Lawful {α : Type} (shelf : Shelf (Faulty Memory) α) (held : α → Multiset Holding) :
    Prop where
  clears : ∀ object, Clears (held object) (shelf.drop object)
  content_replace : ∀ bench content, shelf.content (shelf.replace bench content) = content
  ascending : ∀ bench, bench.Ordered → (shelf.content bench).Ascending
  ordered : ∀ bench content, bench.Ordered → content.Ascending →
    (shelf.replace bench content).Ordered
  held_replace : ∀ bench content,
    (shelf.replace bench content).held + Dictionary.holdings held (shelf.content bench) =
      bench.held + Dictionary.holdings held content

namespace Shelf

theorem lawful_readerBuilders : Lawful readerBuilders ReaderBuilder.held where
  clears := ReaderBuilder.clears_drop
  content_replace _ _ := rfl
  ascending _ h := h.readerBuilders
  ordered _ _ h hcontent := { h with readerBuilders := hcontent }
  held_replace bench content := by
    simp only [Workbench.held, readerBuilders]
    abel

theorem lawful_readers : Lawful readers Reader.held where
  clears := Reader.clears_drop
  content_replace _ _ := rfl
  ascending _ h := h.readers
  ordered _ _ h hcontent := { h with readers := hcontent }
  held_replace bench content := by
    simp only [Workbench.held, readers]
    abel

theorem lawful_rows : Lawful rows HeldRow.held where
  clears := HeldRow.clears_drop
  content_replace _ _ := rfl
  ascending _ h := h.rows
  ordered _ _ h hcontent := { h with rows := hcontent }
  held_replace bench content := by
    simp only [Workbench.held, rows]
    abel

/-- Accessors own nothing. -/
theorem lawful_accessors : Lawful accessors fun _ ↦ 0 where
  clears _ := trades_pure ⟨rfl, rfl⟩
  content_replace _ _ := rfl
  ascending _ h := h.accessors
  ordered _ _ h hcontent := { h with accessors := hcontent }
  held_replace bench content := by
    rw [Dictionary.holdings_eq_zero fun _ ↦ rfl, Dictionary.holdings_eq_zero fun _ ↦ rfl]
    rfl

theorem lawful_writerBuilders : Lawful writerBuilders WriterBuilder.held where
  clears := WriterBuilder.clears_drop
  content_replace _ _ := rfl
  ascending _ h := h.writerBuilders
  ordered _ _ h hcontent := { h with writerBuilders := hcontent }
  held_replace bench content := by
    simp only [Workbench.held, writerBuilders]
    abel

theorem lawful_writers : Lawful writers Writer.held where
  clears := Writer.clears_drop
  content_replace _ _ := rfl
  ascending _ h := h.writers
  ordered _ _ h hcontent := { h with writers := hcontent }
  held_replace bench content := by
    simp only [Workbench.held, writers]
    abel

theorem lawful_configurations : Lawful configurations Configuration.held where
  clears := Configuration.clears_drop
  content_replace _ _ := rfl
  ascending _ h := h.configurations
  ordered _ _ h hcontent := { h with configurations := hcontent }
  held_replace bench content := by
    simp only [Workbench.held, configurations]
    abel

section Lawful

variable {α : Type} {shelf : Shelf (Faulty Memory) α} {held : α → Multiset Holding}
  {bench : Workbench} {name : String} {object old : α}

theorem Lawful.ordered_without (h : shelf.Lawful held) (hordered : bench.Ordered) (name : String) :
    (shelf.without name bench).Ordered :=
  h.ordered bench _ hordered (Dictionary.ascending_erase (h.ascending bench hordered) name)

theorem Lawful.ordered_holding (h : shelf.Lawful held) (hordered : bench.Ordered) (name : String)
    (object : α) : (shelf.holding name object bench).Ordered :=
  h.ordered bench _ hordered (Dictionary.ascending_insert (h.ascending bench hordered) name object)

/-- What is taken off leaves everything else. -/
theorem Lawful.held_without (h : shelf.Lawful held) (hordered : bench.Ordered)
    (hfind : shelf.find? name bench = some object) :
    (shelf.without name bench).held + held object = bench.held := by
  have hreplace := h.held_replace bench ((shelf.content bench).erase name)
  rw [← Dictionary.holdings_erase (h.ascending bench hordered) hfind, add_comm _ (held object),
    ← add_assoc] at hreplace
  exact add_right_cancel hreplace

/-- What is put on adds its own. -/
theorem Lawful.held_holding_of_none (h : shelf.Lawful held) (hordered : bench.Ordered)
    (hfind : shelf.find? name bench = none) (object : α) :
    (shelf.holding name object bench).held = bench.held + held object := by
  have hreplace := h.held_replace bench ((shelf.content bench).insert name object)
  rw [Dictionary.holdings_insert (h.ascending bench hordered),
    Dictionary.erase_of_get?_eq_none hfind, add_comm _ (held object), ← add_assoc] at hreplace
  exact add_right_cancel hreplace

/-- What is replaced leaves its place. -/
theorem Lawful.held_holding_of_some (h : shelf.Lawful held) (hordered : bench.Ordered)
    (hfind : shelf.find? name bench = some old) (object : α) :
    (shelf.holding name object bench).held + held old = bench.held + held object := by
  have hascending := h.ascending bench hordered
  have hreplace := h.held_replace bench ((shelf.content bench).insert name object)
  rw [Dictionary.holdings_insert hascending, ← Dictionary.holdings_erase hascending hfind,
    add_comm _ (held old), ← add_assoc, add_comm _ (held object), ← add_assoc] at hreplace
  exact add_right_cancel hreplace

/-- Putting an object on a shelf gives up the one that it replaces. -/
theorem Lawful.trades_put (h : shelf.Lawful held) (hordered : bench.Ordered) (name : String)
    (object : α) :
    Trades (bench.held + held object) (shelf.put name object bench) Workbench.Reached := by
  have hafter := h.ordered_holding hordered name object
  unfold put
  cases hfind : shelf.find? name bench with
  | none =>
    rw [← h.held_holding_of_none hordered hfind object]
    exact trades_pure ⟨_, rfl, hafter, rfl⟩
  | some old =>
    rw [← h.held_holding_of_some hordered hfind object, add_comm]
    exact (h.clears old).bind_trades (trades_pure ⟨_, rfl, hafter, rfl⟩)

/-- Clearing a shelf gives up all its objects. -/
theorem Lawful.trades_clear (h : shelf.Lawful held) (bench : Workbench) :
    Trades bench.held (shelf.clear bench) fun result kept ↦
      result = .ok (shelf.replace bench []) ∧ kept = (shelf.replace bench []).held := by
  have hreplace := h.held_replace bench []
  have hnone : Dictionary.holdings held [] = 0 := rfl
  rw [hnone, add_zero, add_comm] at hreplace
  rw [← hreplace]
  exact (clears_forM fun entry _ ↦ h.clears entry.2).bind_trades (trades_pure ⟨rfl, rfl⟩)

/-- Going on after a shelf has been cleared. -/
theorem Lawful.clear_bind (h : shelf.Lawful held)
    {next : Workbench → Client (Faulty Memory) Workbench}
    {post : Except Failure Workbench → Multiset Holding → Prop}
    (hnext : Trades (shelf.replace bench []).held (next (shelf.replace bench [])) post) :
    Trades bench.held (shelf.clear bench >>= next) post := by
  refine (h.trades_clear bench).bind ?_ ?_
  · rintro _ _ ⟨⟨⟩, rfl⟩
    exact hnext
  · rintro failure kept ⟨hresult, -⟩
    cases hresult

end Lawful

end Shelf

/-- Clearing a workbench gives up everything. -/
theorem Workbench.trades_clear (bench : Workbench) :
    Trades bench.held bench.clear fun _ kept ↦ kept = 0 := by
  refine Shelf.lawful_accessors.clear_bind (Shelf.lawful_rows.clear_bind ?_)
  refine Shelf.lawful_readers.clear_bind (Shelf.lawful_readerBuilders.clear_bind ?_)
  refine Shelf.lawful_writers.clear_bind (Shelf.lawful_writerBuilders.clear_bind ?_)
  refine (Shelf.lawful_configurations.trades_clear _).mono ?_
  rintro result kept ⟨-, rfl⟩
  rfl

end ColumnStore
