import ColumnStore.Proofs.Console.Leaks

/-!
# Rows while they are held, and afterwards

A row lies unchanged behind its handle as long as it is held, and nothing lies behind the handle
ever after: a handle that has been given up is not used again, for no object of any kind. So an
accessor bound to the row answers every question in the same way until then, and no question from
then on.
-/

set_option autoImplicit false

namespace ColumnStore

open Client

/-- A handle that was in use once and is not any more stays out of use. -/
theorem Memory.Exchange.object?_of_gone {given kept : Multiset Holding} {before after : Memory}
    {handle : Handle} (h : Exchange given kept before after) (howns : before.Owns given)
    (hlt : handle < before.nextHandle) (hgone : before.object? handle = none) :
    after.object? handle = none := by
  rw [h.others handle ?_, hgone]
  rintro (hnew | ⟨holding, hgiven, rfl⟩)
  · exact Nat.not_lt.mpr hnew hlt
  · obtain ⟨object, hobject, -⟩ := howns.has holding hgiven
    rw [hgone] at hobject
    cases hobject

namespace Workbench

/-- The rows that are held. -/
def heldRows (bench : Workbench) : List HeldRow := bench.rows.map Prod.snd

/-- The handles that are held. -/
def handles (bench : Workbench) : Multiset Handle := bench.held.map Holding.handle

theorem mem_holdings {α : Type} {held : α → Multiset Holding} {content : Dictionary α}
    {holding : Holding} :
    holding ∈ content.holdings held ↔ ∃ item ∈ content.map Prod.snd, holding ∈ held item := by
  unfold Dictionary.holdings
  induction content with
  | nil => simp
  | cons entry content ih =>
    rw [List.map_cons, List.sum_cons, Multiset.mem_add, ih, List.map_cons]
    simp

/-- Handles behind which a row lies are those of the rows. -/
theorem mem_held_row {bench : Workbench} {row : HeldRow} :
    ⟨row.handle, true⟩ ∈ bench.held ↔ row ∈ bench.heldRows := by
  have hrows : ⟨row.handle, true⟩ ∈ bench.held ↔
      ∃ other ∈ bench.heldRows, row.handle = other.handle := by
    simp [held, heldRows, mem_holdings, ReaderBuilder.held, Reader.held, HeldRow.held,
      WriterBuilder.held, Writer.held, Configuration.held]
  rw [hrows]
  constructor
  · rintro ⟨⟨handle⟩, hother, hhandle⟩
    obtain ⟨rowHandle⟩ := row
    obtain rfl : rowHandle = handle := hhandle
    exact hother
  · exact fun hrow ↦ ⟨row, hrow, rfl⟩

end Workbench

namespace Console

variable {console before after : Console} {row : HeldRow} {handle : Handle}

/-- An accessor without faults sees what lies behind a handle. -/
theorem Tidy.sees (h : console.Tidy) (hfaults : console.connection.state.faults = [])
    (handle : Handle) :
    console.connection.state.Sees handle (console.connection.state.inner.object? handle) :=
  ⟨hfaults, h.owns.running, rfl⟩

theorem Becomes.faults (h : before.Becomes after)
    (hfaults : before.connection.state.faults = []) : after.connection.state.faults = [] := by
  have hplans := h.exchange.plans
  rw [hfaults] at hplans
  exact List.map_eq_nil_iff.mp hplans

/-- Behind the handle of a row that is held lies a row. -/
theorem Tidy.exists_row (h : console.Tidy) (hrow : row ∈ console.bench.heldRows) :
    ∃ state, console.connection.state.inner.object? row.handle = some (.row state) := by
  obtain ⟨object, hobject, hkind⟩ := h.owns.has _ (Workbench.mem_held_row.mpr hrow)
  cases object with
  | row state => exact ⟨state, hobject⟩
  | _ => cases hkind

/-- Nothing lies behind a handle that nobody holds. -/
theorem Tidy.object?_eq_none (h : console.Tidy) (hhandle : handle ∉ console.bench.handles) :
    console.connection.state.inner.object? handle = none := by
  by_contra hsome
  obtain ⟨object, hobject⟩ := Option.ne_none_iff_exists'.mp hsome
  refine hhandle (Multiset.mem_map.mpr ⟨⟨handle, object.isRow⟩, ?_, rfl⟩)
  exact h.owns.all _ ⟨object, hobject, rfl⟩

/-- No two objects have one handle. -/
theorem Tidy.nodup_handles (h : console.Tidy) : console.bench.handles.Nodup := by
  refine Multiset.Nodup.map_on ?_ h.owns.nodup
  exact fun first hfirst second hsecond hhandle ↦
    (h.owns.has first hfirst).eq_of_handle (h.owns.has second hsecond) hhandle

/-- A row that is still held has not changed. -/
theorem Becomes.object?_eq_of_held (h : before.Becomes after) (hbefore : before.Tidy)
    (hrow : row ∈ before.bench.heldRows) (hheld : row ∈ after.bench.heldRows) :
    after.connection.state.inner.object? row.handle =
      before.connection.state.inner.object? row.handle := by
  obtain ⟨state, hstate⟩ := hbefore.exists_row hrow
  obtain ⟨later, hlater⟩ := (h.tidy hbefore).exists_row hheld
  rcases h.exchange.memory.rows row.handle state hstate with hsame | hnone
  · exact hsame.trans hstate.symm
  · rw [hnone] at hlater
    cases hlater

/-- A row that is not held any more is gone. -/
theorem Becomes.object?_eq_none_of_dropped (h : before.Becomes after) (hbefore : before.Tidy)
    (hrow : row ∈ before.bench.heldRows) (hdropped : row ∉ after.bench.heldRows) :
    after.connection.state.inner.object? row.handle = none := by
  obtain ⟨state, hstate⟩ := hbefore.exists_row hrow
  refine (h.exchange.memory.rows row.handle state hstate).resolve_left fun hsame ↦ hdropped ?_
  exact Workbench.mem_held_row.mp ((h.tidy hbefore).owns.all _ ⟨_, hsame, rfl⟩)

/-- A handle that was held once and is out of use stays out of use. -/
theorem Becomes.object?_of_gone {first second third : Console} (hfirst : first.Becomes second)
    (hlast : second.Becomes third) (htidy : first.Tidy) (hhandle : handle ∈ first.bench.handles)
    (hgone : second.connection.state.inner.object? handle = none) :
    third.connection.state.inner.object? handle = none := by
  obtain ⟨holding, hholding, rfl⟩ := Multiset.mem_map.mp hhandle
  have hlt := (htidy.owns.has holding hholding).lt_nextHandle
  exact hlast.exchange.memory.object?_of_gone (hfirst.tidy htidy).owns.toOwns
    (Nat.lt_of_lt_of_le hlt hfirst.exchange.memory.grows) hgone

/-- What lies behind the handle of an accessor settles all its answers. -/
theorem run_ask_congr {first second : Console} {found : Option ManagedObject}
    (hfirst : first.connection.state.Sees handle found)
    (hsecond : second.connection.state.Sees handle found) (question : Question) (ordinal : Nat) :
    (second.run (question.ask ⟨some handle⟩ ordinal)).1 =
      (first.run (question.ask ⟨some handle⟩ ordinal)).1 := by
  obtain ⟨result, hresult⟩ :=
    (Question.looks_ask (Accessor.looksAt_some handle) question ordinal).answers found
  have hearlier : (first.run (question.ask ⟨some handle⟩ ordinal)).1 = result :=
    hresult first.connection.state hfirst first.connection.log
  have hlater : (second.run (question.ask ⟨some handle⟩ ordinal)).1 = result :=
    hresult second.connection.state hsecond second.connection.log
  rw [hearlier, hlater]

/-- A row is stable as long as it is held, and dead afterwards. Whatever commands are performed in
between, an accessor bound to a row that is still held answers every question as before; once the
row has been given up, every question with an ordinal that can be asked for fails at the bridge,
whatever commands follow. No two objects have one handle, and behind the handle of an object that
has been given up nothing lies ever after. -/
theorem rows_stable_until_dropped (store : Store) (threshold : Level)
    (early middle late : List Command) :
    let first := (performAll early (start store [] threshold).2).2
    let second := (performAll middle first).2
    let third := (performAll late second).2
    (∀ row ∈ first.bench.heldRows, ∀ accessor : Accessor, accessor.row = some row.handle →
      (row ∈ second.bench.heldRows → ∀ (question : Question) (ordinal : Nat),
        (second.run (question.ask accessor ordinal)).1 =
          (first.run (question.ask accessor ordinal)).1) ∧
      (row ∉ second.bench.heldRows → ∀ (question : Question) (ordinal : Nat),
        ordinal ≤ Accessor.greatestOrdinal → ∃ reason,
          (third.run (question.ask accessor ordinal)).1 = .error (.error (.bridge reason)))) ∧
    first.bench.handles.Nodup ∧
    ∀ handle ∈ first.bench.handles, handle ∉ second.bench.handles →
      third.connection.state.inner.object? handle = none := by
  intro first second third
  have hstart := tidy_start store (List.forall_mem_nil Fault.OnlyFails) threshold
  have hearly := hstart.performAll early
  have hfirst := hearly.tidy hstart
  have hmiddle := hfirst.performAll middle
  have hsecond := hmiddle.tidy hfirst
  have hlate := hsecond.performAll late
  have hfaults : first.connection.state.faults = [] := hearly.faults rfl
  refine ⟨fun row hrow accessor haccessor ↦ ?_, hfirst.nodup_handles, ?_⟩
  · obtain ⟨bound⟩ := accessor
    obtain rfl : bound = some row.handle := haccessor
    refine ⟨fun hheld question ordinal ↦ ?_, fun hdropped question ordinal hordinal ↦ ?_⟩
    · have hsame := hmiddle.object?_eq_of_held hfirst hrow hheld
      have hsees := hsecond.sees (hmiddle.faults hfaults) row.handle
      rw [hsame] at hsees
      exact run_ask_congr (hfirst.sees hfaults row.handle) hsees question ordinal
    · have hgone := hmiddle.object?_eq_none_of_dropped hfirst hrow hdropped
      have hhandle : row.handle ∈ first.bench.handles :=
        Multiset.mem_map_of_mem Holding.handle (Workbench.mem_held_row.mpr hrow)
      have hnone := hmiddle.object?_of_gone hlate hfirst hhandle hgone
      have hsees := (hlate.tidy hsecond).sees (hlate.faults (hmiddle.faults hfaults)) row.handle
      rw [hnone] at hsees
      exact question.stale_ask row.handle hordinal third.connection.state hsees
        third.connection.log
  · exact fun handle hhandle hdropped ↦
      hmiddle.object?_of_gone hlate hfirst hhandle (hsecond.object?_eq_none hdropped)

/-- A row is read and answers as before while its reader goes on and is given up. Once it has been
given up itself, it does not answer any more, although another row has been read. -/
theorem row_outlives_reader :
    let store := Store.empty.seed "t" ⟨[.scalar "a" .string]⟩ [[.string "x"], [.string "y"]]
    let reading := [.readerBuilder "b" "t" none, .buildReader "b", .next "b" "r"]
    let leaving := [.next "b" "s", .drop .reader "b"]
    let again := [.readerBuilder "c" "t" none, .buildReader "c", .next "c" "r"]
    let first := (performAll reading (start store [] .info).2).2
    let second := (performAll leaving first).2
    let third := (performAll again (performAll (leaving ++ [.drop .row "r"]) first).2).2
    (second.run (Question.string.ask ⟨some 3⟩ 0)).1 = .ok (.text (some "x")) ∧
      ∃ reason, (third.run (Question.string.ask ⟨some 3⟩ 0)).1 =
        .error (.error (.bridge reason)) := by
  intro store reading leaving again first
  have hrow : ⟨3⟩ ∈ first.bench.heldRows := by decide +kernel
  have hanswer : (first.run (Question.string.ask ⟨some 3⟩ 0)).1 = .ok (.text (some "x")) := rfl
  have hstable := (rows_stable_until_dropped store .info reading leaving []).1 ⟨3⟩ hrow ⟨some 3⟩ rfl
  have hdropped := (rows_stable_until_dropped store .info reading
    (leaving ++ [.drop .row "r"]) again).1 ⟨3⟩ hrow ⟨some 3⟩ rfl
  constructor
  · exact (hstable.1 (by decide +kernel) .string 0).trans hanswer
  · exact hdropped.2 (by decide +kernel) .string 0 (Nat.zero_le _)

end Console

end ColumnStore
