import ColumnStore.Proofs.Memory.Call
import Mathlib.Logic.Function.Basic

/-!
# Readers that count

A reader may keep all its rows in one piece, with the place of the next one, and sorting may reach
for cells by their positions. `Indexed` is the in-process backend put that way: what is left is a
difference of two numbers, rows that are handed out together are cut out of the piece, and whatever
reaches out of range breaks the call off, as does sorting by an order that is none. As long as every
reader is where its cursor says, the answers are those of the backend itself.
-/

set_option autoImplicit false

namespace ColumnStore

/-- Rows in one piece and the place of the next one. -/
structure Cursor where
  rows : List Row
  position : Nat

namespace Cursor

/-- The rows that have not been handed out. -/
def ahead (cursor : Cursor) : List Row :=
  cursor.rows.drop cursor.position

/-- How many rows are left; there is no such number for a place behind the end. -/
def left? (cursor : Cursor) : Option Nat :=
  if cursor.position ≤ cursor.rows.length then some (cursor.rows.length - cursor.position)
  else none

/-- The rows from the next one up to the place `behind`, if that lies within them. -/
def slice? (cursor : Cursor) (behind : Nat) : Option (List Row) :=
  if cursor.position ≤ behind ∧ behind ≤ cursor.rows.length then
    some (cursor.ahead.take (behind - cursor.position))
  else none

/-- The cursor behind the next rows. -/
def advance (cursor : Cursor) (count : Nat) : Cursor :=
  ⟨cursor.rows, cursor.position + count⟩

/-- The cursor without its rows. -/
def clear (cursor : Cursor) : Cursor :=
  ⟨[], cursor.position⟩

end Cursor

/-- Rows can be sorted by the positions: each row has a cell at each of them, and on these rows the
order by the cells turns around with its arguments and is transitive. -/
def Row.Sortable (positions : List Nat) (rows : List Row) : Prop :=
  (∀ row ∈ rows, ∀ position ∈ positions, position < row.length) ∧
    (∀ first ∈ rows, ∀ second ∈ rows,
      compareAt positions first second = (compareAt positions second first).swap) ∧
    ∀ first ∈ rows, ∀ second ∈ rows, ∀ third ∈ rows, (compareAt positions first second).isLE →
      (compareAt positions second third).isLE → (compareAt positions first third).isLE

instance (positions : List Nat) (rows : List Row) : Decidable (Row.Sortable positions rows) :=
  inferInstanceAs (Decidable (_ ∧ _ ∧ _))

/-- The in-process backend with a cursor for each reader. -/
structure Indexed where
  memory : Memory
  cursors : Handle → Cursor

namespace Indexed

/-- A backend over a store, without objects. -/
def start (store : Store) : Indexed := ⟨.start store, fun _ ↦ ⟨[], 0⟩⟩

/-- An answer that moves no cursor. -/
def answered (machine : Indexed) (reply : Reply Memory Returned) : Outcome Returned × Indexed :=
  (reply.outcome, { machine with memory := reply.state })

/-- Gives a reader a new cursor. -/
def move (machine : Indexed) (handle : Handle) (reader : ReaderState) (cursor : Cursor) :
    Indexed :=
  ⟨machine.memory.put handle (.reader { reader with remaining := cursor.ahead }),
    Function.update machine.cursors handle cursor⟩

/-- Builds a reader, which begins with its first row. -/
def buildReader (handle : Handle) (machine : Indexed) : Outcome Returned × Indexed :=
  let reply := Memory.buildReader handle machine.memory
  let next := machine.memory.nextHandle
  match reply.state.object? next with
  | some (.reader reader) =>
    (reply.outcome, ⟨reply.state, Function.update machine.cursors next ⟨reader.remaining, 0⟩⟩)
  | _ => machine.answered reply

/-- Tells whether the place is before the end. -/
def hasNextRow (handle : Handle) (machine : Indexed) : Outcome Returned × Indexed :=
  match machine.memory.openReaderOf handle "hasNext" with
  | .error error => (.failed error, machine)
  | .ok _ =>
    let cursor := machine.cursors handle
    (.returned (.boolean (decide (cursor.position < cursor.rows.length))), machine)

/-- Hands out the row at the place. -/
def readRow (handle : Handle) (machine : Indexed) : Outcome Returned × Indexed :=
  match machine.memory.openReaderOf handle "readNextCarbonRow" with
  | .error error => (.failed error, machine)
  | .ok reader =>
    let cursor := machine.cursors handle
    match cursor.rows[cursor.position]? with
    | none => (.failed .noMoreRows, machine)
    | some row =>
      let moved := machine.move handle reader (cursor.advance 1)
      moved.answered (moved.memory.returnNew (.row ⟨reader.schema, row⟩))

/-- Hands out the rows from the place on, as many as asked for and left. -/
def readRows (handle : Handle) (arguments : List Argument) (machine : Indexed) :
    Outcome Returned × Indexed :=
  match Argument.intAt arguments 0 "readNextBatchRow" with
  | .error error => (.failed error, machine)
  | .ok size =>
    if size ≤ 0 then
      (.failed (.illegalArgument ("batch size should be positive, got " ++ toString size.toInt)),
        machine)
    else
      match machine.memory.openReaderOf handle "readNextBatchRow" with
      | .error error => (.failed error, machine)
      | .ok reader =>
        let cursor := machine.cursors handle
        match cursor.left? with
        | none => (.crashed, machine)
        | some left =>
          if left = 0 then (.failed .noMoreRows, machine)
          else
            let count := min left size.toInt.toNat
            match cursor.slice? (cursor.position + count) with
            | none => (.crashed, machine)
            | some rows =>
              let moved := machine.move handle reader (cursor.advance count)
              moved.answered
                (moved.memory.returnAll (rows.map fun row ↦ .row ⟨reader.schema, row⟩))

/-- Closes a reader, which loses its rows but not its place. -/
def closeReader (handle : Handle) (machine : Indexed) : Outcome Returned × Indexed :=
  match machine.memory.reader handle "close" with
  | .error error => (.failed error, machine)
  | .ok reader =>
    (.returned .nothing,
      machine.move handle { reader with closed := true } (machine.cursors handle).clear)

/-- Closes a writer, whose rows must be ones that can be sorted. -/
def closeWriter (handle : Handle) (machine : Indexed) : Outcome Returned × Indexed :=
  match machine.memory.writer handle "close" with
  | .error error => (.failed error, machine)
  | .ok writer =>
    if writer.closed = false ∧ ¬ Row.Sortable writer.sortPositions writer.newestFirst then
      (.crashed, machine)
    else machine.answered (Memory.closeWriter handle machine.memory)

/-- Answers an operation on the object `handle`. -/
def perform (operation : Operation) (handle : Handle) (arguments : List Argument)
    (machine : Indexed) : Outcome Returned × Indexed :=
  match operation with
  | .buildReader => machine.buildReader handle
  | .hasNextRow => machine.hasNextRow handle
  | .readRow => machine.readRow handle
  | .readRows => machine.readRows handle arguments
  | .closeReader => machine.closeReader handle
  | .closeWriter => machine.closeWriter handle
  | _ => machine.answered (machine.memory.perform operation handle arguments)

/-- Answers a call. A call of an operation on an object is counted first. -/
def reply (machine : Indexed) (call : Call) : Outcome Returned × Indexed :=
  match call with
  | .onObject handle method arguments =>
    match Operation.ofMethod? method with
    | some operation =>
      if machine.memory.isShutDown = false ∧ method.kind = .onObject then
        { machine with memory := machine.memory.counting method }.perform operation handle arguments
      else machine.answered (machine.memory.reply call)
    | none => machine.answered (machine.memory.reply call)
  | _ => machine.answered (machine.memory.reply call)

/-- The machine after calls, the first one first. -/
def after (machine : Indexed) (calls : List Call) : Indexed :=
  calls.foldl (fun machine call ↦ (machine.reply call).2) machine

/-- Every reader is where its cursor says, and no open one is behind the end of its rows. -/
structure Agrees (machine : Indexed) : Prop where
  ahead : ∀ {handle : Nat} {reader : ReaderState},
    machine.memory.object? handle = some (.reader reader) →
      reader.remaining = (machine.cursors handle).ahead
  inside : ∀ {handle : Nat} {reader : ReaderState},
    machine.memory.object? handle = some (.reader reader) → reader.closed = false →
      (machine.cursors handle).position ≤ (machine.cursors handle).rows.length

/-- The answer is that of the backend, whose new state it leaves with the cursors. -/
structure Follows (answer : Outcome Returned × Indexed) (reply : Reply Memory Returned) : Prop where
  outcome : answer.1 = reply.outcome
  memory : answer.2.memory = reply.state
  agrees : answer.2.Agrees

end Indexed

/-! ### Cursors -/

namespace Cursor

variable {cursor : Cursor}

theorem left?_of_le (h : cursor.position ≤ cursor.rows.length) :
    cursor.left? = some cursor.ahead.length := by
  rw [left?, if_pos h, ahead, List.length_drop]

theorem slice?_of_le {count : Nat} (h : cursor.position ≤ cursor.rows.length)
    (hcount : count ≤ cursor.ahead.length) :
    cursor.slice? (cursor.position + count) = some (cursor.ahead.take count) := by
  rw [ahead, List.length_drop] at hcount
  rw [slice?, if_pos (by omega), Nat.add_sub_cancel_left]

/-- No more rows are taken than there are. -/
theorem take_ahead (cursor : Cursor) (count : Nat) :
    cursor.ahead.take (min cursor.ahead.length count) = cursor.ahead.take count := by
  rw [List.take_eq_take_iff]
  omega

theorem drop_ahead (cursor : Cursor) (count : Nat) :
    cursor.ahead.drop count = (cursor.advance (min cursor.ahead.length count)).ahead := by
  simp only [ahead, advance, List.drop_drop, List.length_drop]
  by_cases hcount : cursor.rows.length - cursor.position ≤ count
  · rw [List.drop_eq_nil_of_le (by omega), List.drop_eq_nil_of_le (by omega)]
  · rw [Nat.min_eq_right (by omega)]

theorem advance_inside {count : Nat} (h : cursor.position ≤ cursor.rows.length)
    (hcount : count ≤ cursor.ahead.length) :
    (cursor.advance count).position ≤ (cursor.advance count).rows.length := by
  rw [ahead, List.length_drop] at hcount
  show cursor.position + count ≤ cursor.rows.length
  omega

theorem ahead_of_getElem?_eq_none (h : cursor.rows[cursor.position]? = none) :
    cursor.ahead = [] :=
  List.drop_eq_nil_of_le (List.getElem?_eq_none_iff.mp h)

theorem ahead_of_getElem?_eq_some {row : Row} (h : cursor.rows[cursor.position]? = some row) :
    cursor.ahead = row :: (cursor.advance 1).ahead := by
  obtain ⟨hlt, rfl⟩ := List.getElem?_eq_some_iff.mp h
  exact List.drop_eq_getElem_cons hlt

end Cursor

namespace Indexed

variable {machine : Indexed} {handle : Nat} {arguments : List Argument}
  {reply : Reply Memory Returned}

/-! ### Steps -/

theorem agrees_start (store : Store) : (start store).Agrees where
  ahead h := by simp [start, Memory.start, Memory.object?] at h
  inside h := by simp [start, Memory.start, Memory.object?] at h

theorem Agrees.follows_self (h : machine.Agrees) (outcome : Outcome Returned)
    (events : List Event) : Follows (outcome, machine) ⟨outcome, machine.memory, events⟩ :=
  ⟨rfl, rfl, h⟩

/-- An answer that leaves no readers but those that were there moves no cursor. -/
theorem Agrees.answered (h : machine.Agrees)
    (hreaders : ∀ {other : Nat} {reader : ReaderState},
      reply.state.object? other = some (.reader reader) →
        machine.memory.object? other = some (.reader reader)) :
    Follows (machine.answered reply) reply where
  outcome := rfl
  memory := rfl
  agrees := ⟨fun hreader ↦ h.ahead (hreaders hreader), fun hreader ↦ h.inside (hreaders hreader)⟩

/-- A reader is where its new cursor says. -/
theorem Agrees.move (h : machine.Agrees) {old : ReaderState} (reader : ReaderState)
    (cursor : Cursor) (hold : machine.memory.object? handle = some (.reader old))
    (hinside : reader.closed = false → cursor.position ≤ cursor.rows.length) :
    (machine.move handle reader cursor).Agrees := by
  have hself : (machine.move handle reader cursor).memory.object? handle =
      some (.reader { reader with remaining := cursor.ahead }) :=
    Memory.object?_put_self (Option.isSome_of_eq_some hold) _
  have hcursor : (machine.move handle reader cursor).cursors handle = cursor :=
    by simp [Indexed.move]
  have hother : ∀ other, other ≠ handle →
      (machine.move handle reader cursor).memory.object? other = machine.memory.object? other ∧
        (machine.move handle reader cursor).cursors other = machine.cursors other :=
    fun other hne ↦ ⟨Memory.object?_put_of_ne (Memory.ne_zero_of_object? hold) hne _,
      by simp [Indexed.move, hne]⟩
  constructor
  · intro other found hfound
    by_cases hsame : other = handle
    · subst hsame
      rw [hself] at hfound
      cases hfound
      rw [hcursor]
    · rw [(hother other hsame).1] at hfound
      rw [(hother other hsame).2]
      exact h.ahead hfound
  · intro other found hfound hopen
    by_cases hsame : other = handle
    · subst hsame
      rw [hself] at hfound
      cases hfound
      rw [hcursor]
      exact hinside hopen
    · rw [(hother other hsame).1] at hfound
      rw [(hother other hsame).2]
      exact h.inside hfound hopen

/-- A new row is no new reader. -/
theorem Agrees.answered_returnNew (h : machine.Agrees) (row : RowState) :
    Follows (machine.answered (machine.memory.returnNew (.row row)))
      (machine.memory.returnNew (.row row)) := by
  refine h.answered fun hreader ↦ ?_
  rcases Memory.object?_pin_or hreader with hold | hnew
  · exact hold
  · cases hnew

theorem Agrees.answered_returnAll (h : machine.Agrees) (schema : Schema) (rows : List Row) :
    Follows (machine.answered
        (machine.memory.returnAll (rows.map fun row ↦ .row ⟨schema, row⟩)))
      (machine.memory.returnAll (rows.map fun row ↦ .row ⟨schema, row⟩)) := by
  refine h.answered fun hreader ↦ ?_
  rcases Memory.object?_pinAll_or hreader with hold | hnew
  · exact hold
  · simp at hnew

theorem Agrees.follows_hasNextRow (h : machine.Agrees) :
    Follows (machine.hasNextRow handle) (Memory.hasNextRow handle machine.memory) := by
  unfold hasNextRow Memory.hasNextRow
  cases hreader : machine.memory.openReaderOf handle "hasNext" with
  | error error => exact h.follows_self _ _
  | ok reader =>
    obtain ⟨hobject, -⟩ := Memory.openReaderOf_eq_ok_iff.mp hreader
    have hsame : (!reader.remaining.isEmpty) =
        decide ((machine.cursors handle).position < (machine.cursors handle).rows.length) := by
      rw [h.ahead hobject, Cursor.ahead, Bool.eq_iff_iff]
      simp
    simp only [Except.map, hsame]
    exact h.follows_self _ _

theorem Agrees.follows_readRow (h : machine.Agrees) :
    Follows (machine.readRow handle) (Memory.readRow handle machine.memory) := by
  unfold readRow Memory.readRow
  cases hreader : machine.memory.openReaderOf handle "readNextCarbonRow" with
  | error error => exact h.follows_self _ _
  | ok reader =>
    obtain ⟨hobject, hopen⟩ := Memory.openReaderOf_eq_ok_iff.mp hreader
    have hahead := h.ahead hobject
    dsimp only
    cases hrow : (machine.cursors handle).rows[(machine.cursors handle).position]? with
    | none =>
      rw [hahead, Cursor.ahead_of_getElem?_eq_none hrow]
      exact h.follows_self _ _
    | some row =>
      rw [hahead, Cursor.ahead_of_getElem?_eq_some hrow]
      have hinside := (List.getElem?_eq_some_iff.mp hrow).1
      have hmoved := h.move reader ((machine.cursors handle).advance 1) hobject fun _ ↦ hinside
      exact hmoved.answered_returnNew ⟨reader.schema, row⟩

theorem Agrees.follows_readRows (h : machine.Agrees) :
    Follows (machine.readRows handle arguments)
      (Memory.readRows handle arguments machine.memory) := by
  unfold readRows Memory.readRows
  cases Argument.intAt arguments 0 "readNextBatchRow" with
  | error error => exact h.follows_self _ _
  | ok size =>
    dsimp only
    by_cases hsize : size ≤ 0
    · rw [if_pos hsize, if_pos hsize]
      exact h.follows_self _ _
    rw [if_neg hsize, if_neg hsize]
    cases hreader : machine.memory.openReaderOf handle "readNextBatchRow" with
    | error error => exact h.follows_self _ _
    | ok reader =>
      obtain ⟨hobject, hopen⟩ := Memory.openReaderOf_eq_ok_iff.mp hreader
      have hinside := h.inside hobject hopen
      dsimp only
      rw [Cursor.left?_of_le hinside, h.ahead hobject]
      generalize hcursor : machine.cursors handle = cursor at hinside ⊢
      dsimp only
      by_cases hlast : cursor.ahead = []
      · rw [hlast]
        exact h.follows_self _ _
      have hcount := Nat.min_le_left cursor.ahead.length size.toInt.toNat
      rw [if_neg (mt List.length_eq_zero_iff.mp hlast), if_neg (by simpa using hlast),
        Cursor.slice?_of_le hinside hcount, Cursor.take_ahead, Cursor.drop_ahead]
      have hmoved := h.move reader (cursor.advance (min cursor.ahead.length size.toInt.toNat))
        hobject fun _ ↦ Cursor.advance_inside hinside hcount
      exact hmoved.answered_returnAll reader.schema (cursor.ahead.take size.toInt.toNat)

theorem Agrees.follows_closeReader (h : machine.Agrees) :
    Follows (machine.closeReader handle) (Memory.closeReader handle machine.memory) := by
  unfold closeReader Memory.closeReader
  cases hreader : machine.memory.reader handle "close" with
  | error error => exact h.follows_self _ _
  | ok reader =>
    have hobject := Memory.reader_eq_ok_iff.mp hreader
    have hmoved := h.move { reader with closed := true } (machine.cursors handle).clear hobject
      (by rintro ⟨⟩)
    have hnone : (machine.cursors handle).clear.ahead = [] := List.drop_nil
    refine ⟨rfl, ?_, hmoved⟩
    show machine.memory.put handle (.reader ⟨_, (machine.cursors handle).clear.ahead, _⟩) = _
    rw [hnone]
    rfl

end Indexed

/-! ### Operations -/

/-- Operations that make readers or move them. -/
def Operation.movesReaders : Operation → Bool
  | .buildReader | .readRow | .readRows | .closeReader => true
  | _ => false

namespace Memory

variable {before after : Memory} {operation : Operation} {outcome : Outcome Returned}
  {handle other : Nat} {reader : ReaderState}

/-- Other operations leave no readers but those that were there. -/
theorem Effect.reader_before (heffect : Effect operation handle before outcome after)
    (hmoves : operation.movesReaders = false)
    (hreader : after.object? other = some (.reader reader)) :
    before.object? other = some (.reader reader) := by
  have hput : ∀ {new : ManagedObject}, (∀ state, new ≠ .reader state) →
      (before.put handle new).object? other = some (.reader reader) →
        before.object? other = some (.reader reader) := by
    intro new hnew hfound
    rcases object?_put_or hfound with hold | hsame
    · exact hold
    · exact absurd hsame.symm (hnew reader)
  have hpin : ∀ {store : Store} {new : ManagedObject}, (∀ state, new ≠ .reader state) →
      (({ before with store := store } : Memory).pin new).object? other = some (.reader reader) →
        before.object? other = some (.reader reader) := by
    intro store new hnew hfound
    rcases object?_pin_or hfound with hold | hsame
    · exact hold
    · exact absurd hsame.symm (hnew reader)
  have hnone : ∀ {new : ManagedObject}, new.holdsRows = false → ∀ state, new ≠ .reader state := by
    rintro _ hrows state rfl
    cases hrows
  cases heffect with
  | refused | answered | unbuilt | broken => exact hreader
  | made object _ hrows => exact hpin (hnone hrows) hreader
  | described _ object _ _ hrows => exact hpin (hnone hrows) hreader
  | describedAll _ objects _ _ hrows =>
    rcases object?_pinAll_or hreader with hold | hnew
    · exact hold
    · cases hrows _ hnew
  | settled old new _ _ hrows => exact hput (hnone hrows.2) hreader
  | opened _ _ _ _ hoperation | tookRow _ _ _ _ _ _ hoperation | tookRows _ _ _ _ hoperation
  | closedReader hoperation =>
    subst hoperation
    cases hmoves
  | began plan _ writer => exact hpin (by simp) hreader
  | wrote | closedEmpty | committed => exact hput (by simp) hreader

/-- Building a reader leaves the readers that were there, and makes one at most. -/
theorem Effect.reader_before_of_ne (heffect : Effect .buildReader handle before outcome after)
    (hne : other ≠ before.nextHandle) (hreader : after.object? other = some (.reader reader)) :
    before.object? other = some (.reader reader) := by
  cases heffect with
  | refused | answered | unbuilt | broken => exact hreader
  | made _ hkind => exact absurd rfl hkind
  | described _ _ _ _ _ hoperation => exact absurd hoperation (by simp)
  | settled _ _ _ _ _ _ _ hsettles => cases hsettles
  | opened plan =>
    have hlt := lt_nextHandle_of_object? hreader
    rw [nextHandle_pin] at hlt
    simp only [nextHandle_store] at hlt
    have hbefore : other < before.nextHandle := by omega
    have hkept := @object?_pin_of_lt { before with
      store := before.store.receive plan.path plan.options.entries } other
      (by simpa only [nextHandle_store] using hbefore)
    exact (hkept _).symm.trans hreader
  | describedAll _ _ _ _ _ hoperation | tookRow _ _ _ _ _ _ hoperation
  | tookRows _ _ _ _ hoperation | closedReader hoperation | began _ _ _ _ hoperation
  | wrote _ _ _ _ _ _ hoperation | closedEmpty _ _ _ _ hoperation
  | committed _ _ _ _ hoperation => cases hoperation

end Memory

namespace Indexed

variable {machine : Indexed} {handle : Nat} {arguments : List Argument} {operation : Operation}

theorem Agrees.follows_buildReader (h : machine.Agrees) :
    Follows (machine.buildReader handle) (Memory.buildReader handle machine.memory) := by
  have heffect := @Memory.hasEffect_buildReader handle machine.memory
  unfold buildReader
  generalize Memory.buildReader handle machine.memory = reply at heffect ⊢
  dsimp only
  split
  · rename_i reader hnew
    have hother : ∀ {other : Nat} {found : ReaderState}, other ≠ machine.memory.nextHandle →
        reply.state.object? other = some (.reader found) →
          machine.memory.object? other = some (.reader found) :=
      fun hne hfound ↦ heffect.reader_before_of_ne hne hfound
    refine ⟨rfl, rfl, ⟨?_, ?_⟩⟩
    · intro other found hfound
      by_cases hsame : other = machine.memory.nextHandle
      · subst hsame
        cases hnew.symm.trans hfound
        simp [Cursor.ahead]
      · simpa [hsame] using h.ahead (hother hsame hfound)
    · intro other found hfound hopen
      by_cases hsame : other = machine.memory.nextHandle
      · simp [hsame]
      · simpa [hsame] using h.inside (hother hsame hfound) hopen
  · rename_i hnew
    refine h.answered fun {other} {reader} hreader ↦ ?_
    by_cases hother : other = machine.memory.nextHandle
    · subst hother
      exact absurd hreader (hnew reader)
    · exact heffect.reader_before_of_ne hother hreader

/-- Closing a writer moves no cursor, and does not break off if its rows can be sorted. -/
theorem Agrees.follows_closeWriter (h : machine.Agrees)
    (hsortable : ∀ writer, machine.memory.object? handle = some (.writer writer) →
      writer.closed = false → Row.Sortable writer.sortPositions writer.newestFirst) :
    Follows (machine.closeWriter handle) (Memory.closeWriter handle machine.memory) := by
  have hanswered : Follows (machine.answered (Memory.closeWriter handle machine.memory))
      (Memory.closeWriter handle machine.memory) :=
    h.answered fun hreader ↦ Memory.hasEffect_closeWriter.reader_before rfl hreader
  unfold closeWriter
  cases hwriter : machine.memory.writer handle "close" with
  | error error =>
    rw [Memory.closeWriter, hwriter]
    exact h.follows_self _ _
  | ok writer =>
    have hobject := Memory.writer_eq_ok_iff.mp hwriter
    dsimp only
    rw [if_neg fun hunsafe ↦ hunsafe.2 (hsortable writer hobject hunsafe.1)]
    exact hanswered

/-- The rows of a writer that an operation closes can be sorted. -/
def Sorts (memory : Memory) (operation : Operation) (handle : Handle) : Prop :=
  operation = .closeWriter → ∀ writer, memory.object? handle = some (.writer writer) →
    writer.closed = false → Row.Sortable writer.sortPositions writer.newestFirst

theorem Agrees.follows_perform (h : machine.Agrees)
    (hsorts : Sorts machine.memory operation handle) :
    Follows (machine.perform operation handle arguments)
      (machine.memory.perform operation handle arguments) := by
  have heffect := Memory.effect_perform operation handle arguments machine.memory
  cases operation
  case buildReader => exact h.follows_buildReader
  case hasNextRow => exact h.follows_hasNextRow
  case readRow => exact h.follows_readRow
  case readRows => exact h.follows_readRows
  case closeReader => exact h.follows_closeReader
  case closeWriter => exact h.follows_closeWriter (hsorts rfl)
  all_goals exact h.answered fun hreader ↦ heffect.reader_before rfl hreader

/-! ### Calls -/

/-- Calls that are not made on an object leave no readers but those that were there. -/
theorem reader_before_reply {memory : Memory} {call : Call} {other : Nat} {reader : ReaderState}
    (hcall : ∀ target method, ¬ call.IsInvocation .onObject target method)
    (hreader : (memory.reply call).state.object? other = some (.reader reader)) :
    memory.object? other = some (.reader reader) := by
  refine @Memory.reply_keeps_of memory (fun after ↦ after.object? other = some (.reader reader) →
    memory.object? other = some (.reader reader)) call ?_ ?_ hreader
  · intro kind target method arguments hinvokes hfound
    rcases Memory.invoke_cases kind target method arguments memory with
      ⟨error, -, hstate⟩ | ⟨operation, rfl, hkind, heffect⟩
    · rwa [hstate] at hfound
    · refine heffect.reader_before ?_ hfound
      by_contra hmoves
      have honObject : operation.method.kind = .onObject := by
        cases operation <;> first | rfl | exact absurd rfl hmoves
      rw [← hkind, honObject] at hinvokes
      exact hcall _ _ hinvokes
  · exact fun after _ hloses ↦ hloses other _

/-- A call on an object that is invoked in another way, or after the shutdown, or with a method that
the library does not have, changes nothing. -/
theorem state_reply_onObject {memory : Memory} {method : Method}
    (h : ∀ operation, Operation.ofMethod? method = some operation →
      ¬ (memory.isShutDown = false ∧ method.kind = .onObject)) :
    (memory.reply (.onObject handle method arguments)).state = memory := by
  show (memory.invoke .onObject (some handle) method arguments).state = memory
  unfold Memory.invoke
  by_cases hshut : memory.isShutDown = true
  · rw [if_pos hshut]
    rfl
  rw [if_neg hshut]
  by_cases hkind : method.kind = .onObject
  · rw [if_neg (not_not.mpr hkind)]
    cases hoperation : Operation.ofMethod? method with
    | none => rfl
    | some operation => exact absurd ⟨Bool.not_eq_true _ ▸ hshut, hkind⟩ (h operation hoperation)
  · rw [if_pos hkind]
    rfl

/-- The rows of a writer can be sorted when a call closes it. -/
def SortsWhenClosing (memory : Memory) (call : Call) : Prop :=
  ∀ handle arguments writer, call = .onObject handle Operation.closeWriter.method arguments →
    memory.object? handle = some (.writer writer) → writer.closed = false →
      Row.Sortable writer.sortPositions writer.newestFirst

/-- A call that closes no writer whose rows cannot be sorted is answered as by the backend. -/
theorem Agrees.follows_reply (h : machine.Agrees) {call : Call}
    (hsorts : SortsWhenClosing machine.memory call) :
    Follows (machine.reply call) (machine.memory.reply call) := by
  cases call with
  | onObject handle method arguments =>
    have hrefused : (∀ operation, Operation.ofMethod? method = some operation →
        ¬ (machine.memory.isShutDown = false ∧ method.kind = .onObject)) →
          Follows (machine.answered (machine.memory.reply (.onObject handle method arguments)))
            (machine.memory.reply (.onObject handle method arguments)) := by
      refine fun hnone ↦ h.answered fun hreader ↦ ?_
      rwa [state_reply_onObject hnone] at hreader
    unfold reply
    dsimp only
    cases hoperation : Operation.ofMethod? method with
    | none =>
      refine hrefused fun operation hsome ↦ ?_
      cases hoperation.symm.trans hsome
    | some operation =>
      obtain rfl := Operation.method_of_ofMethod? hoperation
      dsimp only
      split
      · rename_i haccepted
        obtain ⟨hrunning, hkind⟩ := haccepted
        have hcounted : ({ machine with memory := machine.memory.counting operation.method } :
            Indexed).Agrees := ⟨h.ahead, h.inside⟩
        have hfollows := @Agrees.follows_perform _ handle arguments operation hcounted (by
          rintro rfl writer hwriter hopen
          exact hsorts handle arguments writer rfl hwriter hopen)
        obtain ⟨event, hinvoke⟩ :=
          Memory.invoke_method hrunning operation (some handle) arguments
        rw [hkind] at hinvoke
        have hreply : machine.memory.reply (.onObject handle operation.method arguments) = _ :=
          hinvoke
        rw [hreply]
        exact ⟨hfollows.outcome, hfollows.memory, hfollows.agrees⟩
      · rename_i hnot
        exact hrefused fun _ _ ↦ hnot
  | _ => exact h.answered fun hreader ↦ reader_before_reply (by simp [Call.IsInvocation]) hreader

end Indexed

end ColumnStore
