import ColumnStore.Proofs.Reader.Rows
import ColumnStore.Proofs.Scenario.Printing
import ColumnStore.Proofs.Store.Consistency
import ColumnStore.Proofs.Value.Retelling
import ColumnStore.Scenario.Benchmark

/-!
# Benchmarks see the same table

A table is timed row by row or batch by batch. Both loops count the rows, and where a line is due
after so many rows, both print it with the first fields of the row they have come to. Their lines
differ in the times and in what the times are of, but not in the rows: however large the batches
are, the numbers are those that the interval divides, and the fields of a row are shown as the same
text.
-/

set_option autoImplicit false

namespace ColumnStore

namespace Scenario

/-- The line after a row that was read alone. -/
def rowLine (every number elapsed : Nat) (shown : String) : String :=
  toString number ++ ": time is " ++ seconds elapsed ++ " s, speed is "
    ++ rate (max every 1) elapsed ++ " records/s  " ++ shown

/-- The line after a row that was read in a batch. -/
def batchLine (every number elapsed waited fetching : Nat) (shown : String) : String :=
  toString number ++ ": time is " ++ seconds elapsed ++ " s, speed is "
    ++ rate (max every 1) elapsed ++ " records/s, hasNext time is "
    ++ seconds waited ++ " s,readNextBatchRow time is " ++ seconds fetching ++ " s " ++ shown

/-- What is done about a row that was read alone: if a line is due, it is printed, and a new stretch
of rows starts. -/
def timeRow {m : Type → Type} [Monad m] {σ : Type} (row : HeldRow) (every number window : Nat) :
    Scenario m σ Nat := do
  if isDue every number then
    let elapsed := (← now) - window
    let shown ← act (preview row 6)
    line (rowLine every number elapsed shown)
    now
  else pure window

/-- The text is the line after a row that was read alone, with what is shown of the row. -/
def IsRowLine (every : Nat) (shown : Nat → String) (number : Nat) (text : String) : Prop :=
  ∃ elapsed, text = rowLine every number elapsed (shown number) ++ "\n"

/-- The text is the line after a row that was read in a batch, with what is shown of the row. -/
def IsBatchLine (every : Nat) (shown : Nat → String) (number : Nat) (text : String) : Prop :=
  ∃ elapsed waited fetching,
    text = batchLine every number elapsed waited fetching (shown number) ++ "\n"

/-- What a benchmark prints: a title, the time of the build, a line for each of some numbers, and a
summary. -/
def Reports (title : String) (isLine : Nat → String → Prop) (numbers : List Nat) (total : Nat)
    (texts : List String) : Prop :=
  ∃ built read lines, List.Forall₂ isLine numbers lines ∧
    texts = (title ++ "\n") :: (buildLine built ++ "\n") ::
      (lines ++ [summaryLine total built read ++ "\n"])

/-! ### Numbers of rows -/

/-- The numbers after which a line is due, among those of so many rows that come after the first
`count`. -/
def dueAfter (every count rows : Nat) : List Nat :=
  (List.range' (count + 1) rows).filter (isDue every)

theorem isDue_iff {every number : Nat} :
    isDue every number = true ↔ 1 < number ∧ max every 1 ∣ number := by
  simp [isDue, Nat.dvd_iff_mod_eq_zero]

theorem dueAfter_add (every count first rest : Nat) :
    dueAfter every count (first + rest) =
      dueAfter every count first ++ dueAfter every (count + first) rest := by
  unfold dueAfter
  rw [← List.filter_append, Nat.add_right_comm count first 1, List.range'_append_1]

theorem dueAfter_succ (every count rows : Nat) :
    dueAfter every count (rows + 1) =
      [count + 1].filter (isDue every) ++ dueAfter every (count + 1) rows := by
  rw [Nat.add_comm rows 1, dueAfter_add]
  rfl

theorem mem_dueAfter_zero {every total number : Nat} :
    number ∈ dueAfter every 0 total ↔ 1 < number ∧ number ≤ total ∧ max every 1 ∣ number := by
  rw [dueAfter, List.mem_filter, List.mem_range'_1, isDue_iff]
  omega

theorem pairwise_dueAfter (every count rows : Nat) :
    (dueAfter every count rows).Pairwise (· < ·) :=
  List.Pairwise.filter _ List.pairwise_lt_range'

end Scenario

namespace Memory

open Scenario

variable {τ : Type} {surroundings : Surroundings (StateM τ)} {memory before : Memory}
  {schema : Schema} {row : Row} {rows rest : List Row} {shown : Nat → String} {reader : Reader}
  {every : Nat}

/-! ### The first fields of a row -/

/-- The first fields of a row, as they are told, are printed as this text. -/
def previewText (told : Row) : String :=
  Text.joinWith "\t" ((told.take 6).map Value.printed)

/-- Wherever the row is held, its first fields are printed as the text. -/
def PrintedAs (schema : Schema) (row : Row) (text : String) : Prop :=
  ∀ (memory : Memory) (handle : Nat), memory.Holds handle (.row ⟨schema, row⟩) →
    Looks (preview ⟨handle⟩ 6) memory (.ok text)

theorem printedAs_of_retells {told : Row} (hretells : schema.Retells row told)
    (hwidth : row.length ≤ Accessor.greatestOrdinal) : PrintedAs schema row (previewText told) := by
  intro memory handle h
  refine (looks_length h hwidth).bind fun after hafter ↦ ?_
  have hcount : 0 + min row.length 6 ≤ row.length := by omega
  have hvalues := looks_valuesFrom hretells hwidth (min row.length 6) (hafter.holds h) hcount
  have hfirst : (told.drop 0).take (min row.length 6) = told.take 6 := by
    rw [List.drop_zero, ← hretells.length, Nat.min_comm, List.take_eq_take_iff]
    omega
  rw [hfirst] at hvalues
  exact hvalues.bind fun _ _ ↦ looks_pure (previewText told)

/-- What is shown of each of some rows, which come after the first `count`. -/
def ShownAs (schema : Schema) (shown : Nat → String) (count : Nat) (rows : List Row) : Prop :=
  ∀ place row, rows[place]? = some row → PrintedAs schema row (shown (count + place + 1))

theorem ShownAs.head {count : Nat} (h : ShownAs schema shown count (row :: rest)) :
    PrintedAs schema row (shown (count + 1)) :=
  h 0 row rfl

theorem ShownAs.tail {count : Nat} (h : ShownAs schema shown count (row :: rest)) :
    ShownAs schema shown (count + 1) rest := by
  intro place other hother
  have hshown := h (place + 1) other hother
  rwa [← Nat.add_assoc, Nat.add_right_comm count place 1] at hshown

theorem ShownAs.append {count : Nat} (h : ShownAs schema shown count (rows ++ rest)) :
    ShownAs schema shown count rows ∧ ShownAs schema shown (count + rows.length) rest := by
  refine ⟨fun place other hother ↦ h place other ?_, fun place other hother ↦ ?_⟩
  · rw [List.getElem?_append_left (List.getElem?_eq_some_iff.mp hother).1]
    exact hother
  · have hplace : (rows ++ rest)[rows.length + place]? = some other := by
      rw [List.getElem?_append_right (Nat.le_add_right _ _), Nat.add_sub_cancel_left]
      exact hother
    have hshown := h (rows.length + place) other hplace
    rwa [← Nat.add_assoc] at hshown

/-! ### Row by row -/

/-- After a row a line is printed if one is due, and the row is given back. -/
theorem prints_timeRow {handle number : Nat}
    (h : before.Lends handle (.row ⟨schema, row⟩) memory) (hwrites : surroundings.Writes)
    (hshown : PrintedAs schema row (shown number)) (window : Nat) :
    Prints backend surroundings
      (afterwards (HeldRow.drop ⟨handle⟩) (timeRow ⟨handle⟩ every number window)) memory
      fun _ after texts ↦ before.Restores after ∧
        List.Forall₂ (IsRowLine every shown) ([number].filter (isDue every)) texts := by
  have hline : Prints backend surroundings (timeRow ⟨handle⟩ every number window) memory
      fun _ after texts ↦ memory.Recounts after ∧
        List.Forall₂ (IsRowLine every shown) ([number].filter (isDue every)) texts := by
    unfold timeRow
    by_cases hdue : isDue every number = true
    · rw [if_pos hdue, List.filter_cons_of_pos hdue]
      refine prints_now_bind fun time ↦ prints_act_bind (hshown memory handle h.held) ?_
      rintro _ after ⟨rfl, hafter⟩
      refine ⟨_, rfl, prints_line_bind hwrites (prints_now fun _ ↦ ⟨hafter, ?_⟩)⟩
      exact .cons ⟨_, rfl⟩ .nil
    · rw [if_neg hdue, List.filter_cons_of_neg hdue]
      exact prints_pure ⟨.refl memory, .nil⟩
  refine hline.afterwards fun _ state texts hstate ↦ ?_
  exact (h.restores hstate.1.restores).ends_discard.mono
    fun _ _ hdropped ↦ ⟨hdropped.1, hdropped.2, hstate.2⟩

/-- The rows that are left are all counted, and after each of them a line is printed if one is
due. -/
theorem prints_timeRows {count : Nat}
    (h : before.Lends reader.handle (.reader ⟨schema, rest, false⟩) memory)
    (hopen : reader.closed = false) (hwrites : surroundings.Writes)
    (hshown : ShownAs schema shown count rest) {limit : Nat} (hlimit : rest.length ≤ limit)
    (window : Nat) :
    Prints backend surroundings (timeRows reader every limit count window) memory
      fun total after texts ↦ total = count + rest.length ∧
        before.Lends reader.handle (.reader ⟨schema, [], false⟩) after ∧
        List.Forall₂ (IsRowLine every shown) (dueAfter every count rest.length) texts := by
  induction limit generalizing memory rest count window with
  | zero =>
    obtain rfl := List.length_eq_zero_iff.mp (Nat.le_zero.mp hlimit)
    exact prints_pure ⟨rfl, h, .nil⟩
  | succ limit ih =>
    refine prints_act_bind (h.ends_hasNext hopen) ?_
    rintro _ asked ⟨rfl, hasked⟩
    cases rest with
    | nil => exact ⟨_, rfl, prints_pure ⟨rfl, hasked, .nil⟩⟩
    | cons row rest =>
      refine ⟨_, rfl, prints_act_bind (hasked.ends_next hopen) ?_⟩
      rintro _ _ ⟨middle, rfl, hmiddle, rfl⟩
      have hrow := lends_pin hmiddle.held.running (.row ⟨schema, row⟩)
      refine ⟨_, rfl, (prints_timeRow hrow hwrites hshown.head window).bind ?_⟩
      rintro window after texts ⟨hafter, hline⟩
      have hrest := ih (hmiddle.restores hafter) hshown.tail (Nat.le_of_succ_le_succ hlimit) window
      refine hrest.mono ?_
      rintro _ last more ⟨rfl, hlast, hmore⟩
      refine ⟨?_, hlast, ?_⟩
      · rw [List.length_cons, Nat.add_right_comm, Nat.add_assoc]
      · rw [List.length_cons, dueAfter_succ]
        exact List.rel_append hline hmore

/-! ### Batch by batch -/

/-- After each row of a batch a line is printed if one is due. -/
theorem prints_timeBatch {handles : List HeldRow} {count : Nat}
    (h : List.Forall₂ (fun held row ↦ memory.Holds held.handle (.row ⟨schema, row⟩)) handles rows)
    (hwrites : surroundings.Writes) (hshown : ShownAs schema shown count rows)
    (fetch fetched window : Nat) :
    Prints backend surroundings (timeBatch every fetch fetched handles count window) memory
      fun result after texts ↦ result.1 = count + rows.length ∧ memory.Recounts after ∧
        List.Forall₂ (IsBatchLine every shown) (dueAfter every count rows.length) texts := by
  induction handles generalizing memory rows count window with
  | nil =>
    cases h
    exact prints_pure ⟨rfl, .refl memory, .nil⟩
  | cons held handles ih =>
    cases h with
    | @cons _ row _ rest hheld hrest =>
      -- Whether or not a line is printed for the first row, the others are gone through from there.
      have hgo : ∀ {after : Memory} {texts : List String} (window : Nat), memory.Recounts after →
          List.Forall₂ (IsBatchLine every shown) ([count + 1].filter (isDue every)) texts →
          Prints backend surroundings
            (timeBatch every fetch fetched handles (count + 1) window) after
            fun result last more ↦ result.1 = count + (row :: rest).length ∧ memory.Recounts last ∧
              List.Forall₂ (IsBatchLine every shown) (dueAfter every count (row :: rest).length)
                (texts ++ more) := by
        intro after texts window hafter hline
        have hheldAfter := hrest.imp fun _ _ hholds ↦ hafter.holds hholds
        refine (ih hheldAfter hshown.tail window).mono ?_
        rintro result last more ⟨htotal, hlast, hmore⟩
        refine ⟨?_, hafter.trans hlast, ?_⟩
        · rw [htotal, List.length_cons, Nat.add_right_comm, Nat.add_assoc]
        · rw [List.length_cons, dueAfter_succ]
          exact List.rel_append hline hmore
      unfold timeBatch
      by_cases hdue : isDue every (count + 1) = true
      · rw [List.filter_cons_of_pos hdue] at hgo
        rw [if_pos hdue]
        refine prints_now_bind fun time ↦ prints_act_bind (hshown.head memory _ hheld) ?_
        rintro _ after ⟨rfl, hafter⟩
        refine ⟨_, rfl, prints_line_bind hwrites (prints_now_bind fun later ↦ ?_)⟩
        exact hgo later hafter (.cons ⟨_, _, _, rfl⟩ .nil)
      · rw [List.filter_cons_of_neg hdue] at hgo
        rw [if_neg hdue]
        exact hgo window (.refl memory) .nil

/-- The rows of a batch are all given back. -/
theorem prints_heldBatch {count : Nat} (hrunning : before.isShutDown = false)
    (hwrites : surroundings.Writes) (hshown : ShownAs schema shown count rows)
    (fetch fetched window : Nat) :
    Prints backend surroundings
      (afterwards
        (((List.range' before.nextHandle rows.length).map HeldRow.mk).forM HeldRow.drop)
        (timeBatch every fetch fetched
          ((List.range' before.nextHandle rows.length).map HeldRow.mk) count window))
      (before.pinAll (rows.map fun row ↦ .row ⟨schema, row⟩))
      fun result after texts ↦ result.1 = count + rows.length ∧ before.Restores after ∧
        List.Forall₂ (IsBatchLine every shown) (dueAfter every count rows.length) texts := by
  have hheld := forall₂_holds_pinAll hrunning
    (rows.map fun row ↦ ManagedObject.row ⟨schema, row⟩)
  rw [List.length_map, List.forall₂_map_right_iff] at hheld
  refine (prints_timeBatch (List.forall₂_map_left_iff.mpr hheld) hwrites hshown fetch fetched
    window).afterwards ?_
  rintro result after texts ⟨htotal, hafter, hlines⟩
  have hdrops : ((List.range' before.nextHandle rows.length).map HeldRow.mk).forM HeldRow.drop =
      (Client.discardAll (List.range' before.nextHandle rows.length) : Client Memory Unit) :=
    List.forM_map
  rw [hdrops]
  have hdiscard := ends_discardAll hrunning hafter.restores
  rw [List.length_map] at hdiscard
  exact hdiscard.mono fun _ _ hdone ↦ ⟨hdone.1, htotal, hdone.2, hlines⟩

/-- The rows that are left are all counted, batch by batch, and after each of them a line is printed
if one is due. -/
theorem prints_timeBatches {count size : Nat}
    (h : before.Lends reader.handle (.reader ⟨schema, rest, false⟩) memory)
    (hopen : reader.closed = false) (hwrites : surroundings.Writes)
    (hsize : 0 < size ∧ size ≤ greatestBatch) (hshown : ShownAs schema shown count rest)
    {limit : Nat} (hlimit : rest.length ≤ limit) (window : Nat) :
    Prints backend surroundings (timeBatches reader size every limit count window) memory
      fun total after texts ↦ total = count + rest.length ∧
        before.Lends reader.handle (.reader ⟨schema, [], false⟩) after ∧
        List.Forall₂ (IsBatchLine every shown) (dueAfter every count rest.length) texts := by
  induction limit generalizing memory rest count window with
  | zero =>
    obtain rfl := List.length_eq_zero_iff.mp (Nat.le_zero.mp hlimit)
    exact prints_pure ⟨rfl, h, .nil⟩
  | succ limit ih =>
    refine prints_act_bind (h.ends_hasNext hopen) ?_
    rintro _ asked ⟨rfl, hasked⟩
    by_cases hnone : rest = []
    · subst hnone
      exact ⟨_, rfl, prints_pure ⟨rfl, hasked, .nil⟩⟩
    · refine ⟨!rest.isEmpty, rfl, ?_⟩
      rw [if_pos (by simpa using hnone)]
      obtain ⟨hbatch, hothers⟩ : ShownAs schema shown count (rest.take size) ∧
          ShownAs schema shown (count + (rest.take size).length) (rest.drop size) :=
        ShownAs.append (by rwa [List.take_append_drop])
      have hlength : (rest.take size).length + (rest.drop size).length = rest.length := by
        rw [← List.length_append, List.take_append_drop]
      have hshorter : (rest.drop size).length ≤ limit := by
        have hlong := List.length_pos_iff.mpr hnone
        rw [List.length_drop]
        omega
      refine prints_now_bind fun fetch ↦ ?_
      refine prints_act_bind (hasked.ends_nextBatch hopen hnone hsize) ?_
      rintro _ _ ⟨middle, rfl, hmiddle, rfl⟩
      refine ⟨_, rfl, prints_now_bind fun fetched ↦ ?_⟩
      refine (prints_heldBatch hmiddle.held.running hwrites hbatch fetch fetched window).bind ?_
      rintro ⟨_, window⟩ after texts ⟨rfl, hafter, hlines⟩
      refine (ih (hmiddle.restores hafter) hothers hshorter window).mono ?_
      rintro _ last more ⟨rfl, hlast, hmore⟩
      refine ⟨?_, hlast, ?_⟩
      · rw [Nat.add_assoc, hlength]
      · rw [← hlength, dueAfter_add]
        exact List.rel_append hlines hmore

/-! ### Whole benchmarks -/

/-- A reader is closed and given up when it has been read from. -/
theorem prints_reading {α : Type} {body : Scenario (StateM (τ × List String)) Memory α}
    {tells : α → List String → Prop} (hopen : reader.closed = false)
    (h : Prints backend surroundings body memory fun a after texts ↦
      before.Lends reader.handle (.reader ⟨schema, rest, false⟩) after ∧ tells a texts) :
    Prints backend surroundings (reading reader body pure) memory fun a after texts ↦
      before.Restores after ∧ tells a texts := by
  have hclosed : Prints backend surroundings (do
      let result ← body
      pure (result, ← act reader.close)) memory fun result after texts ↦
        result.2 = { reader with closed := true } ∧
          before.Lends reader.handle (.reader ⟨schema, [], true⟩) after ∧ tells result.1 texts := by
    refine h.bind fun a read texts hread ↦ ?_
    refine prints_act_bind (hread.1.ends_close hopen) ?_
    rintro _ closed ⟨rfl, hlent⟩
    exact ⟨_, rfl, prints_pure ⟨rfl, hlent, by simpa using hread.2⟩⟩
  unfold reading
  refine hclosed.cleaning.bind ?_
  rintro ⟨a, _⟩ after texts ⟨rfl, hlent, htells⟩
  have hdone : Prints backend surroundings (pure a : Scenario _ Memory α) after
      fun result state more ↦ result = a ∧ state = after ∧ more = [] := prints_pure ⟨rfl, rfl, rfl⟩
  refine hdone.afterwards ?_
  rintro _ _ _ ⟨rfl, rfl, rfl⟩
  exact hlent.ends_discard.mono fun _ _ hdropped ↦
    ⟨hdropped.1, hdropped.2, by rwa [List.append_nil]⟩

/-- A benchmark under its title, if the table is opened and read to its end with a line for each of
some numbers. -/
theorem prints_titled {title : String} {build : Client Memory Reader}
    {read : Reader → Nat → Scenario (StateM (τ × List String)) Memory Nat} {event : Nat → Event}
    {isLine : Nat → String → Prop} {numbers : List Nat} {total : Nat}
    (hwrites : surroundings.Writes)
    (hbuild : Client.Ends backend build before fun result after ↦ ∃ reader,
      result = .ok reader ∧ reader.closed = false ∧
        before.Lends reader.handle (.reader ⟨schema, rows, false⟩) after)
    (hread : ∀ (reader : Reader) (opened : Memory) (start : Nat), reader.closed = false →
      before.Lends reader.handle (.reader ⟨schema, rows, false⟩) opened →
      Prints backend surroundings (read reader start) opened fun count after texts ↦
        count = total ∧ before.Lends reader.handle (.reader ⟨schema, [], false⟩) after ∧
          List.Forall₂ isLine numbers texts) :
    Prints backend surroundings (do
      line title
      let count ← benchmark build read
      act (Client.report (event count))
      pure count) before fun count after texts ↦
        count = total ∧ before.Restores after ∧ Reports title isLine numbers total texts := by
  have hbenchmark : Prints backend surroundings (benchmark build read) before
      fun count after texts ↦ before.Restores after ∧ count = total ∧ ∃ built spent lines,
        List.Forall₂ isLine numbers lines ∧ texts = (buildLine built ++ "\n") ::
          (lines ++ [summaryLine total built spent ++ "\n"]) := by
    refine prints_now_bind fun start ↦ prints_act_bind hbuild ?_
    rintro _ opened ⟨reader, rfl, hopen, hlent⟩
    refine ⟨reader, rfl, @prints_reading _ _ _ _ schema [] _ _ _ _ hopen ?_⟩
    refine prints_now_bind fun later ↦ prints_line_bind hwrites (prints_now_bind fun readStart ↦ ?_)
    refine (hread reader opened readStart hopen hlent).bind ?_
    rintro _ after lines ⟨rfl, hafter, hlines⟩
    refine prints_now_bind fun readEnd ↦ prints_line_bind hwrites (prints_pure ⟨hafter, rfl, ?_⟩)
    exact ⟨later - start, readEnd - readStart, lines, hlines, rfl⟩
  refine prints_line_bind hwrites (hbenchmark.bind ?_)
  rintro _ after texts ⟨hafter, rfl, built, spent, lines, hlines, rfl⟩
  refine prints_act_bind (Client.runs_report _) ?_
  rintro _ _ ⟨rfl, rfl⟩
  refine ⟨(), rfl, prints_pure ⟨rfl, hafter, built, spent, lines, hlines, ?_⟩⟩
  rw [List.append_nil]

/-- A table is timed row by row. -/
theorem prints_benchRows {path : String} (hrunning : before.isShutDown = false)
    (hlocal : isRemote path = false) (htable : before.store.table? path = some (schema, rows))
    (hwrites : surroundings.Writes) (hshown : ShownAs schema shown 0 rows)
    (hrows : rows.length ≤ Reader.everyRow) (options : Options) :
    Prints backend surroundings (benchRows path every options) before fun total after texts ↦
      total = rows.length ∧ before.Restores after ∧ Reports "\nTest next Row Performance:"
        (IsRowLine every shown) (dueAfter every 0 rows.length) rows.length texts := by
  refine prints_titled hwrites (ends_openReader hrunning hlocal htable options) ?_
  intro reader opened start hopen hlent
  have hread := @prints_timeRows _ _ _ _ _ _ _ _ every 0 hlent hopen hwrites hshown _ hrows start
  rwa [Nat.zero_add] at hread

/-- A table is timed in batches. -/
theorem prints_benchBatches {path : String} {size : Nat} (hrunning : before.isShutDown = false)
    (hlocal : isRemote path = false) (htable : before.store.table? path = some (schema, rows))
    (hsize : 0 < size ∧ size ≤ greatestBatch) (hwrites : surroundings.Writes)
    (hshown : ShownAs schema shown 0 rows) (hrows : rows.length ≤ Reader.everyRow)
    (options : Options) :
    Prints backend surroundings (benchBatches path size every options) before
      fun total after texts ↦ total = rows.length ∧ before.Restores after ∧
        Reports "\n\nTest next Batch Row Performance:" (IsBatchLine every shown)
          (dueAfter every 0 rows.length) rows.length texts := by
  have hbuild : Client.Ends backend (do
      let builder ← ReaderBuilder.forPath path none
      let builder ← builder.options options
      let builder ← builder.batchSize size
      builder.build) before fun result after ↦ ∃ reader, result = .ok reader ∧
        reader.closed = false ∧
          before.Lends reader.handle (.reader ⟨schema, rows, false⟩) after := by
    rw [← bind_assoc]
    refine (ends_planReader hrunning path options).bind_of_ok ?_
    rintro _ told ⟨builder, plan, rfl, -, rfl, hcolumns, hlent⟩
    refine ⟨builder, rfl, (hlent.ends_batchSize hsize).bind_of_ok ?_⟩
    rintro _ settled ⟨rfl, hsettled⟩
    exact ⟨_, rfl, Lends.ends_build hsettled hcolumns hlocal htable⟩
  refine prints_titled hwrites hbuild ?_
  intro reader opened start hopen hlent
  have hread := @prints_timeBatches _ _ _ _ _ _ _ _ every 0 size hlent hopen hwrites hsize hshown
    _ hrows start
  rwa [Nat.zero_add] at hread

/-- The rows of a table that was written with one schema can be told, and their first fields have
texts. -/
theorem exists_shown {store : Store} {path : String} (h : store.WrittenWith path schema) :
    ∃ shown : Nat → String, ∀ place row, (store.rows path)[place]? = some row → ∃ told,
      schema.Retells row told ∧ shown (place + 1) = previewText told := by
  obtain ⟨tolds, htolds⟩ := exists_forall₂ fun row hrow ↦
    (h.parsed row hrow).elim fun _ ↦ Schema.exists_retells_of_parsed?
  refine ⟨fun number ↦ previewText (tolds.getD (number - 1) []), fun place row hrow ↦ ?_⟩
  obtain ⟨told, htold, hretells⟩ := getElem?_of_forall₂ htolds hrow
  refine ⟨told, hretells, ?_⟩
  dsimp only
  rw [Nat.add_sub_cancel, List.getD_eq_getElem?_getD, htold, Option.getD_some]

/-- A local table that was written with one schema is timed row by row and in batches of any size,
with any options. It has no more columns than can be numbered and no more rows than are read at all.
Both benchmarks succeed with the number of its rows and leave as many objects as there were. Both
print a line for the same numbers, which are those after the first that the interval divides, and
show in it the same text of the same row. -/
theorem benchmarks_see_same_table {path : String} {size : Nat}
    (hrunning : memory.isShutDown = false) (hlocal : isRemote path = false)
    (hwritten : memory.store.WrittenWith path schema)
    (hwidth : schema.length ≤ Accessor.greatestOrdinal)
    (hrows : memory.store.rowCount path ≤ Reader.everyRow)
    (hsize : 0 < size ∧ size ≤ greatestBatch) (hwrites : surroundings.Writes) (every : Nat)
    (options others : Options) :
    ∃ (numbers : List Nat) (shown : Nat → String),
      numbers.Pairwise (· < ·) ∧
      (∀ number, number ∈ numbers ↔
        1 < number ∧ number ≤ memory.store.rowCount path ∧ max every 1 ∣ number) ∧
      (∀ number ∈ numbers, ∃ row told, (memory.store.rows path)[number - 1]? = some row ∧
        schema.Retells row told ∧ shown number = previewText told) ∧
      Prints backend surroundings (benchRows path every options) memory (fun total after texts ↦
        total = memory.store.rowCount path ∧ after.liveObjects = memory.liveObjects ∧
          Reports "\nTest next Row Performance:" (IsRowLine every shown) numbers total texts) ∧
      Prints backend surroundings (benchBatches path size every others) memory
        (fun total after texts ↦
          total = memory.store.rowCount path ∧ after.liveObjects = memory.liveObjects ∧
            Reports "\n\nTest next Batch Row Performance:" (IsBatchLine every shown) numbers total
              texts) := by
  obtain ⟨shown, htells⟩ := exists_shown hwritten
  have hshown : ShownAs schema shown 0 (memory.store.rows path) := by
    intro place row hrow
    obtain ⟨told, hretells, htext⟩ := htells place row hrow
    obtain ⟨record, hrecord⟩ := hwritten.parsed row (List.mem_of_getElem? hrow)
    have hcells : row.length ≤ Accessor.greatestOrdinal :=
      (Nat.le_of_eq (admits_of_parsed? hrecord).length_eq.symm).trans hwidth
    rw [Nat.zero_add, htext]
    exact printedAs_of_retells hretells hcells
  rw [Store.rowCount_eq] at hrows ⊢
  refine ⟨dueAfter every 0 (memory.store.rows path).length, shown, pairwise_dueAfter _ _ _,
    fun _ ↦ mem_dueAfter_zero, ?_, ?_, ?_⟩
  · intro number hnumber
    obtain ⟨hpositive, hle, -⟩ := mem_dueAfter_zero.mp hnumber
    have hplace : number - 1 < (memory.store.rows path).length := by omega
    obtain ⟨told, hretells, htext⟩ := htells _ _ (List.getElem?_eq_getElem hplace)
    rw [Nat.sub_add_cancel (Nat.le_of_lt hpositive)] at htext
    exact ⟨_, told, List.getElem?_eq_getElem hplace, hretells, htext⟩
  · refine (prints_benchRows hrunning hlocal hwritten.table?_eq hwrites hshown hrows
      options).mono ?_
    rintro _ after texts ⟨rfl, hafter, htexts⟩
    exact ⟨rfl, hafter.liveObjects_eq, htexts⟩
  · refine (prints_benchBatches hrunning hlocal hwritten.table?_eq hsize hwrites hshown hrows
      others).mono ?_
    rintro _ after texts ⟨rfl, hafter, htexts⟩
    exact ⟨rfl, hafter.liveObjects_eq, htexts⟩

/-- A backend on which three writers have written a row each to one folder, with one schema. -/
def benchedMemory : Memory :=
  let schemaText := "[\x7b\"a\":\"int\"\x7d,\x7b\"b\":\"array<float>\"\x7d]"
  (start .empty).after
    (Call.writing 1 "t" schemaText ["1", "0.1"] ++
      (Call.writing 3 "t" schemaText ["2", "1.5\x01nan"] ++
        Call.writing 5 "t" schemaText ["3", "\\N"]))

/-- Of three rows, with a line for every second one, only the second is shown, also if the first two
are fetched together. -/
theorem benchmarks_see_second_row :
    let memory := benchedMemory
    memory.isShutDown = false ∧ memory.store.rowCount "t" = 3 ∧
      ∃ (numbers : List Nat) (shown : Nat → String), (∀ number, number ∈ numbers ↔ number = 2) ∧
        Prints backend Sheet.endless (benchRows "t" 2 .empty) memory (fun total after texts ↦
          total = 3 ∧ after.liveObjects = memory.liveObjects ∧
            Reports "\nTest next Row Performance:" (IsRowLine 2 shown) numbers total texts) ∧
        Prints backend Sheet.endless (benchBatches "t" 2 2 .empty) memory (fun total after texts ↦
          total = 3 ∧ after.liveObjects = memory.liveObjects ∧
            Reports "\n\nTest next Batch Row Performance:" (IsBatchLine 2 shown) numbers total
              texts) := by
  intro memory
  let schema : Schema := ⟨[.scalar "a" .int, .array "b" .float]⟩
  obtain ⟨hrunning, hcount, hsome, hagrees⟩ : memory.isShutDown = false ∧
      memory.store.rowCount "t" = 3 ∧ memory.store.commitsTo "t" ≠ [] ∧
        ∀ commit ∈ memory.store.commitsTo "t", commit.schema = schema := by
    decide +kernel
  have hwritten : memory.store.WrittenWith "t" schema := writtenWith_after rfl hsome hagrees
  obtain ⟨numbers, shown, -, hmem, -, hsingle, hbatches⟩ :=
    @benchmarks_see_same_table _ Sheet.endless memory _ "t" 2 hrunning rfl hwritten (by decide)
      (by rw [hcount]; decide) (by decide) Sheet.writes_endless 2 .empty .empty
  rw [hcount] at hmem hsingle hbatches
  refine ⟨hrunning, hcount, numbers, shown, fun number ↦ ?_, hsingle, hbatches⟩
  have hinterval : max 2 1 = 2 := rfl
  rw [hmem, hinterval]
  omega

end Memory

end ColumnStore
