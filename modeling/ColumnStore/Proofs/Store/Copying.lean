import ColumnStore.Proofs.Store.RoundTrip
import ColumnStore.Proofs.Value.Settling

/-!
# Copies of tables

The rows of a table are read as values, which are written to another folder. The copy has the rows
of the table, in order, but for cells with an array of a single null, which are null in the copy:
the array was read from a blank cell, and its own cell is the null marker. All other cells are
normal once they have been read.
-/

set_option autoImplicit false

namespace ColumnStore

/-- Reads the rows of a folder, at most `limit` of them, and writes their values to a folder. -/
def Writer.copyTable {σ : Type} (source target : String) (schema : Schema) (limit : Nat) :
    Client σ Unit := do
  let told ← Reader.readAll source limit
  Writer.writeBatch target schema (told.map Prod.fst)

namespace Memory

variable {memory : Memory} {source target : String} {schema : Schema} {rows : List Row}

/-- Rows that were read from records are copied, and their values settle. -/
theorem ends_copyTable (hrunning : memory.isShutDown = false) (hlocal : isRemote source = false)
    (htable : memory.store.table? source = some (schema, rows)) (hschema : schema.IsWellFormed)
    (hfloats : ∀ field ∈ schema.fields, field.AvoidsFloats)
    (hrows : ∀ row ∈ rows, ∃ record, schema.parsed? record = some row)
    (hwidth : schema.length ≤ Accessor.greatestOrdinal) (limit : Nat) :
    Client.Ends backend (Writer.copyTable source target schema limit) memory
      (Filed memory.store.commits target schema
        ((rows.take limit).map fun row ↦ row.map Value.settled)) := by
  have hitems : ∀ row ∈ rows, schema.CarriesItems row := by
    intro row hrow
    obtain ⟨record, hrecord⟩ := hrows row hrow
    exact Schema.carriesItems_of_parsed? hfloats hrecord
  have hcopied : List.Forall₂ (fun row stored ↦ schema.parsed? (Value.cells row) = some stored)
      (rows.take limit) ((rows.take limit).map fun row ↦ row.map Value.settled) := by
    rw [List.forall₂_map_right_iff, List.forall₂_same]
    intro row hrow
    obtain ⟨record, hrecord⟩ := hrows row (List.mem_of_mem_take hrow)
    exact Schema.parsed?_cells_of_parsed? hfloats hrecord
  refine (ends_readAll_of_items hrunning hlocal htable hschema.2.2 hitems hwidth
    limit).bind_of_ok ?_
  rintro _ state ⟨rfl, hstate, hcommits⟩
  have hvalues : ((rows.take limit).map fun row ↦ (row, schema.kinds)).map Prod.fst =
      rows.take limit := by
    simp [Function.comp_def]
  have hstored : state.store.commits = memory.store.commits := hcommits
  refine ⟨_, rfl, ?_⟩
  rw [hvalues, ← hstored]
  exact ends_writeBatch hstate hschema hcopied

/-- Let a schema have no columns of floating-point numbers. Whatever one of its columns reads from a
cell is read again from the own cell of the value, unless it is an array of a single null. So a
table whose rows were read from records of the schema is copied row by row: every row of it is filed
again, and the values of a row are the same but for such arrays, which are null in the copy. -/
theorem copied_rows_settle {schema : Schema}
    (hfloats : ∀ field ∈ schema.fields, field.AvoidsFloats) :
    (∀ field ∈ schema.fields, ∀ (raw : String) (value : Value),
      Value.read raw field.type field.element = .ok value →
        Value.read value.cell field.type field.element = .ok value.settled ∧
          (value.settled = value ↔ ¬ field.ReadsSingleNull raw)) ∧
    ∀ (memory : Memory) (source target : String) (rows : List Row) (limit : Nat),
      memory.isShutDown = false → isRemote source = false →
      memory.store.table? source = some (schema, rows) → schema.IsWellFormed →
      (∀ row ∈ rows, ∃ record, schema.parsed? record = some row) →
      schema.length ≤ Accessor.greatestOrdinal →
        Client.Ends backend (Writer.copyTable source target schema limit) memory
          (Filed memory.store.commits target schema
            ((rows.take limit).map fun row ↦ row.map Value.settled)) := by
  constructor
  · intro field hfield raw value hread
    refine ⟨(hfloats field hfield).read_cell hread, ?_⟩
    rw [Value.settled_eq_iff, ← Field.read_eq_single_null_iff, hread]
    exact not_congr ⟨congrArg Except.ok, fun h ↦ Except.ok.inj h⟩
  · intro memory source target rows limit hrunning hlocal htable hschema hrows hwidth
    exact ends_copyTable hrunning hlocal htable hschema hfloats hrows hwidth limit

/-- A backend with a table of two rows, which have a number and an array of numbers each. -/
def numbersMemory : Memory :=
  let schema : Schema := ⟨[.scalar "a" .int, .array "b" .int]⟩
  let rows : List Row := [[.int 7, .array [.int 1, .null]], [.null, .array [.null]]]
  .start { Store.empty with commits := [⟨"s", Commit.idOf 0, schema, rows, "writer"⟩] }

/-- Padded numbers and blank items are copied, and the array of a single null is null in the
copy. -/
theorem copied_rows_settle_of_numbers :
    let schema : Schema := ⟨[.scalar "a" .int, .array "b" .int]⟩
    let first : Row := [.int 7, .array [.int 1, .null]]
    let second : Row := [.null, .array [.null]]
    Value.read (Value.array [.int 1, .null]).cell .array (some .int) =
        .ok (.array [.int 1, .null]) ∧
      (numbersMemory.store.table? "s" = some (schema, [first, second]) ∧
        schema.parsed? [" 7", " 1\x01 "] = some first ∧
        schema.parsed? ["\\N", " "] = some second) ∧
      Client.Ends backend (Writer.copyTable "s" "t" schema 2) numbersMemory
        (Filed numbersMemory.store.commits "t" schema [first, [.null, .null]]) := by
  intro schema first second
  have htable : numbersMemory.store.table? "s" = some (schema, [first, second]) := rfl
  have hfirst : schema.parsed? [" 7", " 1\x01 "] = some first := rfl
  have hsecond : schema.parsed? ["\\N", " "] = some second := rfl
  have hfloats : ∀ field ∈ schema.fields, field.AvoidsFloats :=
    List.forall_mem_cons.mpr ⟨⟨by decide, by decide, by decide, by decide⟩,
      List.forall_mem_singleton.mpr ⟨by decide, by decide, by decide, by decide⟩⟩
  have hschema : schema.IsWellFormed := by
    refine ⟨by simp [schema], by simp [schema]; decide, ?_⟩
    exact List.forall_mem_cons.mpr
      ⟨rfl, List.forall_mem_singleton.mpr ⟨.int, rfl, by decide⟩⟩
  have hrows : ∀ row ∈ [first, second], ∃ record, schema.parsed? record = some row :=
    List.forall_mem_cons.mpr ⟨⟨_, hfirst⟩, List.forall_mem_singleton.mpr ⟨_, hsecond⟩⟩
  obtain ⟨hcells, hcopies⟩ := copied_rows_settle hfloats
  refine ⟨?_, ⟨htable, hfirst, hsecond⟩, ?_⟩
  · exact (hcells (.array "b" .int) (by simp [schema]) " 1\x01 " _ rfl).1
  · exact hcopies numbersMemory "s" "t" [first, second] 2 rfl rfl htable hschema hrows (by decide)

/-- A blank cell of an array of numbers is an array of a single null, whose own cell is null. -/
theorem blank_array_not_read_back :
    Value.read " " .array (some .int) = .ok (.array [.null]) ∧
      Value.read (Value.array [.null]).cell .array (some .int) = .ok .null ∧
      Value.null ≠ .array [.null] :=
  ⟨rfl, rfl, nofun⟩

end Memory

end ColumnStore
