import ColumnStore.Scenario.Reading

/-!
# Benchmarks

Reading a table row by row or in batches is timed, with a line for every so many rows and a summary
at the end.
-/

set_option autoImplicit false

namespace ColumnStore

namespace Scenario

variable {m : Type → Type} [Monad m] {σ : Type}

/-- How many records there are to a second, printed. No time at all counts as a nanosecond. -/
def rate (records time : Nat) : String :=
  ratioText 6 (records * nanoseconds) (max time 1)

/-- The printed forms of the first fields of a row. -/
def preview (row : HeldRow) (fields : Nat) : Client σ String := do
  let count ← row.accessor.length
  row.accessor.printedFirst (min count fields)

/-- Is a line due after so many rows? -/
def isDue (every count : Nat) : Bool :=
  1 < count && count % max every 1 == 0

/-- The line that a benchmark starts with. -/
def buildLine (time : Nat) : String :=
  "\n\nbuild time is: " ++ seconds time ++ " s\n"

/-- The line that a benchmark ends with. -/
def summaryLine (total build read : Nat) : String :=
  "total line is: " ++ toString total ++ ",\t build time is: " ++ seconds build
    ++ " s,\tread time is " ++ seconds read ++ " s, average speed is " ++ rate total read
    ++ " records/s"

/-- Times the reading of what is left of the rows, one by one. The clock of the current stretch of
rows started at `window`. -/
def timeRows (reader : Reader) (every : Nat) : Nat → Nat → Nat → Scenario m σ Nat
  | 0, count, _ => pure count
  | limit + 1, count, window => do
    if ← act reader.hasNext then
      let row ← act reader.next
      let count := count + 1
      let window ← afterwards row.drop do
        if isDue every count then
          let elapsed := (← now) - window
          let shown ← act (preview row 6)
          line (toString count ++ ": time is " ++ seconds elapsed ++ " s, speed is "
            ++ rate (max every 1) elapsed ++ " records/s  " ++ shown)
          now
        else pure window
      timeRows reader every limit count window
    else pure count

/-- Goes through the rows of a batch that was fetched from `fetch` to `fetched`. -/
def timeBatch (every fetch fetched : Nat) : List HeldRow → Nat → Nat → Scenario m σ (Nat × Nat)
  | [], count, window => pure (count, window)
  | row :: rest, count, window => do
    let count := count + 1
    if isDue every count then
      let elapsed := (← now) - window
      let shown ← act (preview row 6)
      line (toString count ++ ": time is " ++ seconds elapsed ++ " s, speed is "
        ++ rate (max every 1) elapsed ++ " records/s, hasNext time is "
        ++ seconds (fetch - window) ++ " s,readNextBatchRow time is "
        ++ seconds (fetched - fetch) ++ " s " ++ shown)
      timeBatch every fetch fetched rest count (← now)
    else timeBatch every fetch fetched rest count window

/-- Times the reading of what is left of the rows, in batches. -/
def timeBatches (reader : Reader) (size every : Nat) : Nat → Nat → Nat → Scenario m σ Nat
  | 0, count, _ => pure count
  | limit + 1, count, window => do
    if ← act reader.hasNext then
      let fetch ← now
      let rows ← act (reader.nextBatch size)
      let fetched ← now
      let (count, window) ← afterwards (rows.forM HeldRow.drop)
        (timeBatch every fetch fetched rows count window)
      timeBatches reader size every limit count window
    else pure count

/-- Times the building of a reader and the reading of all its rows. -/
def benchmark (build : Client σ Reader) (read : Reader → Nat → Scenario m σ Nat) :
    Scenario m σ Nat := do
  let start ← now
  let reader ← act build
  let body : Scenario m σ Nat := do
    let built := (← now) - start
    line (buildLine built)
    let readStart ← now
    let count ← read reader readStart
    line (summaryLine count built ((← now) - readStart))
    pure count
  reading reader body pure

/-- Times the reading of a table, row by row. -/
def benchRows (path : String) (every : Nat) (options : Options) : Scenario m σ Nat := do
  line "\nTest next Row Performance:"
  let count ← benchmark (openReader path options) fun reader start ↦
    timeRows reader every Reader.everyRow 0 start
  act (Client.report ⟨.info, "row benchmark finished", [("rows", toString count)]⟩)
  pure count

/-- Times the reading of a table in batches. -/
def benchBatches (path : String) (size every : Nat) (options : Options) : Scenario m σ Nat := do
  line "\n\nTest next Batch Row Performance:"
  let build : Client σ Reader := do
    let builder ← ReaderBuilder.forPath path none
    let builder ← builder.options options
    let builder ← builder.batchSize size
    builder.build
  let count ← benchmark build fun reader start ↦
    timeBatches reader size every Reader.everyRow 0 start
  act (Client.report ⟨.info, "batch benchmark finished",
    [("rows", toString count), ("batch", toString size)]⟩)
  pure count

end Scenario

end ColumnStore
