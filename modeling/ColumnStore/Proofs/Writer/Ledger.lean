import ColumnStore.Proofs.Writer.Building
import ColumnStore.Proofs.Writer.Writing

/-!
# Writers at work

Any number of writers work on one connection, in any order, also several on one folder. A ledger
beside them says what should come of that: every writer has an account of the rows that its records
stand for, and an account is delivered, once, when its writer is closed or given up for the first
time. The table of a folder holds what it held at the start and behind it what was delivered to it,
in the order of the deliveries; nothing is lost and nothing arrives twice.
-/

set_option autoImplicit false

namespace ColumnStore

/-- Something that is done with writers. A writer has the number of writers built before it. -/
inductive WriterAct where
  | build (steps : List WriterStep)
  | write (number : Nat) (record : List String)
  | writeValues (number : Nat) (values : Row)
  | close (number : Nat)
  | drop (number : Nat)

/-- Writers at work on a connection; a writer that was given up has left its place. -/
structure WriterDesk where
  connection : Connection Memory
  writers : List (Option Writer)

namespace WriterDesk

/-- A desk without writers. -/
def start (connection : Connection Memory) : WriterDesk := ⟨connection, []⟩

/-- The backend of a desk. -/
def memory (desk : WriterDesk) : Memory := desk.connection.state

/-- The writer with a number. -/
def writer? (desk : WriterDesk) (number : Nat) : Option Writer := desk.writers[number]?.join

/-- Builds a writer. -/
def build (desk : WriterDesk) (steps : List WriterStep) : WriterDesk :=
  match (Writer.building steps).run Memory.backend desk.connection with
  | (.ok writer, connection) => ⟨connection, desk.writers ++ [some writer]⟩
  | (.error _, connection) => ⟨connection, desk.writers⟩

/-- Changes a writer, which stays as it is if that fails. -/
def alter (desk : WriterDesk) (number : Nat) (action : Writer → Client Memory Writer) :
    WriterDesk :=
  match desk.writer? number with
  | none => desk
  | some writer =>
    match (action writer).run Memory.backend desk.connection with
    | (.ok changed, connection) => ⟨connection, desk.writers.set number (some changed)⟩
    | (.error _, connection) => ⟨connection, desk.writers⟩

/-- Gives up a writer. -/
def drop (desk : WriterDesk) (number : Nat) : WriterDesk :=
  match desk.writer? number with
  | none => desk
  | some writer =>
    match writer.drop.run Memory.backend desk.connection with
    | (_, connection) => ⟨connection, desk.writers.set number none⟩

/-- Does something with the writers of a desk. -/
def perform (desk : WriterDesk) : WriterAct → WriterDesk
  | .build steps => desk.build steps
  | .write number record => desk.alter number fun writer ↦ writer.write record
  | .writeValues number values => desk.alter number fun writer ↦ writer.writeValues values
  | .close number => desk.alter number Writer.close
  | .drop number => desk.drop number

/-- Does several things one after the other. -/
def performAll (desk : WriterDesk) (acts : List WriterAct) : WriterDesk :=
  acts.foldl perform desk

end WriterDesk

/-- What a writer should deliver: the rows that its records stand for, in the order in which they
were written. -/
structure WriterAccount where
  path : String
  schema : Schema
  /-- Are there columns that the rows are sorted by? -/
  sorted : Bool
  records : List Row
  finished : Bool

/-- The accounts of all writers, and those of the finished ones in the order in which they were
finished. -/
structure WriterLedger where
  accounts : List WriterAccount
  delivered : List WriterAccount

namespace WriterAccount

/-- Notes a record, if it stands for a row and the writer is not finished. -/
def take (account : WriterAccount) (record : List String) : WriterAccount :=
  if account.finished then account
  else
    match account.schema.parsed? record with
    | some row => { account with records := account.records ++ [row] }
    | none => account

/-- The rows are those of the account, in another order only if they are sorted. -/
def Delivers (account : WriterAccount) (rows : List Row) : Prop :=
  if account.sorted then rows.Perm account.records else rows = account.records

end WriterAccount

namespace WriterLedger

/-- A ledger without accounts. -/
def empty : WriterLedger := ⟨[], []⟩

/-- Opens an account for a new writer. -/
def opened (ledger : WriterLedger) (steps : List WriterStep) (writer : Writer) : WriterLedger :=
  { ledger with
    accounts := ledger.accounts ++
      [⟨writer.path, writer.schema.getD ⟨[]⟩,
        !(steps.foldl WriterStep.sortColumns []).isEmpty, [], false⟩] }

/-- Notes a record of a writer. -/
def take (ledger : WriterLedger) (number : Nat) (record : List String) : WriterLedger :=
  match ledger.accounts[number]? with
  | none => ledger
  | some account => { ledger with accounts := ledger.accounts.set number (account.take record) }

/-- Delivers an account, unless that has been done. -/
def finish (ledger : WriterLedger) (number : Nat) : WriterLedger :=
  match ledger.accounts[number]? with
  | none => ledger
  | some account =>
    if account.finished then ledger
    else
      ⟨ledger.accounts.set number { account with finished := true }, ledger.delivered ++ [account]⟩

/-- Notes what was done; `desk` is the desk after it, which shows whether a writer was built. -/
def note (ledger : WriterLedger) (desk : WriterDesk) : WriterAct → WriterLedger
  | .build steps =>
    match desk.writer? ledger.accounts.length with
    | none => ledger
    | some writer => ledger.opened steps writer
  | .write number record => ledger.take number record
  | .writeValues number values => ledger.take number (Value.cells values)
  | .close number | .drop number => ledger.finish number

/-- The ledger beside a desk once several things have been done. -/
def noteAll (ledger : WriterLedger) (desk : WriterDesk) : List WriterAct → WriterLedger
  | [] => ledger
  | act :: acts => noteAll (ledger.note (desk.perform act) act) (desk.perform act) acts

/-- The delivered accounts of writers that took a record. -/
def filed (ledger : WriterLedger) : List WriterAccount :=
  ledger.delivered.filter fun account ↦ !account.records.isEmpty

/-- The delivered accounts of writers on a folder that took a record. -/
def filedTo (ledger : WriterLedger) (path : String) : List WriterAccount :=
  ledger.filed.filter fun account ↦ Store.folderOf account.path == Store.folderOf path

end WriterLedger

end ColumnStore
