import ColumnStore.Proofs.Writer.Ledger
import ColumnStore.Proofs.Store.Folder

/-!
# What writers deliver

The desk and the ledger stay in step: the count that a writer shows, the records that the backend
keeps for it and the account are three copies of the same, and the commits are the delivered
accounts. Every act keeps them in step, so they are in step after any acts in any order.
-/

set_option autoImplicit false

namespace ColumnStore

/-- An account, a writer and what the backend keeps for it say the same. -/
structure WriterAccount.Fits (account : WriterAccount) (writer : Writer) (state : WriterState) :
    Prop where
  path : account.path = writer.path
  schema : account.schema = state.schema
  sorted : account.sorted = false ↔ state.sortPositions = []
  finished : account.finished = writer.closed
  count : account.records.length = writer.written
  records : account.finished = false → state.newestFirst.reverse = account.records

/-- The account of a place: a writer that was given up is finished, any other one fits. -/
def WriterAccount.Covers (account : WriterAccount) (memory : Memory) : Option Writer → Prop
  | none => account.finished = true
  | some writer => ∃ state, memory.Holds writer.handle (.writer state) ∧
      writer.Describes state ∧ account.Fits writer state

/-- A commit is what an account delivers. -/
structure WriterAccount.IsFiledAs (account : WriterAccount) (commit : Commit) : Prop where
  folder : commit.folder = Store.folderOf account.path
  schema : commit.schema = account.schema
  rows : account.Delivers commit.rows

/-- The ledger is right about the desk: every place has an account that covers it, no two writers
share a handle, and the new commits are the delivered accounts, in order. -/
structure WriterLedger.Agrees (initial : Store) (desk : WriterDesk) (ledger : WriterLedger) :
    Prop where
  length : ledger.accounts.length = desk.writers.length
  covers : ∀ {number : Nat} {entry : Option Writer} {account : WriterAccount},
    desk.writers[number]? = some entry → ledger.accounts[number]? = some account →
      account.Covers desk.memory entry
  apart : ∀ {first second : Nat} {writer other : Writer},
    desk.writers[first]? = some (some writer) → desk.writers[second]? = some (some other) →
      writer.handle = other.handle → first = second
  commits : ∃ files, desk.memory.store.commits = initial.commits ++ files ∧
    List.Forall₂ WriterAccount.IsFiledAs ledger.filed files

variable {initial : Store} {desk : WriterDesk} {ledger : WriterLedger} {number : Nat}
  {writer : Writer} {account : WriterAccount}

open WriterLedger (Agrees)

/-! ### What an account delivers -/

/-- What a writer commits is what its account delivers. -/
theorem WriterAccount.Fits.delivers {state : WriterState} (h : account.Fits writer state)
    (hopen : account.finished = false) :
    account.Delivers (Memory.WriterState.committed state) := by
  unfold WriterAccount.Delivers Memory.WriterState.committed
  rw [h.records hopen]
  by_cases hpositions : state.sortPositions = []
  · rw [if_neg (by simp [h.sorted.mpr hpositions]), if_pos (by simp [hpositions])]
  · have hsorted : account.sorted = true := by
      rw [← Bool.not_eq_false, h.sorted]
      exact hpositions
    rw [if_pos hsorted, if_neg (by simp [hpositions])]
    exact Row.sortRows_perm _ _

/-! ### One place of the desk -/

theorem getElem?_of_writer? (h : desk.writer? number = some writer) :
    desk.writers[number]? = some (some writer) :=
  Option.join_eq_some_iff.mp h

theorem set_eq_self {α : Type} {items : List α} {item : α} (h : items[number]? = some item) :
    items.set number item = items := by
  obtain ⟨hlt, hitem⟩ := List.getElem?_eq_some_iff.mp h
  rw [← hitem]
  exact List.set_getElem_self hlt

theorem WriterDesk.alter_of_ok (action : Writer → Client Memory Writer) {changed : Writer}
    {after : Memory} (hwriter : desk.writer? number = some writer)
    (h : Client.Runs Memory.backend (action writer) desk.memory (.ok changed) after) :
    ∃ log, desk.alter number action = ⟨⟨after, log⟩, desk.writers.set number (some changed)⟩ := by
  unfold WriterDesk.alter
  rw [hwriter]
  obtain ⟨log, hrun⟩ := Client.Runs.run_eq h
  exact ⟨log, by simp [hrun]⟩

theorem WriterDesk.alter_of_error (action : Writer → Client Memory Writer) {failure : Failure}
    {after : Memory} (hwriter : desk.writer? number = some writer)
    (h : Client.Runs Memory.backend (action writer) desk.memory (.error failure) after) :
    ∃ log, desk.alter number action = ⟨⟨after, log⟩, desk.writers.set number (some writer)⟩ := by
  unfold WriterDesk.alter
  rw [hwriter, set_eq_self (getElem?_of_writer? hwriter)]
  obtain ⟨log, hrun⟩ := Client.Runs.run_eq h
  exact ⟨log, by simp [hrun]⟩

theorem WriterDesk.drop_of_runs {result : Except Failure Unit} {after : Memory}
    (hwriter : desk.writer? number = some writer)
    (h : Client.Runs Memory.backend writer.drop desk.memory result after) :
    ∃ log, desk.drop number = ⟨⟨after, log⟩, desk.writers.set number none⟩ := by
  unfold WriterDesk.drop
  rw [hwriter]
  obtain ⟨log, hrun⟩ := Client.Runs.run_eq h
  exact ⟨log, by simp [hrun]⟩

/-- A change at one place, which keeps the objects of the other ones. -/
theorem WriterLedger.Agrees.set (h : Agrees initial desk ledger)
    (hwriter : desk.writer? number = some writer) {after : Memory} {log : Log}
    {entry : Option Writer} {noted : WriterAccount} {delivered : List WriterAccount}
    (hframe : ∀ {handle object}, handle ≠ writer.handle → desk.memory.Holds handle object →
      after.Holds handle object)
    (hcovers : noted.Covers after entry)
    (hhandle : ∀ changed, entry = some changed → changed.handle = writer.handle)
    (hcommits : ∃ files, after.store.commits = initial.commits ++ files ∧
      List.Forall₂ WriterAccount.IsFiledAs
        (WriterLedger.filed ⟨ledger.accounts.set number noted, delivered⟩) files) :
    Agrees initial ⟨⟨after, log⟩, desk.writers.set number entry⟩
      ⟨ledger.accounts.set number noted, delivered⟩ := by
  have hplace := getElem?_of_writer? hwriter
  refine ⟨?_, ?_, ?_, hcommits⟩
  · rw [List.length_set, List.length_set, h.length]
  · intro other found account hfound haccount
    by_cases heq : number = other
    · subst heq
      have hlt := (List.getElem?_eq_some_iff.mp hplace).1
      have hlength := h.length
      rw [List.getElem?_set_self hlt] at hfound
      rw [List.getElem?_set_self (by omega)] at haccount
      cases hfound
      cases haccount
      exact hcovers
    · rw [List.getElem?_set_ne heq] at hfound haccount
      have hold := h.covers hfound haccount
      cases found with
      | none => exact hold
      | some standing =>
        obtain ⟨state, hholds, hdescribes, hfits⟩ := hold
        have hne : standing.handle ≠ writer.handle :=
          fun hsame ↦ heq (h.apart hplace hfound hsame.symm)
        exact ⟨state, hframe hne hholds, hdescribes, hfits⟩
  · have hhad : ∀ {other : Nat} {found : Writer},
        (desk.writers.set number entry)[other]? = some (some found) →
          ∃ old, desk.writers[other]? = some (some old) ∧ old.handle = found.handle := by
      intro other found hfound
      by_cases heq : number = other
      · subst heq
        have hlt := (List.getElem?_eq_some_iff.mp hplace).1
        rw [List.getElem?_set_self hlt] at hfound
        exact ⟨writer, hplace, (hhandle found (Option.some.inj hfound)).symm⟩
      · rw [List.getElem?_set_ne heq] at hfound
        exact ⟨found, hfound, rfl⟩
    intro first second standing other hstanding hother hsame
    obtain ⟨old, hold, holdhandle⟩ := hhad hstanding
    obtain ⟨older, holder, holderhandle⟩ := hhad hother
    exact h.apart hold holder (holdhandle.trans (hsame.trans holderhandle.symm))

/-- The account of a writer that is there, and what the backend keeps for it. -/
theorem WriterLedger.Agrees.exists_account (h : Agrees initial desk ledger)
    (hwriter : desk.writer? number = some writer) :
    ∃ account state, ledger.accounts[number]? = some account ∧
      desk.memory.Holds writer.handle (.writer state) ∧ writer.Describes state ∧
        account.Fits writer state := by
  have hplace := getElem?_of_writer? hwriter
  have hlt := (List.getElem?_eq_some_iff.mp hplace).1
  rw [← h.length] at hlt
  have haccount := List.getElem?_eq_getElem hlt
  obtain ⟨state, hholds, hdescribes, hfits⟩ := h.covers hplace haccount
  exact ⟨_, state, haccount, hholds, hdescribes, hfits⟩

/-- A place without a writer has a finished account or none at all. -/
theorem WriterLedger.Agrees.finished (h : Agrees initial desk ledger)
    (hwriter : desk.writer? number = none) (haccount : ledger.accounts[number]? = some account) :
    account.finished = true := by
  have hlt := (List.getElem?_eq_some_iff.mp haccount).1
  rw [h.length] at hlt
  have hplace := List.getElem?_eq_getElem hlt
  rw [WriterDesk.writer?, hplace, Option.join_some] at hwriter
  rw [hwriter] at hplace
  exact h.covers hplace haccount

/-! ### Writing -/

theorem WriterAccount.take_of_finished (h : account.finished = true) (record : List String) :
    account.take record = account :=
  if_pos h

theorem WriterAccount.take_of_open (h : account.finished = false) (record : List String) :
    account.take record =
      match account.schema.parsed? record with
      | some row => { account with records := account.records ++ [row] }
      | none => account :=
  if_neg (by simp [h])

theorem WriterLedger.take_eq (haccount : ledger.accounts[number]? = some account)
    (record : List String) :
    ledger.take number record =
      ⟨ledger.accounts.set number (account.take record), ledger.delivered⟩ := by
  unfold WriterLedger.take
  rw [haccount]

/-- A record for a place without a writer is not noted. -/
theorem WriterLedger.Agrees.take_absent (h : Agrees initial desk ledger)
    (hwriter : desk.writer? number = none) (record : List String) :
    ledger.take number record = ledger := by
  cases haccount : ledger.accounts[number]? with
  | none =>
    unfold WriterLedger.take
    rw [haccount]
  | some account =>
    rw [WriterLedger.take_eq haccount,
      WriterAccount.take_of_finished (h.finished hwriter haccount), set_eq_self haccount]

theorem Memory.Holds.put_of_ne {memory : Memory} {handle other : Nat}
    {old object : ManagedObject} (htarget : memory.Holds handle old) (new : ManagedObject)
    (hne : other ≠ handle) (h : memory.Holds other object) :
    (memory.put handle new).Holds other object :=
  ⟨h.running,
    (Memory.object?_put_of_ne (Memory.ne_zero_of_object? htarget.object) hne new).trans h.object⟩

theorem Memory.Holds.vacate_of_ne {memory : Memory} {handle other : Nat}
    {old object : ManagedObject} (htarget : memory.Holds handle old) (hne : other ≠ handle)
    (h : memory.Holds other object) : (memory.vacate handle).Holds other object :=
  ⟨h.running,
    (Memory.object?_vacate_of_ne (Memory.ne_zero_of_object? htarget.object) hne).trans h.object⟩

/-- Writing a record keeps the ledger right, whatever comes of it. -/
theorem WriterLedger.Agrees.write (h : Agrees initial desk ledger) (number : Nat)
    (record : List String) :
    Agrees initial (desk.alter number fun writer ↦ writer.write record)
      (ledger.take number record) := by
  cases hwriter : desk.writer? number with
  | none =>
    rw [h.take_absent hwriter]
    unfold WriterDesk.alter
    rw [hwriter]
    exact h
  | some writer =>
    obtain ⟨account, state, haccount, hholds, hdescribes, hfits⟩ := h.exists_account hwriter
    have hcounted := hholds.counting Operation.writeRecord.method
    rw [WriterLedger.take_eq haccount]
    cases hclosed : writer.closed with
    | true =>
      obtain ⟨log, halter⟩ := WriterDesk.alter_of_error (fun writer ↦ writer.write record) hwriter
        (Memory.runs_write_closed hclosed record)
      rw [halter, WriterAccount.take_of_finished (hfits.finished.trans hclosed)]
      exact h.set hwriter (fun _ hother ↦ hother) ⟨state, hholds, hdescribes, hfits⟩
        (fun _ heq ↦ by cases heq; rfl) h.commits
    | false =>
      have hopen : state.closed = false := hdescribes.closed.trans hclosed
      have hunfinished : account.finished = false := hfits.finished.trans hclosed
      rw [WriterAccount.take_of_open hunfinished, hfits.schema]
      cases hrow : state.schema.parsed? record with
      | none =>
        obtain ⟨cause, hruns⟩ := Memory.runs_write_error hholds hopen hclosed hrow
        obtain ⟨log, halter⟩ := WriterDesk.alter_of_error (fun writer ↦ writer.write record)
          hwriter hruns
        rw [halter]
        exact h.set hwriter (fun _ hother ↦ hother.counting _)
          ⟨state, hcounted, hdescribes, hfits⟩ (fun _ heq ↦ by cases heq; rfl) h.commits
      | some row =>
        obtain ⟨log, halter⟩ := WriterDesk.alter_of_ok (fun writer ↦ writer.write record) hwriter
          (Memory.runs_write hholds hopen hclosed hrow)
        rw [halter]
        refine h.set hwriter (fun hne hother ↦ hcounted.put_of_ne _ hne (hother.counting _))
          ⟨_, hcounted.put _, ?_, ?_⟩ (fun _ heq ↦ by cases heq; rfl) h.commits
        · exact ⟨hdescribes.path, hdescribes.schema, hdescribes.closed⟩
        · refine ⟨hfits.path, rfl, hfits.sorted, hfits.finished, ?_, ?_⟩
          · rw [List.length_append, hfits.count]
            rfl
          · intro _
            rw [List.reverse_cons, hfits.records hunfinished]

/-! ### Closing and giving up -/

theorem Memory.Holds.closing_of_ne {memory : Memory} {handle other : Nat} {state : WriterState}
    {object : ManagedObject} (htarget : memory.Holds handle (.writer state)) (hne : other ≠ handle)
    (h : memory.Holds other object) : (memory.closing handle state).Holds other object := by
  have hput := htarget.put_of_ne (.writer { state with newestFirst := [], closed := true }) hne h
  unfold Memory.closing
  split
  · exact hput
  · exact ⟨hput.running, hput.object⟩

/-- An account that is delivered is filed as the commit that closing its writer makes. -/
theorem WriterLedger.Agrees.filed_closing {state : WriterState} {accounts : List WriterAccount}
    (h : Agrees initial desk ledger) (hdescribes : writer.Describes state)
    (hfits : account.Fits writer state) (hopen : account.finished = false) (method : Method) :
    ∃ files,
      ((desk.memory.counting method).closing writer.handle state).store.commits =
          initial.commits ++ files ∧
        List.Forall₂ WriterAccount.IsFiledAs
          (WriterLedger.filed ⟨accounts, ledger.delivered ++ [account]⟩) files := by
  obtain ⟨files, hcommits, hfiles⟩ := h.commits
  rw [Memory.commits_closing, Memory.commits_counting, hcommits, List.append_assoc]
  refine ⟨_, rfl, ?_⟩
  have hrecords : state.newestFirst = [] ↔ account.records = [] := by
    rw [← hfits.records hopen, List.reverse_eq_nil_iff]
  unfold WriterLedger.filed at hfiles ⊢
  rw [List.filter_append]
  refine List.rel_append hfiles ?_
  by_cases hempty : state.newestFirst = []
  · have hnone : [account].filter (fun account ↦ !account.records.isEmpty) = [] := by
      simp [hrecords.mp hempty]
    rw [if_pos hempty, hnone]
    exact .nil
  · have hone : [account].filter (fun account ↦ !account.records.isEmpty) = [account] := by
      simpa [hrecords] using hempty
    rw [if_neg hempty, hone]
    refine .cons ⟨?_, hfits.schema.symm, hfits.delivers hopen⟩ .nil
    rw [hfits.path, ← hdescribes.path]
    rfl

theorem WriterLedger.finish_of_finished (haccount : ledger.accounts[number]? = some account)
    (hfinished : account.finished = true) : ledger.finish number = ledger := by
  unfold WriterLedger.finish
  rw [haccount]
  exact if_pos hfinished

theorem WriterLedger.finish_of_open (haccount : ledger.accounts[number]? = some account)
    (hopen : account.finished = false) :
    ledger.finish number =
      ⟨ledger.accounts.set number { account with finished := true },
        ledger.delivered ++ [account]⟩ := by
  unfold WriterLedger.finish
  rw [haccount]
  exact if_neg (by simp [hopen])

theorem WriterLedger.Agrees.finish_absent (h : Agrees initial desk ledger)
    (hwriter : desk.writer? number = none) : ledger.finish number = ledger := by
  cases haccount : ledger.accounts[number]? with
  | none =>
    unfold WriterLedger.finish
    rw [haccount]
  | some account => exact WriterLedger.finish_of_finished haccount (h.finished hwriter haccount)

/-- The account of a writer that has been closed. -/
theorem WriterAccount.Fits.finish {state : WriterState} (h : account.Fits writer state) :
    WriterAccount.Fits { account with finished := true } { writer with closed := true }
      { state with newestFirst := [], closed := true } :=
  ⟨h.path, h.schema, h.sorted, rfl, h.count, nofun⟩

/-- Closing a writer keeps the ledger right. -/
theorem WriterLedger.Agrees.close (h : Agrees initial desk ledger) (number : Nat) :
    Agrees initial (desk.alter number Writer.close) (ledger.finish number) := by
  cases hwriter : desk.writer? number with
  | none =>
    rw [h.finish_absent hwriter]
    unfold WriterDesk.alter
    rw [hwriter]
    exact h
  | some writer =>
    obtain ⟨account, state, haccount, hholds, hdescribes, hfits⟩ := h.exists_account hwriter
    cases hclosed : writer.closed with
    | true =>
      obtain ⟨log, halter⟩ := WriterDesk.alter_of_ok Writer.close hwriter
        (Memory.runs_close_closed hclosed)
      rw [halter, WriterLedger.finish_of_finished haccount (hfits.finished.trans hclosed)]
      have hset : Agrees initial ⟨⟨desk.memory, log⟩, desk.writers.set number (some writer)⟩
          ⟨ledger.accounts.set number account, ledger.delivered⟩ :=
        h.set hwriter (fun _ hother ↦ hother) ⟨state, hholds, hdescribes, hfits⟩
          (fun _ heq ↦ by cases heq; rfl) h.commits
      rw [set_eq_self haccount] at hset
      exact hset
    | false =>
      have hopen : state.closed = false := hdescribes.closed.trans hclosed
      have hunfinished : account.finished = false := hfits.finished.trans hclosed
      have hcounted := hholds.counting Operation.closeWriter.method
      obtain ⟨log, halter⟩ := WriterDesk.alter_of_ok Writer.close hwriter
        (Memory.runs_close hholds hopen hclosed)
      rw [halter, WriterLedger.finish_of_open haccount hunfinished]
      exact h.set hwriter (fun hne hother ↦ hcounted.closing_of_ne hne (hother.counting _))
        ⟨_, hcounted.closing, ⟨hdescribes.path, hdescribes.schema, rfl⟩, hfits.finish⟩
        (fun _ heq ↦ by cases heq; rfl) (h.filed_closing hdescribes hfits hunfinished _)

/-- Giving up a writer keeps the ledger right. -/
theorem WriterLedger.Agrees.drop (h : Agrees initial desk ledger) (number : Nat) :
    Agrees initial (desk.drop number) (ledger.finish number) := by
  cases hwriter : desk.writer? number with
  | none =>
    rw [h.finish_absent hwriter]
    unfold WriterDesk.drop
    rw [hwriter]
    exact h
  | some writer =>
    obtain ⟨account, state, haccount, hholds, hdescribes, hfits⟩ := h.exists_account hwriter
    cases hclosed : writer.closed with
    | true =>
      have hfinished : account.finished = true := hfits.finished.trans hclosed
      obtain ⟨log, hdrop⟩ := WriterDesk.drop_of_runs hwriter
        (Memory.runs_drop_closed hholds hclosed)
      rw [hdrop, WriterLedger.finish_of_finished haccount hfinished]
      have hset : Agrees initial
          ⟨⟨desk.memory.vacate writer.handle, log⟩, desk.writers.set number none⟩
          ⟨ledger.accounts.set number account, ledger.delivered⟩ :=
        h.set hwriter (fun hne hother ↦ hholds.vacate_of_ne hne hother) hfinished nofun h.commits
      rw [set_eq_self haccount] at hset
      exact hset
    | false =>
      have hopen : state.closed = false := hdescribes.closed.trans hclosed
      have hunfinished : account.finished = false := hfits.finished.trans hclosed
      have hcounted := hholds.counting Operation.closeWriter.method
      obtain ⟨log, hdrop⟩ := WriterDesk.drop_of_runs hwriter
        (Memory.runs_drop hholds hopen hclosed)
      rw [hdrop, WriterLedger.finish_of_open haccount hunfinished]
      refine h.set hwriter (fun hne hother ↦ ?_) rfl nofun
        (h.filed_closing hdescribes hfits hunfinished _)
      exact hcounted.closing.vacate_of_ne hne (hcounted.closing_of_ne hne (hother.counting _))

/-! ### Building -/

theorem WriterAccount.Covers.keeps {before after : Memory} {entry : Option Writer}
    (h : account.Covers before entry) (hkeeps : Memory.Keeps before.nextHandle before after) :
    account.Covers after entry := by
  cases entry with
  | none => exact h
  | some writer =>
    obtain ⟨state, hholds, hdescribes, hfits⟩ := h
    have hlt := Memory.lt_nextHandle_of_object? hholds.object
    exact ⟨state, hkeeps.holds hlt hholds, hdescribes, hfits⟩

/-- What leaves older objects and the commits alone keeps the ledger right. -/
theorem WriterLedger.Agrees.keeps (h : Agrees initial desk ledger) {after : Memory} {log : Log}
    (hkeeps : Memory.Keeps desk.memory.nextHandle desk.memory after) :
    Agrees initial ⟨⟨after, log⟩, desk.writers⟩ ledger := by
  obtain ⟨files, hcommits, hfiles⟩ := h.commits
  exact ⟨h.length, fun hentry haccount ↦ (h.covers hentry haccount).keeps hkeeps, h.apart,
    files, hkeeps.commits.trans hcommits, hfiles⟩

/-- Opening an account for a new writer keeps the ledger right. -/
theorem WriterLedger.Agrees.append (h : Agrees initial desk ledger)
    (hcovers : account.Covers desk.memory (some writer))
    (hfresh : ∀ {number : Nat} {other : Writer}, desk.writers[number]? = some (some other) →
      other.handle ≠ writer.handle) :
    Agrees initial ⟨desk.connection, desk.writers ++ [some writer]⟩
      ⟨ledger.accounts ++ [account], ledger.delivered⟩ := by
  have hcases : ∀ {number : Nat} {entry : Option Writer},
      (desk.writers ++ [some writer])[number]? = some entry →
        desk.writers[number]? = some entry ∨
          number = desk.writers.length ∧ entry = some writer := by
    intro number entry hentry
    rcases Nat.lt_trichotomy number desk.writers.length with hlt | heq | hgt
    · rw [List.getElem?_append_left hlt] at hentry
      exact .inl hentry
    · subst heq
      rw [List.getElem?_concat_length] at hentry
      exact .inr ⟨rfl, (Option.some.inj hentry).symm⟩
    · rw [List.getElem?_eq_none (by simp; omega)] at hentry
      cases hentry
  refine ⟨?_, ?_, ?_, h.commits⟩
  · rw [List.length_append, List.length_append, h.length]
    rfl
  · intro number entry found hentry hfound
    rcases hcases hentry with hold | ⟨rfl, rfl⟩
    · have hlt := (List.getElem?_eq_some_iff.mp hold).1
      rw [List.getElem?_append_left (by rw [h.length]; exact hlt)] at hfound
      exact h.covers hold hfound
    · rw [← h.length, List.getElem?_concat_length] at hfound
      cases hfound
      exact hcovers
  · intro first second standing other hstanding hother hsame
    rcases hcases hstanding with hold | ⟨rfl, hnew⟩
    · rcases hcases hother with holder | ⟨rfl, hnew⟩
      · exact h.apart hold holder hsame
      · cases hnew
        exact absurd hsame (hfresh hold)
    · cases hnew
      rcases hcases hother with holder | ⟨rfl, hnew⟩
      · exact absurd hsame.symm (hfresh holder)
      · rfl

/-- Building a writer keeps the ledger right, whatever comes of it. -/
theorem WriterLedger.Agrees.build (h : Agrees initial desk ledger) (steps : List WriterStep) :
    Agrees initial (desk.build steps) (ledger.note (desk.build steps) (.build steps)) := by
  have hleaves := Memory.ends_building steps desk.memory desk.connection.log
  change Memory.LeavesWriter _ _ _
    ((Writer.building steps).run Memory.backend desk.connection).1
    ((Writer.building steps).run Memory.backend desk.connection).2.state at hleaves
  unfold WriterLedger.note WriterDesk.build
  rcases hrun : (Writer.building steps).run Memory.backend desk.connection with
    ⟨failure | writer, ⟨after, log⟩⟩
  · rw [hrun] at hleaves
    have hnone : WriterDesk.writer? ⟨⟨after, log⟩, desk.writers⟩ ledger.accounts.length = none := by
      rw [WriterDesk.writer?, h.length, List.getElem?_eq_none (Nat.le_refl _)]
      rfl
    dsimp only
    rw [hnone]
    exact h.keeps hleaves.1
  · rw [hrun] at hleaves
    obtain ⟨hkeeps, hwriter⟩ := hleaves
    obtain ⟨hle, hclosed, hwritten, state, hholds, hdescribes, hrecords, hpositions⟩ :=
      hwriter writer rfl
    have hsome : WriterDesk.writer? ⟨⟨after, log⟩, desk.writers ++ [some writer]⟩
        ledger.accounts.length = some writer := by
      rw [WriterDesk.writer?, h.length, List.getElem?_concat_length]
      rfl
    dsimp only
    rw [hsome]
    have hkept : Agrees initial ⟨⟨after, log⟩, desk.writers⟩ ledger := h.keeps hkeeps
    refine hkept.append
      ⟨state, hholds, hdescribes, rfl, ?_, ?_, hclosed.symm, hwritten.symm, ?_⟩ ?_
    · rw [hdescribes.schema]
      rfl
    · rw [hpositions]
      simp
    · intro _
      rw [hrecords]
      rfl
    · intro number other hother
      have haccount : number < ledger.accounts.length := by
        rw [h.length]
        exact (List.getElem?_eq_some_iff.mp hother).1
      obtain ⟨old, holds, -⟩ := h.covers hother (List.getElem?_eq_getElem haccount)
      exact Nat.ne_of_lt (Nat.lt_of_lt_of_le (Memory.lt_nextHandle_of_object? holds.object) hle)

/-! ### Any acts in any order -/

/-- Whatever is done with writers keeps the ledger right. -/
theorem WriterLedger.Agrees.perform (h : Agrees initial desk ledger) (act : WriterAct) :
    Agrees initial (desk.perform act) (ledger.note (desk.perform act) act) := by
  cases act with
  | build steps => exact h.build steps
  | write number record => exact h.write number record
  | writeValues number values => exact h.write number (Value.cells values)
  | close number => exact h.close number
  | drop number => exact h.drop number

theorem WriterLedger.Agrees.performAll (h : Agrees initial desk ledger) (acts : List WriterAct) :
    Agrees initial (desk.performAll acts) (ledger.noteAll desk acts) := by
  induction acts generalizing desk ledger with
  | nil => exact h
  | cons act acts ih => exact ih (h.perform act)

/-- The ledger of a desk without writers is empty. -/
theorem WriterLedger.agrees_start (connection : Connection Memory) :
    Agrees connection.state.store (WriterDesk.start connection) .empty :=
  ⟨rfl, nofun, nofun, [], (List.append_nil _).symm, .nil⟩

/-- The commits to one folder are the accounts delivered to it. -/
theorem WriterLedger.Agrees.commitsTo (h : Agrees initial desk ledger) (path : String) :
    ∃ files, desk.memory.store.commitsTo path = initial.commitsTo path ++ files ∧
      List.Forall₂ WriterAccount.IsFiledAs (ledger.filedTo path) files := by
  obtain ⟨files, hcommits, hfiles⟩ := h.commits
  refine ⟨files.filter fun commit ↦ commit.folder == Store.folderOf path, ?_, ?_⟩
  · unfold Store.commitsTo
    rw [hcommits, List.filter_append]
  · refine List.rel_filter ?_ hfiles
    intro account commit hfiled
    simp only [hfiled.folder]

end ColumnStore
