import ColumnStore.Proofs.Reader.Opening

/-!
# Rows that are handed out

A reader that is lent hands out its rows one by one or several at a time. The backend then has the
rows as well, under new handles, and the reader stands behind them. Closing the reader loses the
rows that are left.
-/

set_option autoImplicit false

namespace ColumnStore.Memory

variable {memory before : Memory} {client : Reader} {schema : Schema} {row : Row} {rest : List Row}

theorem Lends.ends_hasNext (h : before.Lends client.handle (.reader ⟨schema, rest, false⟩) memory)
    (hopen : client.closed = false) :
    Client.Ends backend client.hasNext memory fun result after ↦
      result = .ok !rest.isEmpty ∧
        before.Lends client.handle (.reader ⟨schema, rest, false⟩) after := by
  refine (runs_hasNext h.standsBefore hopen).mono ?_
  rintro result after ⟨rfl, rfl⟩
  exact ⟨rfl, h.counting Operation.hasNextRow.method⟩

/-- The next row gets the next handle. -/
theorem Lends.ends_next
    (h : before.Lends client.handle (.reader ⟨schema, row :: rest, false⟩) memory)
    (hopen : client.closed = false) :
    Client.Ends backend client.next memory fun result after ↦ ∃ middle : Memory,
      result = .ok ⟨middle.nextHandle⟩ ∧
        before.Lends client.handle (.reader ⟨schema, rest, false⟩) middle ∧
        after = middle.pin (.row ⟨schema, row⟩) := by
  have hcounted := h.counting Operation.readRow.method
  have hmoved := hcounted.put (.reader ⟨schema, rest, false⟩)
  have hperform : perform .readRow client.handle [] (memory.counting Operation.readRow.method) =
      ((memory.counting Operation.readRow.method).put client.handle
        (.reader ⟨schema, rest, false⟩)).returnNew (.row ⟨schema, row⟩) := by
    change Memory.readRow client.handle _ = _
    rw [Memory.readRow, hcounted.standsBefore.openReaderOf]
  generalize (memory.counting Operation.readRow.method).put client.handle
    (.reader ⟨schema, rest, false⟩) = middle at hmoved hperform
  have hcall := runs_call h.held.running rfl (congrArg Reply.outcome hperform)
    (congrArg Reply.state hperform)
  unfold Reader.next Reader.whileOpen
  rw [hopen, if_neg Bool.false_ne_true]
  refine hcall.bind ((Client.runs_expect_ok _ _ middle.nextHandle).bind ?_)
  exact Client.ends_pure ⟨middle, rfl, hmoved, rfl⟩

/-- The next rows, as many as asked for and left, get the next handles. -/
theorem Lends.ends_nextBatch
    (h : before.Lends client.handle (.reader ⟨schema, rest, false⟩) memory)
    (hopen : client.closed = false) (hsome : rest ≠ []) {size : Nat}
    (hsize : 0 < size ∧ size ≤ greatestBatch) :
    Client.Ends backend (client.nextBatch size) memory fun result after ↦ ∃ middle : Memory,
      result = .ok ((List.range' middle.nextHandle (rest.take size).length).map HeldRow.mk) ∧
        before.Lends client.handle (.reader ⟨schema, rest.drop size, false⟩) middle ∧
        after = middle.pinAll ((rest.take size).map fun row ↦ .row ⟨schema, row⟩) := by
  obtain ⟨hsame, hpositive⟩ := toInt_ofNat_batch hsize
  have hcounted := h.counting Operation.readRows.method
  have hmoved := hcounted.put (.reader ⟨schema, rest.drop size, false⟩)
  have hperform : perform .readRows client.handle [.int (Int32.ofNat size)]
      (memory.counting Operation.readRows.method) =
        ((memory.counting Operation.readRows.method).put client.handle
          (.reader ⟨schema, rest.drop size, false⟩)).returnAll
            ((rest.take size).map fun row ↦ .row ⟨schema, row⟩) := by
    change (if Int32.ofNat size ≤ 0 then _ else _ : Reply Memory Returned) = _
    rw [if_neg (Int32.not_le.mpr hpositive), hcounted.standsBefore.openReaderOf, hsame]
    exact if_neg (by simpa using hsome)
  generalize (memory.counting Operation.readRows.method).put client.handle
    (.reader ⟨schema, rest.drop size, false⟩) = middle at hmoved hperform
  have hcall := runs_call h.held.running rfl (congrArg Reply.outcome hperform)
    (congrArg Reply.state hperform)
  unfold Reader.nextBatch Reader.whileOpen
  rw [hopen, if_neg Bool.false_ne_true, readBatch, if_pos hsize]
  refine hcall.bind ((Client.runs_expect_ok _ _ (List.range' middle.nextHandle
    ((rest.take size).map fun row ↦ ManagedObject.row ⟨schema, row⟩).length)).bind ?_)
  exact Client.ends_pure ⟨middle, by rw [List.length_map], hmoved, rfl⟩

/-- A reader that is closed is still lent. -/
theorem Lends.ends_close (h : before.Lends client.handle (.reader ⟨schema, rest, false⟩) memory)
    (hopen : client.closed = false) :
    Client.Ends backend client.close memory fun result after ↦
      result = .ok { client with closed := true } ∧
        before.Lends client.handle (.reader ⟨schema, [], true⟩) after := by
  refine (runs_closeReader h.standsBefore hopen).mono ?_
  rintro result after ⟨rfl, rfl⟩
  exact ⟨rfl, (h.counting Operation.closeReader.method).put _⟩

end ColumnStore.Memory
