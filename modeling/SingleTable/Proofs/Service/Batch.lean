import Mathlib.Data.List.Forall2
import SingleTable.Proofs.Service.Transaction

/-!
# Batches and transactions

A batch for one table, each of whose entries asks for one write, is compared with these
writes one after another and with a transaction of the same puts and deletions.  If all
the writes succeed, both leave the table that the writes leave.  Otherwise both report
the error of the first write that fails; the batch then leaves the effect of the writes
before it, and the transaction leaves the table as it was.
-/

namespace SingleTable

open Outcome

namespace WriteEntry

/-- The entry sets exactly one member, which asks for a write of a single row. -/
inductive Asks : WriteEntry → RowWrite → Prop where
  | put (entry : PutEntry) : Asks ⟨some entry, none⟩ (.addRow entry.item)
  | delete (entry : DeleteEntry) : Asks ⟨none, some entry⟩ (.deleteRow entry.key)

theorem exists_asks_iff {entry : WriteEntry} :
    (∃ write, entry.Asks write) ↔ entry.put.isSome ≠ entry.delete.isSome := by
  constructor
  · rintro ⟨write, _ | _⟩ <;> simp
  · intro hOne
    obtain ⟨put, delete⟩ := entry
    cases put with
    | some put =>
      cases delete with
      | some delete => exact absurd rfl hOne
      | none => exact ⟨_, .put put⟩
    | none =>
      cases delete with
      | some delete => exact ⟨_, .delete delete⟩
      | none => exact absurd rfl hOne

/-- The members of the entry as those of an action on a table. -/
def action (table : String) (entry : WriteEntry) : Action where
  put := entry.put.map fun put => ⟨table, put.item⟩
  delete := entry.delete.map fun delete => ⟨table, delete.key⟩
  update := none
  check := none

/-- The only step of an entry does what the entry asks for. -/
theorem Asks.exists_step {entry : WriteEntry} {write : RowWrite} (hAsks : entry.Asks write) :
    ∃ step, Table.WriteStep.ofEntry entry = [step] ∧ step.part = write := by
  cases hAsks with
  | put entry => exact ⟨.put entry.item, rfl, rfl⟩
  | delete entry => exact ⟨.delete entry.key, rfl, rfl⟩

end WriteEntry

/-- The batch of some entries for one table. -/
def BatchRequest.onTable (table : String) (entries : List WriteEntry) : BatchRequest :=
  ⟨NameMap.empty.insert table entries⟩

theorem BatchRequest.steps_onTable (table : String) (entries : List WriteEntry) :
    ((onTable table entries).entries.entries.flatMap Prod.snd).flatMap Table.WriteStep.ofEntry =
      entries.flatMap Table.WriteStep.ofEntry := by
  have hEntries : (onTable table entries).entries.entries = [(table, entries)] := rfl
  simp [hEntries]

namespace Table

variable {table current : Table} {entries : List WriteEntry} {writes : List RowWrite}

/-- Steps that succeed are taken before those behind them. -/
theorem writeSteps_append {steps : List WriteStep}
    (hSteps : (steps.map WriteStep.part).foldlM outcome table = .ok current)
    (rest : List WriteStep) : table.writeSteps (steps ++ rest) = current.writeSteps rest := by
  induction steps generalizing table with
  | nil =>
    cases hSteps
    rfl
  | cons step steps ih =>
    rw [List.map_cons, List.foldlM_cons, bind_eq_ok_iff] at hSteps
    obtain ⟨next, hStep, hOthers⟩ := hSteps
    rw [outcome_part] at hStep
    rw [List.cons_append, writeSteps, hStep]
    exact ih hOthers

theorem writeSteps_of_ok {steps : List WriteStep}
    (hSteps : (steps.map WriteStep.part).foldlM outcome table = .ok current) :
    table.writeSteps steps = (none, current) := by
  have hAll := writeSteps_append hSteps []
  rw [List.append_nil] at hAll
  exact hAll

/-- Steps stop at the first one that fails, with the effect of those before it. -/
theorem writeSteps_of_error {steps : List WriteStep} {before later : List RowWrite}
    {failing : RowWrite} {error : TableError}
    (hSplit : steps.map WriteStep.part = before ++ failing :: later)
    (hBefore : before.foldlM outcome table = .ok current)
    (hFailing : current.outcome failing = .error error) :
    table.writeSteps steps = (some error, current) := by
  obtain ⟨done, rest, rfl, rfl, hRest⟩ := List.map_eq_append_iff.mp hSplit
  obtain ⟨step, others, rfl, rfl, _⟩ := List.map_eq_cons_iff.mp hRest
  rw [outcome_part] at hFailing
  rw [writeSteps_append hBefore, writeSteps, hFailing]

/-- The steps of entries with one member each do what the entries ask for. -/
theorem part_steps (hAsks : List.Forall₂ WriteEntry.Asks entries writes) :
    (entries.flatMap WriteStep.ofEntry).map WriteStep.part = writes := by
  induction hAsks with
  | nil => rfl
  | cons hEntry _ ih =>
    obtain ⟨step, hStep, rfl⟩ := hEntry.exists_step
    rw [List.flatMap_cons, hStep, List.map_append, ih]
    rfl

/-- The actions of a transaction are the writes that the entries ask for. -/
theorem foldlM_act_entries (hAsks : List.Forall₂ WriteEntry.Asks entries writes)
    (name : String) (table : Table) :
    (entries.map (WriteEntry.action name)).foldlM act table =
      (writes.foldlM outcome table).mapError .ofTable := by
  induction hAsks generalizing table with
  | nil => rfl
  | @cons entry write entries writes hEntry _ ih =>
    have hAct : table.act (entry.action name) = (table.outcome write).mapError .ofTable := by
      cases hEntry <;> rfl
    rw [List.map_cons, List.foldlM_cons, List.foldlM_cons, hAct]
    cases table.outcome write with
    | error error => rfl
    | ok next => exact ih next

/-- A batch of single requests for one table agrees with its writes one after another, and
with a transaction of the same puts and deletions.  If all the writes succeed, batch and
transaction succeed and leave the table of the writes.  Otherwise both fail with the error
of the first write that fails, the batch with the effect of the writes before it and the
transaction with the table as it was. -/
theorem batchWrite_agrees_with_transaction (table : Table) (name : String)
    (hAsks : List.Forall₂ WriteEntry.Asks entries writes) :
    let batch : BatchRequest := .onTable name entries
    let transaction : TransactionRequest := ⟨entries.map (WriteEntry.action name)⟩
    match writes.foldlM outcome table with
    | .ok final =>
      table.batchWrite batch = (.ok {}, final) ∧
        table.transactWrite transaction = .ok ({}, final) ∧
        table.after (.transactWrite transaction) = final
    | .error error =>
      ∃ before failing later current, writes = before ++ failing :: later ∧
        before.foldlM outcome table = .ok current ∧ current.outcome failing = .error error ∧
        table.batchWrite batch = (.error (.ofTable error), current) ∧
        table.transactWrite transaction = .error (.ofTable error) ∧
        table.after (.transactWrite transaction) = table := by
  intro batch transaction
  have hParts := part_steps hAsks
  have hActs := foldlM_act_entries hAsks name table
  cases hWrites : writes.foldlM outcome table with
  | ok final =>
    have hSteps : table.writeSteps (entries.flatMap WriteStep.ofEntry) = (none, final) :=
      writeSteps_of_ok (by rw [hParts, hWrites])
    have hTransaction : table.transactWrite transaction = .ok ({}, final) := by
      rw [hWrites] at hActs
      exact bind_ok hActs _
    refine ⟨?_, hTransaction, ?_⟩
    · simp only [batchWrite, batch, BatchRequest.steps_onTable, hSteps]
    · rw [after_transactWrite, hTransaction]
      rfl
  | error error =>
    obtain ⟨before, failing, later, current, hSplit, hBefore, hFailing⟩ :=
      foldlM_eq_error_iff.mp hWrites
    have hSteps : table.writeSteps (entries.flatMap WriteStep.ofEntry) = (some error, current) :=
      writeSteps_of_error (hParts.trans hSplit) hBefore hFailing
    have hTransaction : table.transactWrite transaction = .error (.ofTable error) := by
      rw [hWrites] at hActs
      exact bind_error hActs _
    refine ⟨before, failing, later, current, hSplit, hBefore, hFailing, ?_, hTransaction,
      after_transactWrite_of_error hTransaction⟩
    simp only [batchWrite, batch, BatchRequest.steps_onTable, hSteps]

/-- A row of its key only. -/
def keyRow : Item :=
  .ofList [("pk", .string "a"), ("sk", .string "b")]

/-- The row is put, deleted and put again, and then put where it is. -/
def repeatedPuts : List WriteEntry :=
  [⟨some ⟨keyRow⟩, none⟩, ⟨none, some ⟨keyRow⟩⟩, ⟨some ⟨keyRow⟩, none⟩, ⟨some ⟨keyRow⟩, none⟩]

theorem asks_repeatedPuts :
    List.Forall₂ WriteEntry.Asks repeatedPuts
      [.addRow keyRow, .deleteRow keyRow, .addRow keyRow, .addRow keyRow] :=
  .cons (.put _) (.cons (.delete _) (.cons (.put _) (.cons (.put _) .nil)))

/-- The last put fails: the batch leaves the row, and the transaction leaves no row. -/
theorem batchWrite_agrees_with_transaction_of_repeatedPuts :
    let failure := ServiceError.ofTable (.duplicateKey ⟨"a", some "b"⟩)
    List.Forall₂ WriteEntry.Asks repeatedPuts
        [.addRow keyRow, .deleteRow keyRow, .addRow keyRow, .addRow keyRow] ∧
      (empty {}).batchWrite (.onTable "NA" repeatedPuts) =
        (.error failure, (empty {}).run [.addRow keyRow]) ∧
      (empty {}).transactWrite ⟨repeatedPuts.map (WriteEntry.action "NA")⟩ = .error failure ∧
      (empty {}).after (.transactWrite ⟨repeatedPuts.map (WriteEntry.action "NA")⟩) =
        empty {} := by
  intro failure
  have hWrites : [RowWrite.addRow keyRow, .deleteRow keyRow, .addRow keyRow,
      .addRow keyRow].foldlM outcome (empty {}) = .error (.duplicateKey ⟨"a", some "b"⟩) := rfl
  have hAgree := batchWrite_agrees_with_transaction (empty {}) "NA" asks_repeatedPuts
  simp only [hWrites] at hAgree
  obtain ⟨before, failing, later, current, _, _, _, hBatch, hTransaction, hAfter⟩ := hAgree
  have hTable : ((empty {}).batchWrite (.onTable "NA" repeatedPuts)).2 =
      (empty {}).run [.addRow keyRow] := rfl
  have hCurrent : current = (empty {}).run [.addRow keyRow] := by rwa [hBatch] at hTable
  rw [hCurrent] at hBatch
  exact ⟨asks_repeatedPuts, hBatch, hTransaction, hAfter⟩

end Table

end SingleTable
