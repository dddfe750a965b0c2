import SingleTable.Proofs.Table.Write

/-!
# Histories of a table

A history is a list of writes, each of which may succeed or fail.  A failed write of
a single row or a failed transaction leaves the table as it is, while operations on
several rows keep what they did before the failure.  Every write comes down to writes
of single rows, its parts: those that it carries out succeed one after another and lead
to the table after it (`foldlM_carriedOut`), so a history keeps what the parts of its
writes keep (`holds_run`).  What holds of the empty table and is kept by all writes of
single rows holds after every history (`Preserved.run`).
-/

namespace SingleTable

open Outcome

/-- One write to a table, by the table's own operations or by those of the service.
A batch lists the tables of its entries in name order; entries in any other order
are those of a batch for one table. -/
inductive Write where
  | add (partition : String) (sort global1 global2 : Option String) (others : Item)
  | addRow (item : Item)
  | addRows (items : List Item)
  | updateRow (item : Item)
  | updateRows (items : List Item)
  | updateByExpression (keyItem : Item) (expression : String) (bindings : Bindings)
  | deleteKey (key : Key)
  | deleteRow (item : Item)
  | deleteRows (items : List Item)
  | clear
  | updateItem (request : UpdateRequest)
  | deleteItem (request : DeleteRequest)
  | batchWrite (request : BatchRequest)
  | transactWrite (request : TransactionRequest)

/-- A write of a single row by one of the table's own operations. -/
inductive RowWrite where
  | add (partition : String) (sort global1 global2 : Option String) (others : Item)
  | addRow (item : Item)
  | updateRow (item : Item)
  | updateByExpression (keyItem : Item) (expression : String) (bindings : Bindings)
  | deleteKey (key : Key)
  | deleteRow (item : Item)

/-- The write as an entry of a history. -/
def RowWrite.toWrite : RowWrite → Write
  | .add partition sort global1 global2 others => .add partition sort global1 global2 others
  | .addRow item => .addRow item
  | .updateRow item => .updateRow item
  | .updateByExpression keyItem expression bindings =>
    .updateByExpression keyItem expression bindings
  | .deleteKey key => .deleteKey key
  | .deleteRow item => .deleteRow item

namespace Table

/-- The table that an operation gives, or the table as it is if the operation fails. -/
def orStay {ε : Type} (table : Table) (outcome : Except ε Table) : Table :=
  match outcome with
  | .ok next => next
  | .error _ => table

/-- The outcome of a write of a single row. -/
def outcome (table : Table) : RowWrite → Result Table
  | .add partition sort global1 global2 others =>
    table.add partition sort global1 global2 others
  | .addRow item => table.addRow item
  | .updateRow item => table.updateRow item
  | .updateByExpression keyItem expression bindings =>
    (table.updateByExpression keyItem expression bindings).map Prod.snd
  | .deleteKey key => .ok (table.deleteKey key).2
  | .deleteRow item => (table.deleteRow item).map Prod.snd

/-- The table after a write, whether it succeeds or fails. -/
def after (table : Table) : Write → Table
  | .add partition sort global1 global2 others =>
    table.orStay (table.add partition sort global1 global2 others)
  | .addRow item => table.orStay (table.addRow item)
  | .addRows items => (table.addRows items).2
  | .updateRow item => table.orStay (table.updateRow item)
  | .updateRows items => (table.updateRows items).2
  | .updateByExpression keyItem expression bindings =>
    table.orStay ((table.updateByExpression keyItem expression bindings).map Prod.snd)
  | .deleteKey key => (table.deleteKey key).2
  | .deleteRow item => table.orStay ((table.deleteRow item).map Prod.snd)
  | .deleteRows items => (table.deleteRows items).2
  | .clear => table.clear
  | .updateItem request => table.orStay ((table.updateItem request).map Prod.snd)
  | .deleteItem request => table.orStay ((table.deleteItem request).map Prod.snd)
  | .batchWrite request => (table.batchWrite request).2
  | .transactWrite request => table.orStay ((table.transactWrite request).map Prod.snd)

/-- The table after a history. -/
def run (table : Table) (writes : List Write) : Table :=
  writes.foldl after table

@[simp]
theorem run_nil (table : Table) : table.run [] = table := rfl

@[simp]
theorem run_cons (table : Table) (write : Write) (writes : List Write) :
    table.run (write :: writes) = (table.after write).run writes := rfl

/-- The steps of a batch in order. -/
def WriteStep.ofRequest (request : BatchRequest) : List WriteStep :=
  (request.entries.entries.flatMap Prod.snd).flatMap ofEntry

/-- A batch leaves the table that its steps leave, whether one of them fails or not. -/
theorem batchWrite_table (table : Table) (request : BatchRequest) :
    (table.batchWrite request).2 = (table.writeSteps (WriteStep.ofRequest request)).2 := by
  unfold batchWrite WriteStep.ofRequest
  cases hSteps : table.writeSteps _ with
  | mk failure next =>
    cases failure with
    | none => simp only [hSteps]
    | some error => simp only [hSteps]

end Table

/-- The step of a batch as a write of a single row. -/
def Table.WriteStep.part : Table.WriteStep → RowWrite
  | .put item => .addRow item
  | .delete key => .deleteRow key

/-- The writes of single rows that an action of a transaction stands for: the first
member that is set decides, and a condition check writes nothing. -/
def Action.parts : Action → List RowWrite
  | ⟨some put, _, _, _⟩ => [.addRow put.item]
  | ⟨none, some delete, _, _⟩ => [.deleteRow delete.key]
  | ⟨none, none, some update, _⟩ =>
    [.updateByExpression update.key update.expression update.bindings]
  | ⟨none, none, none, _⟩ => []

/-- The writes of single rows that a write comes down to.  Where the write fails on the
way, only some of them are done. -/
def Write.parts : Write → List RowWrite
  | .add partition sort global1 global2 others => [.add partition sort global1 global2 others]
  | .addRow item => [.addRow item]
  | .addRows items => items.map .addRow
  | .updateRow item => [.updateRow item]
  | .updateRows items => items.map .updateRow
  | .updateByExpression keyItem expression bindings =>
    [.updateByExpression keyItem expression bindings]
  | .deleteKey key => [.deleteKey key]
  | .deleteRow item => [.deleteRow item]
  | .deleteRows items => items.map .deleteRow
  | .clear => []
  | .updateItem request =>
    [.updateByExpression request.key (request.expression.getD "") request.bindings]
  | .deleteItem request => [.deleteRow request.key]
  | .batchWrite request => (Table.WriteStep.ofRequest request).map Table.WriteStep.part
  | .transactWrite request => request.actions.flatMap Action.parts

namespace Table

/-- Those of several writes of single rows, taken in order, that stand before the first one
that fails. -/
def succeeding : Table → List RowWrite → List RowWrite
  | _, [] => []
  | table, part :: rest =>
    match table.outcome part with
    | .ok next => part :: next.succeeding rest
    | .error _ => []

/-- The writes of single rows that a write carries out: all or none of the parts of a
transaction, and the parts of any other write before the first one that fails. -/
def carriedOut (table : Table) : Write → List RowWrite
  | .transactWrite request =>
    match table.transactWrite request with
    | .ok _ => request.actions.flatMap Action.parts
    | .error _ => []
  | write => table.succeeding write.parts

section Parts

variable {Holds : Table → Prop} {table next : Table}

theorem succeeding_subset (table : Table) (parts : List RowWrite) :
    table.succeeding parts ⊆ parts := by
  induction parts generalizing table with
  | nil => exact List.Subset.refl []
  | cons part rest ih =>
    rw [succeeding]
    cases table.outcome part with
    | error error => exact List.nil_subset _
    | ok next => exact List.cons_subset_cons part (ih next)

/-- Only parts of a write are carried out. -/
theorem carriedOut_subset (table : Table) (write : Write) :
    table.carriedOut write ⊆ write.parts := by
  cases write with
  | transactWrite request =>
    rw [carriedOut]
    cases table.transactWrite request with
    | error error => exact List.nil_subset _
    | ok next => exact List.Subset.refl _
  | _ => exact table.succeeding_subset _

theorem foldlM_succeeding_single (table : Table) (part : RowWrite) :
    (table.succeeding [part]).foldlM outcome table = .ok (table.orStay (table.outcome part)) := by
  rw [succeeding]
  cases hPart : table.outcome part with
  | error error => rfl
  | ok next =>
    show table.outcome part >>= _ = _
    rw [hPart]
    rfl

/-- Items are written as far as their writes succeed. -/
theorem foldlM_succeeding_writeAll {write : Table → Item → Result Table} {part : Item → RowWrite}
    (hPart : ∀ table item, write table item = outcome table (part item)) (table : Table)
    (items : List Item) :
    (table.succeeding (items.map part)).foldlM outcome table =
      .ok (table.writeAll write items).2 := by
  induction items generalizing table with
  | nil => rfl
  | cons item rest ih =>
    rw [writeAll, List.map_cons, succeeding, hPart]
    cases hItem : table.outcome (part item) with
    | error error => rfl
    | ok next =>
      rw [List.foldlM_cons, bind_ok hItem]
      exact ih next

theorem outcome_deleteRow (table : Table) (item : Item) :
    table.outcome (.deleteRow item) = do return (← table.deleteRow item).2 := by
  show (table.deleteRow item).map Prod.snd = _
  cases table.deleteRow item <;> rfl

theorem outcome_part (table : Table) (step : WriteStep) :
    table.outcome step.part = table.write step := by
  cases step with
  | put item => rfl
  | delete key => exact table.outcome_deleteRow key

/-- The steps of a batch are taken as far as they succeed. -/
theorem foldlM_succeeding_writeSteps (table : Table) (steps : List WriteStep) :
    (table.succeeding (steps.map WriteStep.part)).foldlM outcome table =
      .ok (table.writeSteps steps).2 := by
  induction steps generalizing table with
  | nil => rfl
  | cons step rest ih =>
    rw [writeSteps, List.map_cons, succeeding, ← outcome_part]
    cases hStep : table.outcome step.part with
    | error error => rfl
    | ok next =>
      rw [List.foldlM_cons, bind_ok hStep]
      exact ih next

/-- An action that succeeds has carried out its parts. -/
theorem foldlM_parts_of_act {action : Action} (hAct : table.act action = .ok next) :
    action.parts.foldlM outcome table = .ok next := by
  have hOnly : ∀ part, table.outcome part = .ok next → [part].foldlM outcome table = .ok next := by
    intro part hPart
    rw [List.foldlM_cons, bind_ok hPart]
    rfl
  obtain ⟨put, delete, update, check⟩ := action
  -- the first member that is set decides, so they are split in that order
  cases put with
  | some put =>
    unfold act at hAct
    rw [mapError_eq_ok_iff] at hAct
    exact hOnly _ hAct
  | none =>
  cases delete with
  | some delete =>
    unfold act at hAct
    rw [mapError_eq_ok_iff] at hAct
    exact hOnly _ hAct
  | none =>
  cases update with
  | some update =>
    unfold act at hAct
    rw [mapError_eq_ok_iff] at hAct
    exact hOnly _ hAct
  | none =>
  cases check with
  | some check =>
    cases hAct
    rfl
  | none => cases hAct

/-- Actions that all succeed have carried out all their parts. -/
theorem foldlM_parts_of_foldlM_act {actions : List Action}
    (hActs : actions.foldlM act table = .ok next) :
    (actions.flatMap Action.parts).foldlM outcome table = .ok next := by
  induction actions generalizing table with
  | nil =>
    cases hActs
    rfl
  | cons action rest ih =>
    rw [List.foldlM_cons, bind_eq_ok_iff] at hActs
    obtain ⟨middle, hMiddle, hRest⟩ := hActs
    rw [List.flatMap_cons, List.foldlM_append, bind_ok (foldlM_parts_of_act hMiddle)]
    exact ih hRest

theorem after_updateItem (table : Table) (request : UpdateRequest) :
    table.after (.updateItem request) = table.orStay (table.outcome
      (.updateByExpression request.key (request.expression.getD "") request.bindings)) := by
  simp only [after, outcome]
  unfold updateItem
  cases table.updateByExpression request.key (request.expression.getD "") request.bindings <;> rfl

theorem after_deleteItem (table : Table) (request : DeleteRequest) :
    table.after (.deleteItem request) = table.orStay (table.outcome (.deleteRow request.key)) := by
  simp only [after, outcome]
  unfold deleteItem
  cases table.deleteRow request.key <;> rfl

/-- The parts that a write carries out succeed one after another, and lead to the table after
the write. -/
theorem foldlM_carriedOut (table : Table) {write : Write} (hWrite : write ≠ .clear) :
    (table.carriedOut write).foldlM outcome table = .ok (table.after write) := by
  cases write with
  | clear => exact absurd rfl hWrite
  | addRows items => exact foldlM_succeeding_writeAll (fun _ _ => rfl) table items
  | updateRows items => exact foldlM_succeeding_writeAll (fun _ _ => rfl) table items
  | deleteRows items =>
    exact foldlM_succeeding_writeAll (fun table item => (table.outcome_deleteRow item).symm)
      table items
  | deleteKey key => exact table.foldlM_succeeding_single (.deleteKey key)
  | updateItem request =>
    rw [after_updateItem]
    exact table.foldlM_succeeding_single _
  | deleteItem request =>
    rw [after_deleteItem]
    exact table.foldlM_succeeding_single _
  | batchWrite request =>
    rw [after, batchWrite_table]
    exact table.foldlM_succeeding_writeSteps _
  | transactWrite request =>
    rw [carriedOut, after]
    cases hActs : request.actions.foldlM act table with
    | error error =>
      have hRequest : table.transactWrite request = .error error := bind_error hActs _
      rw [hRequest]
      rfl
    | ok next =>
      have hRequest : table.transactWrite request = .ok ({}, next) := bind_ok hActs _
      rw [hRequest]
      exact foldlM_parts_of_foldlM_act hActs
  | _ => exact table.foldlM_succeeding_single _

/-- Each of the writes keeps a property of tables when it succeeds. -/
def KeptBy (Holds : Table → Prop) (parts : List RowWrite) : Prop :=
  ∀ part ∈ parts, ∀ table next, Holds table → table.outcome part = .ok next → Holds next

/-- A write keeps what the parts that it carries out keep. -/
theorem holds_after_of_carriedOut {write : Write} (hParts : KeptBy Holds (table.carriedOut write))
    (hClear : write = .clear → ∀ table, Holds table → Holds table.clear) (hTable : Holds table) :
    Holds (table.after write) := by
  by_cases hWrite : write = .clear
  · subst hWrite
    exact hClear rfl table hTable
  · exact foldlM_induct hParts hTable (table.foldlM_carriedOut hWrite)

/-- A write keeps what its parts keep. -/
theorem holds_after {write : Write} (hParts : KeptBy Holds write.parts)
    (hClear : write = .clear → ∀ table, Holds table → Holds table.clear) (hTable : Holds table) :
    Holds (table.after write) :=
  holds_after_of_carriedOut (fun part hMem => hParts part (table.carriedOut_subset write hMem))
    hClear hTable

/-- A history keeps what the parts of its writes keep. -/
theorem holds_run {writes : List Write} (hParts : ∀ write ∈ writes, KeptBy Holds write.parts)
    (hClear : .clear ∈ writes → ∀ table, Holds table → Holds table.clear) (hTable : Holds table) :
    Holds (table.run writes) := by
  induction writes generalizing table with
  | nil => exact hTable
  | cons write rest ih =>
    obtain ⟨hWrite, hRest⟩ := List.forall_mem_cons.mp hParts
    refine ih hRest (fun hMem => hClear (List.mem_cons_of_mem _ hMem)) ?_
    exact holds_after hWrite (fun hSame => hClear (hSame ▸ List.mem_cons_self)) hTable

end Parts

/-- A property of tables that every write of a single row keeps. -/
structure Preserved (Holds : Table → Prop) : Prop where
  addRow : ∀ {table next item}, Holds table → table.addRow item = .ok next → Holds next
  updateRow : ∀ {table next item}, Holds table → table.updateRow item = .ok next → Holds next
  updateByExpression : ∀ {table next keyItem expression bindings row}, Holds table →
    table.updateByExpression keyItem expression bindings = .ok (row, next) → Holds next
  erase : ∀ {table} key, Holds table → Holds (table.erase key)
  clear : ∀ {table}, Holds table → Holds table.clear

namespace Preserved

variable {Holds : Table → Prop} (hHolds : Preserved Holds)
include hHolds

theorem keptBy (parts : List RowWrite) : KeptBy Holds parts := by
  intro part _ table next hTable hNext
  cases part with
  | add partition sort global1 global2 others => exact hHolds.addRow hTable hNext
  | addRow item => exact hHolds.addRow hTable hNext
  | updateRow item => exact hHolds.updateRow hTable hNext
  | updateByExpression keyItem expression bindings =>
    obtain ⟨⟨row, _⟩, hUpdate, rfl⟩ := map_eq_ok_iff.mp hNext
    exact hHolds.updateByExpression hTable hUpdate
  | deleteKey key =>
    cases hNext
    exact hHolds.erase key hTable
  | deleteRow item =>
    obtain ⟨⟨removed, _⟩, hDelete, rfl⟩ := map_eq_ok_iff.mp hNext
    obtain ⟨key, _, _, rfl⟩ := deleteRow_eq_ok_iff.mp hDelete
    exact hHolds.erase key hTable

theorem after {table : Table} (hTable : Holds table) (write : Write) :
    Holds (table.after write) :=
  holds_after (hHolds.keptBy write.parts) (fun _ _ => hHolds.clear) hTable

/-- What the writes of single rows keep holds after every history. -/
theorem run {table : Table} (hTable : Holds table) (writes : List Write) :
    Holds (table.run writes) :=
  holds_run (fun write _ => hHolds.keptBy write.parts) (fun _ _ => hHolds.clear) hTable

end Preserved

/-- A table keeps its layout. -/
theorem preserved_layout (layout : Layout) : Preserved fun table => table.layout = layout where
  addRow hTable hNext := by
    obtain ⟨key, _, _, rfl⟩ := addRow_eq_ok_iff.mp hNext
    exact hTable
  updateRow hTable hNext := by
    obtain ⟨key, _, rfl⟩ := updateRow_eq_ok_iff.mp hNext
    exact hTable
  updateByExpression hTable hNext := by
    obtain ⟨key, _, _, _, rfl⟩ := updateByExpression_eq_ok_iff.mp hNext
    exact hTable
  erase _ hTable := hTable
  clear hTable := hTable

@[simp]
theorem layout_run (layout : Layout) (writes : List Write) :
    ((empty layout).run writes).layout = layout :=
  (preserved_layout layout).run rfl writes

end Table

end SingleTable
