import SingleTable.Proofs.Outcome
import SingleTable.Service.Operations

/-!
# Writing single rows

When a write of one row succeeds, and what table it leaves.  Each operation has
one characterisation here, and the proofs about tables use these instead of the
definitions.
-/

namespace SingleTable.Table

open Outcome

variable {table next : Table} {item row : Item} {key : Key} {bindings : Bindings}

@[simp]
theorem layout_put (table : Table) (key : Key) (row : Item) :
    (table.put key row).layout = table.layout := rfl

@[simp]
theorem layout_erase (table : Table) (key : Key) :
    (table.erase key).layout = table.layout := rfl

/-- An insertion succeeds when the item has a primary key under which there is no row. -/
theorem addRow_eq_ok_iff :
    table.addRow item = .ok next ↔
      ∃ key, table.primaryKey item = .ok key ∧ table.get? key = none ∧
        next = table.put key item.withoutBlanks := by
  unfold addRow
  rw [bind_eq_ok_iff]
  refine exists_congr fun key => and_congr_right fun _ => ?_
  cases table.get? key with
  | none =>
    show Except.ok (table.put key item.withoutBlanks) = Except.ok next ↔ _
    rw [Except.ok.injEq, eq_comm]
    simp
  | some row =>
    show Except.error (TableError.duplicateKey key) = Except.ok next ↔ _
    simp

/-- The row that a merge leaves under a key. -/
def upserted (table : Table) (key : Key) (item : Item) : Item :=
  match table.get? key with
  | some row => row.merged item
  | none => item.withoutBlanks

/-- A merge succeeds when the item has a primary key. -/
theorem updateRow_eq_ok_iff :
    table.updateRow item = .ok next ↔
      ∃ key, table.primaryKey item = .ok key ∧
        next = table.put key (table.upserted key item) := by
  unfold updateRow upserted
  rw [bind_eq_ok_iff]
  refine exists_congr fun key => and_congr_right fun _ => ?_
  cases table.get? key with
  | none => rw [pure_eq_ok_iff, eq_comm]
  | some row => rw [pure_eq_ok_iff, eq_comm]

/-- An update step passes the check when its name resolves to an attribute outside
the primary key. -/
theorem checkTarget_eq_ok_iff {step : UpdateStep} :
    table.checkTarget bindings step = .ok () ↔
      ∃ name, bindings.name step.name = .ok name ∧ table.layout.isPrimary name = false := by
  unfold checkTarget
  rw [bind_eq_ok_iff]
  refine exists_congr fun name => ?_
  rw [mapError_eq_ok_iff]
  refine and_congr_right fun _ => ?_
  cases table.layout.isPrimary name <;> simp

/-- The row that an update of a key item starts from. -/
def startOf (table : Table) (key : Key) (keyItem : Item) : Item :=
  (table.get? key).getD keyItem.withoutBlanks

/-- An update expression succeeds when the key item has a primary key, every step
is about an attribute outside of it, and the steps can be applied to the row. -/
theorem updateByExpression_eq_ok_iff {keyItem : Item} {expression : String} :
    table.updateByExpression keyItem expression bindings = .ok (row, next) ↔
      ∃ key, table.primaryKey keyItem = .ok key ∧
        (∀ step ∈ UpdateStep.ofText expression, table.checkTarget bindings step = .ok ()) ∧
        UpdateStep.applyAll (UpdateStep.ofText expression) bindings
          (table.startOf key keyItem) = .ok row ∧
        next = table.put key row := by
  unfold updateByExpression startOf
  rw [bind_eq_ok_iff]
  refine exists_congr fun key => and_congr_right fun _ => ?_
  -- all the checks come before the first step is applied
  rw [← forM_eq_ok_iff]
  constructor
  · intro hRest
    simp only [bind_eq_ok_iff, mapError_eq_ok_iff, pure_eq_ok_iff, Prod.mk.injEq] at hRest
    obtain ⟨⟨⟩, hChecks, result, hResult, rfl, rfl⟩ := hRest
    exact ⟨hChecks, hResult, rfl⟩
  · rintro ⟨hChecks, hResult, rfl⟩
    simp only [bind_eq_ok_iff, mapError_eq_ok_iff, pure_eq_ok_iff, Prod.mk.injEq]
    exact ⟨(), hChecks, row, hResult, rfl, rfl⟩

/-- A deletion succeeds when the item has a primary key. -/
theorem deleteRow_eq_ok_iff {removed : Option Item} :
    table.deleteRow item = .ok (removed, next) ↔
      ∃ key, table.primaryKey item = .ok key ∧ removed = table.get? key ∧
        next = table.erase key := by
  unfold deleteRow deleteKey
  rw [bind_eq_ok_iff]
  refine exists_congr fun key => and_congr_right fun _ => ?_
  rw [pure_eq_ok_iff, Prod.mk.injEq]
  exact and_congr eq_comm eq_comm

end SingleTable.Table
