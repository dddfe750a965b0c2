import SingleTable.Proofs.Row.Key
import SingleTable.Proofs.Table.History

/-!
# Rows under their own keys

After every history a table files each row under the row's own primary key, in
ascending key order.  Hence a row is found again by its own primary key, and no two
rows share one.  The invariant is `Keyed`; it rests on the fact that no write can
show what a stored row holds under the primary key attributes.
-/

namespace SingleTable

open Outcome

namespace Table

/-- Every row is filed under its own primary key, and the keys are ascending. -/
structure Keyed (table : Table) : Prop where
  ascending : Entries.Ascending table.rows
  filed : ∀ key row, (key, row) ∈ table.rows → table.primaryKey row = .ok key

variable {table : Table} {key : Key} {row : Item}

theorem keyed_empty (layout : Layout) : (empty layout).Keyed where
  ascending := Entries.ascending_nil
  filed := by
    intro key row hMem
    cases hMem

namespace Keyed

theorem get?_eq_some_iff (hKeyed : table.Keyed) :
    table.get? key = some row ↔ (key, row) ∈ table.rows :=
  hKeyed.ascending.mem_iff.symm

/-- What is found under a key has that primary key. -/
theorem primaryKey_of_get? (hKeyed : table.Keyed) (hRow : table.get? key = some row) :
    table.primaryKey row = .ok key :=
  hKeyed.filed key row (hKeyed.get?_eq_some_iff.mp hRow)

theorem put (hKeyed : table.Keyed) (hKey : table.primaryKey row = .ok key) :
    (table.put key row).Keyed where
  ascending := hKeyed.ascending.insert key row
  filed := by
    intro other otherRow hMem
    rcases Entries.mem_insert hMem with hNew | hOld
    · cases hNew
      exact hKey
    · exact hKeyed.filed other otherRow hOld

theorem erase (hKeyed : table.Keyed) (key : Key) : (table.erase key).Keyed where
  ascending := hKeyed.ascending.erase key
  filed := by
    intro other otherRow hMem
    exact hKeyed.filed other otherRow (List.mem_filter.mp hMem).1

theorem addRow {next : Table} {item : Item} (hKeyed : table.Keyed)
    (hAdd : table.addRow item = .ok next) : next.Keyed := by
  obtain ⟨key, hKey, _, rfl⟩ := addRow_eq_ok_iff.mp hAdd
  exact hKeyed.put (primaryKey_withoutBlanks_eq_ok_iff.mpr hKey)

theorem updateRow {next : Table} {item : Item} (hKeyed : table.Keyed)
    (hUpdate : table.updateRow item = .ok next) : next.Keyed := by
  obtain ⟨key, hKey, rfl⟩ := updateRow_eq_ok_iff.mp hUpdate
  refine hKeyed.put ?_
  unfold upserted
  cases table.get? key with
  | none => exact primaryKey_withoutBlanks_eq_ok_iff.mpr hKey
  | some row => exact primaryKey_merged hKey

/-- The row that an update starts from has the primary key of the key item. -/
theorem primaryKey_startOf {keyItem : Item} (hKeyed : table.Keyed)
    (hKey : table.primaryKey keyItem = .ok key) :
    table.primaryKey (table.startOf key keyItem) = .ok key := by
  -- a stored row has the key it is filed under, a new one that of the key item
  unfold startOf
  cases hRow : table.get? key with
  | none => exact primaryKey_withoutBlanks_eq_ok_iff.mpr hKey
  | some row => exact hKeyed.primaryKey_of_get? hRow

theorem updateByExpression {next : Table} {keyItem : Item} {expression : String}
    {bindings : Bindings} (hKeyed : table.Keyed)
    (hUpdate : table.updateByExpression keyItem expression bindings = .ok (row, next)) :
    next.Keyed := by
  obtain ⟨key, hKey, hChecks, hApply, rfl⟩ := updateByExpression_eq_ok_iff.mp hUpdate
  exact hKeyed.put ((primaryKey_of_applyAll hChecks hApply).mpr (hKeyed.primaryKey_startOf hKey))

end Keyed

/-- Every write of a single row keeps the rows under their own keys. -/
theorem preserved_keyed : Preserved Keyed where
  addRow hTable hNext := hTable.addRow hNext
  updateRow hTable hNext := hTable.updateRow hNext
  updateByExpression hTable hNext := hTable.updateByExpression hNext
  erase key hTable := hTable.erase key
  clear {table} _ := keyed_empty table.layout

theorem keyed_run (layout : Layout) (writes : List Write) :
    ((empty layout).run writes).Keyed :=
  preserved_keyed.run (keyed_empty layout) writes

namespace Keyed

/-- No two rows share a primary key. -/
theorem pairwise_primaryKey_ne (hKeyed : table.Keyed) :
    table.items.Pairwise fun a b => table.primaryKey a ≠ table.primaryKey b := by
  unfold items
  rw [List.pairwise_map]
  refine List.Pairwise.imp_of_mem ?_ hKeyed.ascending
  rintro ⟨key, row⟩ ⟨other, otherRow⟩ hMem hOtherMem hBelow hSame
  rw [hKeyed.filed key row hMem, hKeyed.filed other otherRow hOtherMem, Except.ok.injEq] at hSame
  subst hSame
  simp [Std.ReflCmp.compare_self] at hBelow

/-- A stored row is found by its own primary key. -/
theorem get?_primaryKey (hKeyed : table.Keyed) (hRow : row ∈ table.items) :
    ∃ key, table.primaryKey row = .ok key ∧ table.get? key = some row := by
  obtain ⟨⟨key, stored⟩, hMem, rfl⟩ := List.mem_map.mp hRow
  exact ⟨key, hKeyed.filed key stored hMem, hKeyed.get?_eq_some_iff.mpr hMem⟩

/-- The rows are listed in ascending order of their keys. -/
theorem pairwise_precedes (hKeyed : table.Keyed) :
    table.rows.Pairwise fun a b => a.1.Precedes b.1 :=
  hKeyed.ascending.imp Key.compare_eq_lt_iff.mp

end Keyed

/-- After every history, whether its writes succeed or fail, each row is filed under
its own primary key, the rows are listed in strictly ascending key order, no two rows
share a primary key, and every row is what is found under its primary key. -/
theorem rows_filed_under_own_keys (layout : Layout) (writes : List Write) :
    let table := (empty layout).run writes
    table.layout = layout ∧
      (∀ key row, (key, row) ∈ table.rows → table.primaryKey row = .ok key) ∧
      (table.rows.Pairwise fun a b => a.1.Precedes b.1) ∧
      (table.items.Pairwise fun a b => table.primaryKey a ≠ table.primaryKey b) ∧
      ∀ row ∈ table.items, ∃ key, table.primaryKey row = .ok key ∧
        table.get? key = some row := by
  have hKeyed := keyed_run layout writes
  refine ⟨layout_run layout writes, hKeyed.filed, hKeyed.pairwise_precedes,
    hKeyed.pairwise_primaryKey_ne, ?_⟩
  intro row hRow
  exact hKeyed.get?_primaryKey hRow

end Table

end SingleTable
