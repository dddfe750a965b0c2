import SingleTable.Proofs.Expression.Application
import SingleTable.Proofs.Table.Effect

/-!
# Stored empty strings

Insertions and merges leave out attributes that hold the empty string.  An update by an
expression stores whatever its value placeholders stand for, the empty string as well.
Hence a stored row holds the empty string only where an update has set it, and a table
without empty strings gets one exactly when the last step that sets an attribute sets it to
the empty string and no step removes the attribute.
-/

namespace SingleTable

open Outcome

/-- No attribute of the item holds the empty string. -/
def Item.Filled (item : Item) : Prop :=
  ∀ name, item.find? name ≠ some (.string "")

/-- A row does not hold the empty string, whatever cells were given for it. -/
theorem Item.Stores.filled {row : Item} {given : String → Option Cell}
    (hRow : row.Stores given) : row.Filled :=
  fun name hBlank => ((hRow name _).mp hBlank).2 rfl

theorem Item.filled_withoutBlanks (item : Item) : item.withoutBlanks.Filled :=
  item.stores_withoutBlanks.filled

namespace UpdateStep

variable {steps : List UpdateStep} {bindings : Bindings} {start row : Item} {name : String}

/-- The last of the steps that set an attribute sets it to the empty string, and none of
them removes it. -/
def LeaveBlank (steps : List UpdateStep) (bindings : Bindings) (start : Item)
    (name : String) : Prop :=
  steps.any (removes bindings name) = false ∧
    steps.reverse.findSome? (written? bindings start name) = some (.string "")

/-- An update leaves the empty string where its steps do, or where nothing is set or
removed and the empty string was there before. -/
theorem find?_of_applyAll_eq_blank_iff (hApply : applyAll steps bindings start = .ok row) :
    row.find? name = some (.string "") ↔
      LeaveBlank steps bindings start name ∨
        (steps.any (removes bindings name) = false ∧
          steps.reverse.findSome? (written? bindings start name) = none ∧
          start.find? name = some (.string "")) := by
  rw [find?_of_applyAll hApply]
  unfold LeaveBlank
  cases steps.any (removes bindings name) with
  | true => simp
  | false => cases steps.reverse.findSome? (written? bindings start name) <;> simp

/-- An update of an item without empty strings gives one exactly where its steps do. -/
theorem filled_of_applyAll_iff (hApply : applyAll steps bindings start = .ok row)
    (hStart : start.Filled) :
    row.Filled ↔ ∀ name, ¬LeaveBlank steps bindings start name := by
  refine forall_congr' fun name => not_congr ?_
  rw [find?_of_applyAll_eq_blank_iff hApply]
  exact or_iff_left fun hOld => hStart name hOld.2.2

/-- Some step sets the attribute where the steps leave the empty string. -/
theorem LeaveBlank.exists_step (hBlank : LeaveBlank steps bindings start name) :
    ∃ step ∈ steps, step.written? bindings start name = some (.string "") := by
  obtain ⟨step, hMem, hWritten⟩ := List.exists_of_findSome?_eq_some hBlank.2
  exact ⟨step, List.mem_reverse.mp hMem, hWritten⟩

end UpdateStep

/-- The write is an update of the row under a key, with a step that sets an attribute to
the empty string. -/
def RowWrite.SetsBlank (layout : Layout) (key : Key) (name : String) : RowWrite → Prop
  | .updateByExpression keyItem expression bindings =>
    (Table.empty layout).primaryKey keyItem = .ok key ∧
      ∃ step ∈ UpdateStep.ofText expression, ∃ start,
        step.written? bindings start name = some (.string "")
  | _ => False

namespace Table

variable {table next : Table} {key : Key} {row : Item}

/-- No stored row holds the empty string. -/
def Filled (table : Table) : Prop :=
  ∀ key row, (key, row) ∈ table.rows → row.Filled

/-- Every empty string in a row stands under a key and an attribute that `Source` holds of. -/
def BlanksFrom (Source : Key → String → Prop) (table : Table) : Prop :=
  ∀ key row, (key, row) ∈ table.rows → ∀ name, row.find? name = some (.string "") →
    Source key name

theorem mem_put {entry : Key × Item} (hMem : entry ∈ (table.put key row).rows) :
    entry = (key, row) ∨ entry ∈ table.rows :=
  Entries.mem_insert hMem

theorem filled_put (hTable : table.Filled) (hRow : row.Filled) : (table.put key row).Filled := by
  intro other stored hMem
  rcases mem_put hMem with hNew | hOld
  · cases hNew
    exact hRow
  · exact hTable other stored hOld

theorem mem_of_get? (hRow : table.get? key = some row) : (key, row) ∈ table.rows :=
  Entries.mem_of_find?_eq_some hRow

theorem filled_startOf {keyItem : Item} (hTable : table.Filled) :
    (table.startOf key keyItem).Filled := by
  unfold startOf
  cases hRow : table.get? key with
  | none => exact keyItem.filled_withoutBlanks
  | some row => exact hTable key row (mem_of_get? hRow)

/-- A table without empty strings gets one by an update exactly when its steps leave one. -/
theorem filled_updateByExpression_iff {keyItem : Item} {expression : String}
    {bindings : Bindings} (hTable : table.Filled) (hKey : table.primaryKey keyItem = .ok key)
    (hUpdate : table.updateByExpression keyItem expression bindings = .ok (row, next)) :
    next.Filled ↔ ∀ name, ¬UpdateStep.LeaveBlank (UpdateStep.ofText expression) bindings
      (table.startOf key keyItem) name := by
  obtain ⟨other, hOther, _, hApply, rfl⟩ := updateByExpression_eq_ok_iff.mp hUpdate
  have hSame : other = key := Except.ok.inj (hOther.symm.trans hKey)
  subst hSame
  rw [← UpdateStep.filled_of_applyAll_iff hApply (filled_startOf hTable)]
  constructor
  · intro hNext
    exact hNext other row (mem_of_get? (by simp))
  · exact filled_put hTable

variable {Source : Key → String → Prop}

theorem blanksFrom_put (hTable : table.BlanksFrom Source)
    (hRow : ∀ name, row.find? name = some (.string "") → Source key name) :
    (table.put key row).BlanksFrom Source := by
  intro other stored hMem
  rcases mem_put hMem with hNew | hOld
  · cases hNew
    exact hRow
  · exact hTable other stored hOld

theorem blanksFrom_put_of_stores {given : String → Option Cell}
    (hTable : table.BlanksFrom Source) (hRow : row.Stores given) :
    (table.put key row).BlanksFrom Source :=
  blanksFrom_put hTable fun name hBlank => absurd hBlank (hRow.filled name)

/-- An update keeps where empty strings come from, if its steps and the row that it starts
from do. -/
theorem blanksFrom_put_of_revises {layout : Layout} {expression : String} {bindings : Bindings}
    {start : Item} (hTable : table.BlanksFrom Source)
    (hRow : Revises layout expression bindings start row)
    (hSteps : ∀ name, (∃ step ∈ UpdateStep.ofText expression, ∃ item,
      step.written? bindings item name = some (.string "")) → Source key name)
    (hStart : ∀ name, start.find? name = some (.string "") → Source key name) :
    (table.put key row).BlanksFrom Source := by
  apply blanksFrom_put hTable
  intro name hBlank
  rcases (UpdateStep.find?_of_applyAll_eq_blank_iff hRow.applied).mp hBlank with hSet | hOld
  · -- the update itself has set it
    obtain ⟨step, hMem, hWritten⟩ := hSet.exists_step
    exact hSteps name ⟨step, hMem, _, hWritten⟩
  · exact hStart name hOld.2.2

theorem blanksFrom_erase (hTable : table.BlanksFrom Source) (key : Key) :
    (table.erase key).BlanksFrom Source :=
  fun other stored hMem => hTable other stored (List.mem_filter.mp hMem).1

/-- A write of a single row keeps where empty strings come from, if it is such a source
where it sets one itself. -/
theorem blanksFrom_outcome {layout : Layout} {part : RowWrite} (hLayout : table.layout = layout)
    (hPart : ∀ key name, part.SetsBlank layout key name → Source key name)
    (hTable : table.BlanksFrom Source) (hNext : table.outcome part = .ok next) :
    next.BlanksFrom Source := by
  obtain ⟨key, row, hSets, rfl⟩ := outcome_eq_ok_iff.mp hNext
  cases hSets with
  | add hGiven hKey hAbsent hRow => exact blanksFrom_put_of_stores hTable hRow
  | addRow hKey hAbsent hRow => exact blanksFrom_put_of_stores hTable hRow
  | updateAbsent hKey hAbsent hRow => exact blanksFrom_put_of_stores hTable hRow
  | updatePresent hKey hPresent hRow => exact blanksFrom_put_of_stores hTable hRow
  | deleteKey => exact blanksFrom_erase hTable key
  | deleteRow hKey => exact blanksFrom_erase hTable key
  | reviseAbsent hKey hAbsent hStart hRow =>
    exact blanksFrom_put_of_revises hTable hRow
      (fun name hStep => hPart key name ⟨hLayout ▸ hKey, hStep⟩)
      fun name hOld => absurd hOld (hStart.filled name)
  | revisePresent hKey hPresent hRow =>
    exact blanksFrom_put_of_revises hTable hRow
      (fun name hStep => hPart key name ⟨hLayout ▸ hKey, hStep⟩)
      fun name => hTable key _ (mem_of_get? hPresent) name

/-- After every history, an attribute of a stored row holds the empty string only where an
update of the history set it in the row under that key; insertions, merges and the key
items of updates never leave one.  And where no row of the table holds the empty string,
an update that succeeds keeps it so exactly when its steps leave none. -/
theorem stored_blanks_set_by_updates (layout : Layout) (writes : List Write) :
    let table := (empty layout).run writes
    (∀ key row, (key, row) ∈ table.rows → ∀ name, row.find? name = some (.string "") →
      ∃ write ∈ writes, ∃ part ∈ write.parts, part.SetsBlank layout key name) ∧
    (table.Filled → ∀ keyItem expression bindings key row next,
      table.primaryKey keyItem = .ok key →
      table.updateByExpression keyItem expression bindings = .ok (row, next) →
        (next.Filled ↔ ∀ name, ¬UpdateStep.LeaveBlank (UpdateStep.ofText expression) bindings
          (table.startOf key keyItem) name)) := by
  constructor
  · let Source (key : Key) (name : String) : Prop :=
      ∃ write ∈ writes, ∃ part ∈ write.parts, part.SetsBlank layout key name
    have hRun : ((empty layout).run writes).layout = layout ∧
        ((empty layout).run writes).BlanksFrom Source := by
      refine @holds_run (fun table => table.layout = layout ∧ table.BlanksFrom Source)
        (empty layout) writes ?_ ?_ ⟨rfl, nofun⟩
      · intro write hWrite part hMem table next hTable hNext
        have hKept := (preserved_layout layout).keptBy write.parts part hMem table next hTable.1
        refine ⟨hKept hNext, blanksFrom_outcome hTable.1 ?_ hTable.2 hNext⟩
        exact fun key name hSets => ⟨write, hWrite, part, hMem, hSets⟩
      · exact fun _ table hTable => ⟨hTable.1, nofun⟩
    exact hRun.2
  · intro hTable keyItem expression bindings key row next hKey hUpdate
    exact filled_updateByExpression_iff hTable hKey hUpdate

/-- An update that sets an attribute to the empty string. -/
def blankingUpdate : Write :=
  .updateByExpression (.ofList [("pk", .string "a"), ("sk", .string "b")]) "SET #n = :v"
    ⟨.ofList [("#n", "note")], .ofList [(":v", .string "")]⟩

/-- The empty string is stored. -/
theorem blank_stored_by_update : ¬((empty {}).run [blankingUpdate]).Filled := by
  intro hFilled
  have hRow : (⟨"a", some "b"⟩, .ofList [("note", .string ""), ("pk", .string "a"),
      ("sk", .string "b")]) ∈ ((empty {}).run [blankingUpdate]).rows := by
    decide +kernel
  exact hFilled _ _ hRow "note" (by decide +kernel)

end Table

end SingleTable
