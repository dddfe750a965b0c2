import SingleTable.Proofs.Table.Effect
import SingleTable.Proofs.Table.Keyed

/-!
# Writes and their own rows

A write of a single row reads and changes the row under its own key and no other one.
`RowWrite.effect` says what it does as a function of that row alone: what it hands back
and what it leaves under the key, or why it fails.  Once a write has a key, it comes down
to having this effect there (`reply_of_key`).  Hence two writes of different keys may
change places.
-/

namespace SingleTable

open Outcome

namespace Table

/-- What a write of a single row gives: the row it hands back, if any, and the next table. -/
def reply (table : Table) : RowWrite → Result (Option Item × Table)
  | .add partition sort global1 global2 others =>
    (table.add partition sort global1 global2 others).map fun next => (none, next)
  | .addRow item => (table.addRow item).map fun next => (none, next)
  | .updateRow item => (table.updateRow item).map fun next => (none, next)
  | .updateByExpression keyItem expression bindings =>
    (table.updateByExpression keyItem expression bindings).map fun given => (some given.1, given.2)
  | .deleteKey key => .ok (table.deleteKey key)
  | .deleteRow item => table.deleteRow item

/-- What a caller learns from a write: the row it hands back, if any, or why it fails. -/
def answer (table : Table) (write : RowWrite) : Result (Option Item) :=
  (table.reply write).map Prod.fst

theorem outcome_eq_map_reply (table : Table) (write : RowWrite) :
    table.outcome write = (table.reply write).map Prod.snd := by
  cases write with
  | add partition sort global1 global2 others =>
    simp only [outcome, reply]
    cases table.add partition sort global1 global2 others <;> rfl
  | addRow item =>
    simp only [outcome, reply]
    cases table.addRow item <;> rfl
  | updateRow item =>
    simp only [outcome, reply]
    cases table.updateRow item <;> rfl
  | updateByExpression keyItem expression bindings =>
    simp only [outcome, reply]
    cases table.updateByExpression keyItem expression bindings <;> rfl
  | deleteKey key => rfl
  | deleteRow item => rfl

end Table

namespace RowWrite

/-- The key of the row that a write is about. -/
def key (layout : Layout) : RowWrite → Table.Result Key
  | .add partition sort global1 global2 others =>
    (Table.empty layout).primaryKey (Table.itemOf layout partition sort global1 global2 others)
  | .addRow item => (Table.empty layout).primaryKey item
  | .updateRow item => (Table.empty layout).primaryKey item
  | .updateByExpression keyItem _ _ => (Table.empty layout).primaryKey keyItem
  | .deleteKey key => .ok key
  | .deleteRow item => (Table.empty layout).primaryKey item

/-- What an insertion does where `old` is found under its key. -/
def insertion (key : Key) (old : Option Item) (item : Item) :
    Table.Result (Option Item × Option Item) :=
  match old with
  | some _ => .error (.duplicateKey key)
  | none => .ok (none, some item.withoutBlanks)

/-- What a write does where `old` is found under its key: the row it hands back, if any, and
the row it leaves under the key, if any. -/
def effect (layout : Layout) (key : Key) (old : Option Item) :
    RowWrite → Table.Result (Option Item × Option Item)
  | .add partition sort global1 global2 others =>
    insertion key old (Table.itemOf layout partition sort global1 global2 others)
  | .addRow item => insertion key old item
  | .updateRow item =>
    match old with
    | some row => .ok (none, some (row.merged item))
    | none => .ok (none, some item.withoutBlanks)
  | .updateByExpression keyItem expression bindings => do
    (UpdateStep.ofText expression).forM ((Table.empty layout).checkTarget bindings)
    let row ← ((old.getD keyItem.withoutBlanks).updated expression bindings).mapError .expression
    return (some row, some row)
  | .deleteKey _ => .ok (old, none)
  | .deleteRow _ => .ok (old, none)

end RowWrite

namespace Table

variable {table : Table} {write : RowWrite} {key other : Key}

theorem addRow_of_key {item : Item} (hKey : table.primaryKey item = .ok key) :
    (table.addRow item).map (fun next => ((none : Option Item), next)) =
      (RowWrite.insertion key (table.get? key) item).map
        fun given => (given.1, table.set key given.2) := by
  unfold addRow
  rw [bind_ok hKey]
  cases table.get? key <;> rfl

theorem updateRow_of_key {item : Item} (hKey : table.primaryKey item = .ok key) :
    table.reply (.updateRow item) = ((RowWrite.updateRow item).effect table.layout key
      (table.get? key)).map fun given => (given.1, table.set key given.2) := by
  simp only [reply, RowWrite.effect]
  unfold updateRow
  rw [bind_ok hKey]
  cases table.get? key <;> rfl

theorem updateByExpression_of_key {keyItem : Item} {expression : String} {bindings : Bindings}
    (hKey : table.primaryKey keyItem = .ok key) :
    table.reply (.updateByExpression keyItem expression bindings) =
      ((RowWrite.updateByExpression keyItem expression bindings).effect table.layout key
        (table.get? key)).map fun given => (given.1, table.set key given.2) := by
  simp only [reply, RowWrite.effect]
  unfold updateByExpression
  rw [bind_ok hKey]
  -- the layout alone decides which steps pass the check
  show Except.map _ ((UpdateStep.ofText expression).forM (table.checkTarget bindings) >>= _) =
    Except.map _ ((UpdateStep.ofText expression).forM (table.checkTarget bindings) >>= _)
  cases (UpdateStep.ofText expression).forM (table.checkTarget bindings) with
  | error error => rfl
  | ok _ =>
    show Except.map _ (Except.mapError _ (((table.get? key).getD keyItem.withoutBlanks).updated
      expression bindings) >>= _) = _
    cases ((table.get? key).getD keyItem.withoutBlanks).updated expression bindings <;> rfl

/-- A write with a key has its effect on the row there, and hands back what the effect gives. -/
theorem reply_of_key (hKey : write.key table.layout = .ok key) :
    table.reply write = (write.effect table.layout key (table.get? key)).map
      fun given => (given.1, table.set key given.2) := by
  cases write with
  | add partition sort global1 global2 others => exact addRow_of_key hKey
  | addRow item => exact addRow_of_key hKey
  | updateRow item => exact updateRow_of_key hKey
  | updateByExpression keyItem expression bindings => exact updateByExpression_of_key hKey
  | deleteKey other =>
    cases hKey
    rfl
  | deleteRow item =>
    have hPrimary : table.primaryKey item = .ok key := hKey
    simp only [reply, deleteRow]
    rw [bind_ok hPrimary]
    rfl

/-- A write without a key fails for the reason why it has none. -/
theorem reply_of_key_error {error : TableError} (hKey : write.key table.layout = .error error) :
    table.reply write = .error error := by
  have hFails : ∀ {α : Type} {item : Item} (next : Key → Result α),
      table.primaryKey item = .error error → (table.primaryKey item >>= next) = .error error :=
    fun next hItem => bind_error hItem next
  cases write with
  | add partition sort global1 global2 others =>
    exact congrArg (Except.map _) (hFails _ hKey)
  | addRow item => exact congrArg (Except.map _) (hFails _ hKey)
  | updateRow item => exact congrArg (Except.map _) (hFails _ hKey)
  | updateByExpression keyItem expression bindings =>
    exact congrArg (Except.map _) (hFails _ hKey)
  | deleteKey other => cases hKey
  | deleteRow item => exact hFails _ hKey

theorem answer_of_key (hKey : write.key table.layout = .ok key) :
    table.answer write = (write.effect table.layout key (table.get? key)).map Prod.fst := by
  unfold answer
  rw [reply_of_key hKey]
  cases write.effect table.layout key (table.get? key) <;> rfl

theorem after_of_key (hKey : write.key table.layout = .ok key) :
    table.after write.toWrite = table.orStay
      ((write.effect table.layout key (table.get? key)).map fun given => table.set key given.2) := by
  rw [after_toWrite, outcome_eq_map_reply, reply_of_key hKey]
  cases write.effect table.layout key (table.get? key) <;> rfl

@[simp]
theorem layout_set (table : Table) (key : Key) (row : Option Item) :
    (table.set key row).layout = table.layout := by
  cases row <;> rfl

/-- A write leaves the layout and the rows under all keys but its own. -/
theorem after_frame (hKey : write.key table.layout = .ok key) :
    (table.after write.toWrite).layout = table.layout ∧
      ∀ other, key ≠ other → (table.after write.toWrite).get? other = table.get? other := by
  rw [after_of_key hKey]
  cases write.effect table.layout key (table.get? key) with
  | error error => exact ⟨rfl, fun _ _ => rfl⟩
  | ok given =>
    show (table.set key given.2).layout = table.layout ∧
      ∀ other, key ≠ other → (table.set key given.2).get? other = table.get? other
    constructor
    · simp
    · intro other hDiffer
      simp [hDiffer]

/-- Tables with one layout and the same rows under all keys are equal. -/
theorem ext_get? {next : Table} (hLayout : table.layout = next.layout)
    (hTable : Entries.Ascending table.rows) (hNext : Entries.Ascending next.rows)
    (hGet : ∀ key, table.get? key = next.get? key) : table = next := by
  have hRows : table.rows = next.rows := hTable.ext hNext hGet
  cases table
  cases next
  simp_all

theorem ascending_set (hAscending : Entries.Ascending table.rows) (key : Key)
    (row : Option Item) : Entries.Ascending (table.set key row).rows := by
  cases row with
  | none => exact hAscending.erase key
  | some row => exact hAscending.insert key row

/-- What is set under two different keys may be set in either order. -/
theorem set_comm (hAscending : Entries.Ascending table.rows) (hDiffer : key ≠ other)
    (row otherRow : Option Item) :
    (table.set key row).set other otherRow = (table.set other otherRow).set key row := by
  apply ext_get?
  · simp
  · exact ascending_set (ascending_set hAscending key row) other otherRow
  · exact ascending_set (ascending_set hAscending other otherRow) key row
  · intro third
    by_cases hFirst : key = third
    · have hSecond : ¬other = third := fun hSame => hDiffer (hFirst.trans hSame.symm)
      simp [hFirst, hSecond]
    · simp [hFirst]

variable {first second : RowWrite}

/-- A write is answered alike before and after a write of another key. -/
theorem answer_after (hFirst : first.key table.layout = .ok key)
    (hSecond : second.key table.layout = .ok other) (hDiffer : key ≠ other) :
    (table.after second.toWrite).answer first = table.answer first := by
  obtain ⟨hLayout, hRows⟩ := after_frame hSecond
  rw [answer_of_key hFirst, answer_of_key (hLayout ▸ hFirst), hLayout, hRows key hDiffer.symm]

/-- A write has the same effect before and after a write of another key. -/
theorem after_after (hFirst : first.key table.layout = .ok key)
    (hSecond : second.key table.layout = .ok other) (hDiffer : key ≠ other) :
    (table.after first.toWrite).after second.toWrite = (table.after first.toWrite).orStay
      ((second.effect table.layout other (table.get? other)).map
        fun given => (table.after first.toWrite).set other given.2) := by
  obtain ⟨hLayout, hRows⟩ := after_frame hFirst
  have hThen : second.key (table.after first.toWrite).layout = .ok other := by
    rw [hLayout]
    exact hSecond
  rw [after_of_key hThen, hLayout, hRows other hDiffer]

/-- Two writes of different keys leave the same table in either order. -/
theorem after_comm (hAscending : Entries.Ascending table.rows)
    (hFirst : first.key table.layout = .ok key) (hSecond : second.key table.layout = .ok other)
    (hDiffer : key ≠ other) :
    (table.after first.toWrite).after second.toWrite =
      (table.after second.toWrite).after first.toWrite := by
  rw [after_after hFirst hSecond hDiffer, after_after hSecond hFirst hDiffer.symm,
    after_of_key hFirst, after_of_key hSecond]
  -- both effects are those on the table before the two writes
  cases first.effect table.layout key (table.get? key) with
  | error error => cases second.effect table.layout other (table.get? other) <;> rfl
  | ok given =>
    cases second.effect table.layout other (table.get? other) with
    | error error => rfl
    | ok otherGiven => exact set_comm hAscending hDiffer given.2 otherGiven.2

/-- After every history, two writes of single rows whose keys are valid and differ may change
places: either one is answered as it would be without the other, by the same row or the same
error, and the table they leave is the same, with its rows in the same order. -/
theorem writes_to_different_keys_commute (layout : Layout) (history : List Write)
    (hFirst : first.key layout = .ok key) (hSecond : second.key layout = .ok other)
    (hDiffer : key ≠ other) :
    let table := (empty layout).run history
    (table.after second.toWrite).answer first = table.answer first ∧
      (table.after first.toWrite).answer second = table.answer second ∧
      (table.after first.toWrite).after second.toWrite =
        (table.after second.toWrite).after first.toWrite := by
  intro table
  have hLayout : table.layout = layout := layout_run layout history
  rw [← hLayout] at hFirst hSecond
  exact ⟨answer_after hFirst hSecond hDiffer, answer_after hSecond hFirst hDiffer.symm,
    after_comm (keyed_run layout history).ascending hFirst hSecond hDiffer⟩

/-- An update that makes a row and a deletion that gives back another one change places. -/
theorem writes_to_different_keys_commute_of_update_and_delete :
    let keyItem (sort : String) : Item := .ofList [("pk", .string "user"), ("sk", .string sort)]
    let table : Table := (empty {}).run [.addRow (keyItem "12")]
    let update : RowWrite := .updateByExpression (keyItem "7") "SET #n = :v"
      ⟨.ofList [("#n", "note")], .ofList [(":v", .number "1")]⟩
    let delete : RowWrite := .deleteRow (keyItem "12")
    (update.key {} = .ok ⟨"user", some "7"⟩ ∧ delete.key {} = .ok ⟨"user", some "12"⟩) ∧
      (table.after delete.toWrite).answer update = table.answer update ∧
      (table.after update.toWrite).answer delete = .ok (some (keyItem "12")) ∧
      (table.after update.toWrite).after delete.toWrite =
        (table.after delete.toWrite).after update.toWrite := by
  intro keyItem table update delete
  have hUpdate : update.key {} = .ok ⟨"user", some "7"⟩ := rfl
  have hDelete : delete.key {} = .ok ⟨"user", some "12"⟩ := rfl
  obtain ⟨hFirst, hSecond, hTable⟩ := writes_to_different_keys_commute {}
    [.addRow (keyItem "12")] hUpdate hDelete (by decide)
  exact ⟨⟨hUpdate, hDelete⟩, hFirst, hSecond.trans rfl, hTable⟩

end Table

end SingleTable
