import SingleTable.Proofs.Expression.Attributes
import SingleTable.Proofs.Table.History

/-!
# Writes as updates of a map

Seen as a map from keys to rows, a table changes at one key by a write of a single row
that succeeds, and not at all by one that fails.  `Sets` says which key that is and, one
attribute at a time, what is found there afterwards: the cells that the write gives, less
the empty strings (`Item.Stores`), or what the steps of an update leave (`Revises`).  A
write succeeds exactly when `Sets` allows something (`outcome_eq_ok_iff`).  A write of
several rows leaves what the items before the first failing one leave
(`stopsAtFailure_writeAll`).
-/

namespace SingleTable

open Outcome

namespace Item

variable {item delta row : Item} {name : String} {cell : Cell}

/-- The row holds the cells that are given for its attributes, less the empty strings, and
nothing else. -/
def Stores (row : Item) (given : String → Option Cell) : Prop :=
  ∀ name cell, row.find? name = some cell ↔ given name = some cell ∧ cell ≠ .string ""

theorem find?_withoutBlanks_eq_some_iff :
    item.withoutBlanks.find? name = some cell ↔
      item.find? name = some cell ∧ cell ≠ .string "" := by
  unfold withoutBlanks
  rw [NameMap.find?_keep, Option.filter_eq_some_iff, Bool.not_eq_true', ← Bool.not_eq_true,
    Cell.isBlank_eq_true_iff]

theorem stores_find?_iff : row.Stores item.find? ↔ row = item.withoutBlanks := by
  constructor
  · intro hRow
    apply NameMap.ext_find?
    intro name
    apply Option.ext
    intro cell
    rw [hRow, find?_withoutBlanks_eq_some_iff]
  · rintro rfl name cell
    exact find?_withoutBlanks_eq_some_iff

theorem stores_withoutBlanks (item : Item) : item.withoutBlanks.Stores item.find? :=
  stores_find?_iff.mpr rfl

/-- The cells of a delta win over those of the item. -/
theorem stores_or_iff :
    row.Stores (fun name => (delta.find? name).or (item.find? name)) ↔
      row = item.merged delta := by
  have hBoth : (fun name => (delta.find? name).or (item.find? name)) =
      (item.overlay delta).find? := by
    funext name
    rw [NameMap.find?_overlay]
  rw [hBoth]
  exact stores_find?_iff

end Item

namespace Table

variable {table next : Table} {item old row : Item} {key other : Key}

/-- The item that an insertion by texts is about. -/
def itemOf (layout : Layout) (partition : String) (sort global1 global2 : Option String)
    (others : Item) : Item :=
  let item := others.insert layout.partition (.string partition)
  let item := withText item layout.sort sort
  let item := withText item layout.global1 global1
  withText item layout.global2 global2

/-- The cell that a text for a key attribute gives for the attribute of a name. -/
def textCell? (keyName text : Option String) (name : String) : Option Cell :=
  if keyName = some name then text.map .string else none

/-- The cell that an insertion by texts gives for an attribute.  Where two key attributes
have the same name, the text of the later one counts. -/
def givenCell? (layout : Layout) (partition : String) (sort global1 global2 : Option String)
    (others : Item) (name : String) : Option Cell :=
  (textCell? layout.global2 global2 name).or <|
    (textCell? layout.global1 global1 name).or <|
      (textCell? layout.sort sort name).or <|
        (textCell? (some layout.partition) (some partition) name).or (others.find? name)

theorem find?_withText (item : Item) (keyName text : Option String) (name : String) :
    (withText item keyName text).find? name =
      (textCell? keyName text name).or (item.find? name) := by
  unfold withText textCell?
  cases keyName with
  | none => simp
  | some other =>
    cases text with
    | none => simp
    | some text => by_cases hName : other = name <;> simp [hName]

theorem find?_itemOf (layout : Layout) (partition : String) (sort global1 global2 : Option String)
    (others : Item) (name : String) :
    (itemOf layout partition sort global1 global2 others).find? name =
      givenCell? layout partition sort global1 global2 others name := by
  have hFirst := find?_withText others (some layout.partition) (some partition) name
  unfold itemOf givenCell?
  rw [find?_withText, find?_withText, find?_withText, ← hFirst]
  rfl

/-- The item that an insertion by texts is about is told by its cells. -/
theorem eq_itemOf_iff {layout : Layout} {partition : String}
    {sort global1 global2 : Option String} {others : Item} :
    item = itemOf layout partition sort global1 global2 others ↔
      ∀ name, item.find? name = givenCell? layout partition sort global1 global2 others name := by
  constructor
  · rintro rfl
    exact find?_itemOf layout partition sort global1 global2 others
  · intro hGiven
    apply NameMap.ext_find?
    intro name
    rw [hGiven, find?_itemOf]

theorem after_toWrite (table : Table) (write : RowWrite) :
    table.after write.toWrite = table.orStay (table.outcome write) := by
  cases write <;> rfl

/-- An update makes one row of another: its steps are about attributes outside of the
primary key, they can be applied, and each attribute holds afterwards what they leave there. -/
structure Revises (layout : Layout) (expression : String) (bindings : Bindings)
    (start row : Item) : Prop where
  targets : ∀ step ∈ UpdateStep.ofText expression,
    ∃ name, bindings.name step.name = .ok name ∧ layout.isPrimary name = false
  applied : UpdateStep.applyAll (UpdateStep.ofText expression) bindings start = .ok row
  leaves : ∀ name found, row.find? name = found ↔
    UpdateStep.Leaves bindings (UpdateStep.ofText expression) start name found

/-- What a write of a single row does to the map from keys to rows: its own key, and what
is found there afterwards. -/
inductive Sets (table : Table) : RowWrite → Key → Option Item → Prop
  | add {partition : String} {sort global1 global2 : Option String} {others given row : Item}
      {key : Key}
      (hGiven : ∀ name, given.find? name =
        givenCell? table.layout partition sort global1 global2 others name)
      (hKey : table.primaryKey given = .ok key) (hAbsent : table.get? key = none)
      (hRow : row.Stores given.find?) :
      Sets table (.add partition sort global1 global2 others) key (some row)
  | addRow {item row : Item} {key : Key} (hKey : table.primaryKey item = .ok key)
      (hAbsent : table.get? key = none) (hRow : row.Stores item.find?) :
      Sets table (.addRow item) key (some row)
  | updateAbsent {item row : Item} {key : Key} (hKey : table.primaryKey item = .ok key)
      (hAbsent : table.get? key = none) (hRow : row.Stores item.find?) :
      Sets table (.updateRow item) key (some row)
  | updatePresent {item old row : Item} {key : Key} (hKey : table.primaryKey item = .ok key)
      (hPresent : table.get? key = some old)
      (hRow : row.Stores fun name => (item.find? name).or (old.find? name)) :
      Sets table (.updateRow item) key (some row)
  | reviseAbsent {keyItem start row : Item} {expression : String} {bindings : Bindings}
      {key : Key} (hKey : table.primaryKey keyItem = .ok key) (hAbsent : table.get? key = none)
      (hStart : start.Stores keyItem.find?)
      (hRow : Revises table.layout expression bindings start row) :
      Sets table (.updateByExpression keyItem expression bindings) key (some row)
  | revisePresent {keyItem old row : Item} {expression : String} {bindings : Bindings}
      {key : Key} (hKey : table.primaryKey keyItem = .ok key)
      (hPresent : table.get? key = some old)
      (hRow : Revises table.layout expression bindings old row) :
      Sets table (.updateByExpression keyItem expression bindings) key (some row)
  | deleteKey {key : Key} : Sets table (.deleteKey key) key none
  | deleteRow {item : Item} {key : Key} (hKey : table.primaryKey item = .ok key) :
      Sets table (.deleteRow item) key none

/-- The table with a row put under a key, or without the row there. -/
def set (table : Table) (key : Key) : Option Item → Table
  | some row => table.put key row
  | none => table.erase key

@[simp]
theorem get?_set (table : Table) (key other : Key) (row : Option Item) :
    (table.set key row).get? other = if key = other then row else table.get? other := by
  cases row <;> simp [set]

theorem sets_add_iff {partition : String} {sort global1 global2 : Option String} {others : Item}
    {row : Option Item} :
    Sets table (.add partition sort global1 global2 others) key row ↔
      Sets table (.addRow (itemOf table.layout partition sort global1 global2 others)) key row := by
  constructor
  · intro hSets
    cases hSets with
    | add hGiven hKey hAbsent hRow =>
      obtain rfl := eq_itemOf_iff.mpr hGiven
      exact .addRow hKey hAbsent hRow
  · intro hSets
    cases hSets with
    | addRow hKey hAbsent hRow => exact .add (eq_itemOf_iff.mp rfl) hKey hAbsent hRow

theorem outcome_addRow_eq_ok_iff :
    table.outcome (.addRow item) = .ok next ↔
      ∃ key row, Sets table (.addRow item) key row ∧ next = table.set key row := by
  refine addRow_eq_ok_iff.trans ⟨?_, ?_⟩
  · rintro ⟨key, hKey, hAbsent, rfl⟩
    exact ⟨key, _, .addRow hKey hAbsent item.stores_withoutBlanks, rfl⟩
  · rintro ⟨key, _, hSets, rfl⟩
    cases hSets with
    | addRow hKey hAbsent hRow =>
      obtain rfl := Item.stores_find?_iff.mp hRow
      exact ⟨key, hKey, hAbsent, rfl⟩

theorem outcome_updateRow_eq_ok_iff :
    table.outcome (.updateRow item) = .ok next ↔
      ∃ key row, Sets table (.updateRow item) key row ∧ next = table.set key row := by
  refine updateRow_eq_ok_iff.trans ⟨?_, ?_⟩
  · rintro ⟨key, hKey, rfl⟩
    unfold upserted
    cases hOld : table.get? key with
    | none => exact ⟨key, _, .updateAbsent hKey hOld item.stores_withoutBlanks, rfl⟩
    | some old => exact ⟨key, _, .updatePresent hKey hOld (Item.stores_or_iff.mpr rfl), rfl⟩
  · rintro ⟨key, _, hSets, rfl⟩
    unfold upserted
    cases hSets with
    | updateAbsent hKey hAbsent hRow =>
      obtain rfl := Item.stores_find?_iff.mp hRow
      exact ⟨key, hKey, by rw [hAbsent]; rfl⟩
    | updatePresent hKey hPresent hRow =>
      obtain rfl := Item.stores_or_iff.mp hRow
      exact ⟨key, hKey, by rw [hPresent]; rfl⟩

/-- What the steps leave at the attributes follows from their application. -/
theorem revises_iff {layout : Layout} {expression : String} {bindings : Bindings}
    {start row : Item} :
    Revises layout expression bindings start row ↔
      (∀ step ∈ UpdateStep.ofText expression,
        ∃ name, bindings.name step.name = .ok name ∧ layout.isPrimary name = false) ∧
      UpdateStep.applyAll (UpdateStep.ofText expression) bindings start = .ok row := by
  constructor
  · intro hRow
    exact ⟨hRow.targets, hRow.applied⟩
  · rintro ⟨hTargets, hApply⟩
    exact ⟨hTargets, hApply, fun _ _ => UpdateStep.find?_of_applyAll_eq_iff hApply⟩

/-- An update revises the row under its key, or the key item where there is none. -/
theorem sets_updateByExpression_iff {keyItem : Item} {expression : String}
    {bindings : Bindings} {result : Option Item} :
    Sets table (.updateByExpression keyItem expression bindings) key result ↔
      table.primaryKey keyItem = .ok key ∧
        ∃ row, Revises table.layout expression bindings (table.startOf key keyItem) row ∧
          result = some row := by
  unfold startOf
  constructor
  · intro hSets
    cases hSets with
    | reviseAbsent hKey hAbsent hStart hRow =>
      rw [hAbsent, Option.getD_none, ← Item.stores_find?_iff.mp hStart]
      exact ⟨hKey, _, hRow, rfl⟩
    | revisePresent hKey hPresent hRow =>
      rw [hPresent, Option.getD_some]
      exact ⟨hKey, _, hRow, rfl⟩
  · rintro ⟨hKey, row, hRow, rfl⟩
    cases hOld : table.get? key with
    | none =>
      rw [hOld, Option.getD_none] at hRow
      exact .reviseAbsent hKey hOld keyItem.stores_withoutBlanks hRow
    | some old =>
      rw [hOld, Option.getD_some] at hRow
      exact .revisePresent hKey hOld hRow

theorem outcome_updateByExpression_eq_ok_iff {keyItem : Item} {expression : String}
    {bindings : Bindings} :
    table.outcome (.updateByExpression keyItem expression bindings) = .ok next ↔
      ∃ key row, Sets table (.updateByExpression keyItem expression bindings) key row ∧
        next = table.set key row := by
  simp only [sets_updateByExpression_iff, revises_iff, ← checkTarget_eq_ok_iff]
  refine map_eq_ok_iff.trans ⟨?_, ?_⟩
  · rintro ⟨⟨row, _⟩, hUpdate, rfl⟩
    obtain ⟨key, hKey, hChecks, hRow, rfl⟩ := updateByExpression_eq_ok_iff.mp hUpdate
    exact ⟨key, _, ⟨hKey, row, ⟨hChecks, hRow⟩, rfl⟩, rfl⟩
  · rintro ⟨key, _, ⟨hKey, row, ⟨hChecks, hRow⟩, rfl⟩, rfl⟩
    exact ⟨(_, _), updateByExpression_eq_ok_iff.mpr ⟨key, hKey, hChecks, hRow, rfl⟩, rfl⟩

theorem outcome_deleteRow_eq_ok_iff :
    table.outcome (.deleteRow item) = .ok next ↔
      ∃ key row, Sets table (.deleteRow item) key row ∧ next = table.set key row := by
  refine map_eq_ok_iff.trans ⟨?_, ?_⟩
  · rintro ⟨⟨removed, _⟩, hDelete, rfl⟩
    obtain ⟨key, hKey, _, rfl⟩ := deleteRow_eq_ok_iff.mp hDelete
    exact ⟨key, none, .deleteRow hKey, rfl⟩
  · rintro ⟨key, _, hSets, rfl⟩
    cases hSets with
    | deleteRow hKey =>
      exact ⟨(_, _), deleteRow_eq_ok_iff.mpr ⟨key, hKey, rfl, rfl⟩, rfl⟩

/-- A write of a single row succeeds exactly when it has an effect on the map, and leaves
the table with that effect. -/
theorem outcome_eq_ok_iff {write : RowWrite} :
    table.outcome write = .ok next ↔
      ∃ key row, Sets table write key row ∧ next = table.set key row := by
  cases write with
  | add partition sort global1 global2 others =>
    simp only [sets_add_iff]
    exact outcome_addRow_eq_ok_iff
  | addRow item => exact outcome_addRow_eq_ok_iff
  | updateRow item => exact outcome_updateRow_eq_ok_iff
  | updateByExpression keyItem expression bindings =>
    exact outcome_updateByExpression_eq_ok_iff
  | deleteKey key =>
    constructor
    · rintro ⟨⟩
      exact ⟨key, none, .deleteKey, rfl⟩
    · rintro ⟨_, _, ⟨⟩, rfl⟩
      rfl
  | deleteRow item => exact outcome_deleteRow_eq_ok_iff

/-- A write of several rows has failed at the first item that could not be written, if at
all, and has left what the items before that one leave. -/
def StopsAtFailure (write : Table → Item → Result Table) (table : Table) (items : List Item)
    (result : Option TableError × Table) : Prop :=
  ∃ written rest, items = written ++ rest ∧ written.foldlM write table = .ok result.2 ∧
    match result.1 with
    | none => rest = []
    | some error => ∃ item others, rest = item :: others ∧ write result.2 item = .error error

theorem stopsAtFailure_writeAll (write : Table → Item → Result Table) (table : Table)
    (items : List Item) : StopsAtFailure write table items (table.writeAll write items) := by
  induction items generalizing table with
  | nil => exact ⟨[], [], rfl, rfl, rfl⟩
  | cons item rest ih =>
    rw [writeAll]
    cases hItem : write table item with
    | error error => exact ⟨[], item :: rest, rfl, rfl, item, rest, rfl, hItem⟩
    | ok next =>
      obtain ⟨written, others, hItems, hWritten, hEnd⟩ := ih next
      refine ⟨item :: written, others, by rw [hItems, List.cons_append], ?_, hEnd⟩
      rw [List.foldlM_cons]
      exact (bind_ok hItem _).trans hWritten

/-- On every table a write of a single row is an update of the map from keys to rows at the
write's own key: one that fails leaves the table as it is; one that succeeds has set its
own key as `Sets` says, one attribute at a time, and left what is found under every other
key; and it succeeds exactly when `Sets` allows something.  Writes of several rows leave exactly the effect of
the items before the first failing one. -/
theorem writes_refine_map_updates (table : Table) :
    (∀ write : RowWrite,
      (∀ error, table.outcome write = .error error → table.after write.toWrite = table) ∧
      (∀ next, table.outcome write = .ok next → table.after write.toWrite = next ∧
        ∃ key row, Sets table write key row ∧ next.get? key = row ∧
          ∀ other, other ≠ key → next.get? other = table.get? other) ∧
      ((∃ next, table.outcome write = .ok next) ↔ ∃ key row, Sets table write key row)) ∧
    ∀ items,
      StopsAtFailure addRow table items (table.addRows items) ∧
      StopsAtFailure updateRow table items (table.updateRows items) ∧
      StopsAtFailure (fun current item => (current.deleteRow item).map Prod.snd) table items
        (table.deleteRows items) := by
  constructor
  · intro write
    rw [after_toWrite]
    refine ⟨?_, ?_, ?_⟩
    · intro error hError
      rw [hError]
      rfl
    · intro next hNext
      rw [hNext]
      obtain ⟨key, row, hSets, rfl⟩ := outcome_eq_ok_iff.mp hNext
      refine ⟨rfl, key, row, hSets, by simp, ?_⟩
      intro other hOther
      simp [Ne.symm hOther]
    · simp only [outcome_eq_ok_iff]
      exact ⟨fun ⟨_, key, row, hSets, _⟩ => ⟨key, row, hSets⟩,
        fun ⟨key, row, hSets⟩ => ⟨_, key, row, hSets, rfl⟩⟩
  · intro items
    have hDelete : (fun (current : Table) item => (current.deleteRow item).map Prod.snd) =
        fun current item => do return (← current.deleteRow item).2 := by
      funext current item
      cases current.deleteRow item <;> rfl
    refine ⟨stopsAtFailure_writeAll addRow table items,
      stopsAtFailure_writeAll updateRow table items, ?_⟩
    rw [hDelete]
    exact stopsAtFailure_writeAll _ table items

end Table

end SingleTable
