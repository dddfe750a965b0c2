import SingleTable.Row.Basic
import SingleTable.Table.Error

/-!
# Tables

A table holds rows by primary key, in ascending key order.  Every operation that
writes one row either fails, and then there is no new table, or gives a new table
that differs at that row's key.  Operations on several rows keep the effect of
those before the first failure.
-/

namespace SingleTable

/-- A table: its layout and its rows by primary key. -/
structure Table where
  layout : Layout
  rows : List (Key × Item)

namespace Table

/-- A result of a table operation. -/
abbrev Result (α : Type) := Except TableError α

/-- The table without rows. -/
def empty (layout : Layout) : Table := ⟨layout, []⟩

/-- The rows in key order. -/
def items (table : Table) : List Item :=
  table.rows.map Prod.snd

/-- The number of rows. -/
def size (table : Table) : Nat :=
  table.rows.length

/-- The text of a key attribute of an item. -/
def keyText (item : Item) (name : String) : Result String :=
  match item.find? name with
  | none => .error (.missingKeyAttribute name)
  | some cell =>
    match cell.text? with
    | none => .error (.invalidKeyType name cell.tag)
    | some text => if text.isEmpty then .error (.missingKeyAttribute name) else .ok text

/-- The primary key of an item. -/
def primaryKey (table : Table) (item : Item) : Result Key := do
  let partition ← keyText item table.layout.partition
  match table.layout.sort with
  | none => return ⟨partition, none⟩
  | some name => return ⟨partition, some (← keyText item name)⟩

/-- The row under a key. -/
def get? (table : Table) (key : Key) : Option Item :=
  Entries.find? key table.rows

/-- The table with a row put under a key. -/
def put (table : Table) (key : Key) (row : Item) : Table :=
  { table with rows := Entries.insert key row table.rows }

/-- The table without the row under a key. -/
def erase (table : Table) (key : Key) : Table :=
  { table with rows := Entries.erase key table.rows }

/-- The table without any row. -/
def clear (table : Table) : Table :=
  { table with rows := [] }

/-- Insert a new row. -/
def addRow (table : Table) (item : Item) : Result Table := do
  let key ← table.primaryKey item
  if (table.get? key).isSome then throw (.duplicateKey key)
  return table.put key item.withoutBlanks

/-- The item with a string under a key attribute, if there are both. -/
def withText (item : Item) (name text : Option String) : Item :=
  match name, text with
  | some name, some text => item.insert name (.string text)
  | _, _ => item

/-- Insert a new row from the texts of its key attributes and other attributes.
Texts for attributes that the table does not have are left out. -/
def add (table : Table) (partition : String) (sort global1 global2 : Option String)
    (others : Item) : Result Table :=
  let layout := table.layout
  let item := others.insert layout.partition (.string partition)
  let item := withText item layout.sort sort
  let item := withText item layout.global1 global1
  table.addRow (withText item layout.global2 global2)

/-- Merge an item into the row with its primary key, or insert it. -/
def updateRow (table : Table) (item : Item) : Result Table := do
  let key ← table.primaryKey item
  match table.get? key with
  | some row => return table.put key (row.merged item)
  | none => return table.put key item.withoutBlanks

/-- Refuse an update step on a primary key attribute. -/
def checkTarget (table : Table) (bindings : Bindings) (step : UpdateStep) : Result Unit := do
  let name ← (bindings.name step.name).mapError .expression
  if table.layout.isPrimary name then throw (.keyAttributeUpdate name)

/-- Apply an update expression to the row under an item's primary key.  Where there
is no such row, the item itself is the row to start from.  Gives the row too. -/
def updateByExpression (table : Table) (keyItem : Item) (expression : String)
    (bindings : Bindings) : Result (Item × Table) := do
  let key ← table.primaryKey keyItem
  let steps := UpdateStep.ofText expression
  steps.forM (table.checkTarget bindings)
  let start := (table.get? key).getD keyItem.withoutBlanks
  let row ← (UpdateStep.applyAll steps bindings start).mapError .expression
  return (row, table.put key row)

/-- Remove the row under a key; gives the removed row too. -/
def deleteKey (table : Table) (key : Key) : Option Item × Table :=
  (table.get? key, table.erase key)

/-- Remove the row with an item's primary key; gives the removed row too. -/
def deleteRow (table : Table) (item : Item) : Result (Option Item × Table) := do
  let key ← table.primaryKey item
  return table.deleteKey key

/-- Write items one after another up to the first failure; gives the failure too. -/
def writeAll (write : Table → Item → Result Table) :
    Table → List Item → Option TableError × Table
  | table, [] => (none, table)
  | table, item :: rest =>
    match write table item with
    | .ok next => writeAll write next rest
    | .error error => (some error, table)

/-- Insert several new rows. -/
def addRows (table : Table) (items : List Item) : Option TableError × Table :=
  writeAll addRow table items

/-- Merge several items into their rows. -/
def updateRows (table : Table) (items : List Item) : Option TableError × Table :=
  writeAll updateRow table items

/-- Remove several rows. -/
def deleteRows (table : Table) (items : List Item) : Option TableError × Table :=
  writeAll (fun table item => do return (← table.deleteRow item).2) table items

@[simp]
theorem get?_put (table : Table) (key other : Key) (row : Item) :
    (table.put key row).get? other = if key = other then some row else table.get? other :=
  Entries.find?_insert key other row table.rows

@[simp]
theorem get?_erase (table : Table) (key other : Key) :
    (table.erase key).get? other = if key = other then none else table.get? other :=
  Entries.find?_erase key other table.rows

@[simp]
theorem get?_empty (layout : Layout) (key : Key) : (empty layout).get? key = none := rfl

end Table

end SingleTable
