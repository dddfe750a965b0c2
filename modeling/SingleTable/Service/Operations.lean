import SingleTable.Service.Error
import SingleTable.Service.Response
import SingleTable.Table.Lookup

/-!
# Operations

The operations of the service on a table.  Table names in requests are not looked
at, as there is only one table.  A batch is written entry by entry and keeps what
was written before a failure, while a transaction is all or nothing.
-/

namespace SingleTable

/-- The reads that come in pages. -/
inductive ReadOperation where
  | query
  | scan
deriving DecidableEq, Repr

namespace ReadOperation

/-- The name of an operation. -/
def name : ReadOperation → String
  | .query => "query"
  | .scan => "scan"

/-- The operation with a name, in letters of either case. -/
def ofName? (name : String) : Option ReadOperation :=
  [query, scan].find? fun operation => operation.name == name.map Char.toLower

end ReadOperation

namespace Table

/-- A result of a service operation. -/
abbrev Answer (α : Type) := Except ServiceError α

/-- The row under the key of a request. -/
def getItem (table : Table) (request : GetRequest) : Answer GetResponse := do
  let key ← (table.primaryKey request.key).mapError .ofTable
  return { item := table.get? key }

/-- Update the row under the key of a request. -/
def updateItem (table : Table) (request : UpdateRequest) :
    Answer (UpdateResponse × Table) := do
  let (row, next) ← (table.updateByExpression request.key (request.expression.getD "")
    request.bindings).mapError .ofTable
  return ({ attributes := row }, next)

/-- Delete the row under the key of a request. -/
def deleteItem (table : Table) (request : DeleteRequest) :
    Answer (DeleteResponse × Table) := do
  let (removed, next) ← (table.deleteRow request.key).mapError .ofTable
  return ({ attributes := removed.getD .empty }, next)

/-- One step of a batch. -/
inductive WriteStep where
  | put (item : Item)
  | delete (key : Item)

/-- The steps of an entry: first the item to insert, then the row to delete. -/
def WriteStep.ofEntry (entry : WriteEntry) : List WriteStep :=
  (entry.put.map fun put => .put put.item).toList ++
    (entry.delete.map fun delete => .delete delete.key).toList

/-- The table after one step. -/
def write (table : Table) : WriteStep → Result Table
  | .put item => table.addRow item
  | .delete key => do return (← table.deleteRow key).2

/-- The table after several steps up to the first failure; gives the failure too. -/
def writeSteps : Table → List WriteStep → Option TableError × Table
  | table, [] => (none, table)
  | table, step :: rest =>
    match table.write step with
    | .ok next => writeSteps next rest
    | .error error => (some error, table)

/-- Write a batch.  After a failure the table has the effect of all earlier steps. -/
def batchWrite (table : Table) (request : BatchRequest) : Answer BatchResponse × Table :=
  let entries := request.entries.entries.flatMap Prod.snd
  match table.writeSteps (entries.flatMap WriteStep.ofEntry) with
  | (none, next) => (.ok {}, next)
  | (some error, next) => (.error (.ofTable error), next)

/-- The table after one action of a transaction.  Condition checks change nothing
and always hold. -/
def act (table : Table) : Action → Answer Table
  | ⟨some put, _, _, _⟩ => (table.addRow put.item).mapError .ofTable
  | ⟨none, some delete, _, _⟩ =>
    ((table.deleteRow delete.key).map Prod.snd).mapError .ofTable
  | ⟨none, none, some update, _⟩ =>
    ((table.updateByExpression update.key update.expression update.bindings).map
      Prod.snd).mapError .ofTable
  | ⟨none, none, none, some _⟩ => .ok table
  | ⟨none, none, none, none⟩ => .error (.ofFault .emptyAction)

/-- Take all actions of a transaction, or none. -/
def transactWrite (table : Table) (request : TransactionRequest) :
    Answer (TransactionResponse × Table) := do
  let next ← request.actions.foldlM act table
  return ({}, next)

/-- The view that a request names. -/
def viewOf (request : ReadRequest) : Answer (Option View) :=
  match request.view with
  | none => .ok none
  | some name =>
    match View.byName? (some name) with
    | some view => .ok (some view)
    | none => .error (.ofFault (.unknownView name))

/-- The number of rows that a request wants at most; zero means all. -/
def limitOf (request : ReadRequest) : Answer (Option Nat) :=
  match request.limit with
  | none => .ok none
  | some limit =>
    if limit = 0 then .ok none
    else if limit < 0 then .error (.ofFault (.limitTooSmall limit))
    else .ok (some limit.toInt.toNat)

/-- At most so many items. -/
def takeUpTo (limit : Option Nat) (items : List Item) : List Item :=
  match limit with
  | some n => items.take n
  | none => items

/-- The rows that satisfy a key condition, on the second of two pages.  The first
is empty. -/
def queryPages (table : Table) (request : ReadRequest) : Answer (List Page) := do
  let view ← viewOf request
  let limit ← limitOf request
  let rows ← (table.query view (request.condition.getD "") request.bindings).mapError
    .ofExpression
  return [.ofItems [], .ofItems (takeUpTo limit rows)]

/-- All rows, on one page. -/
def scanPages (table : Table) : List Page :=
  [.ofItems table.items]

/-- The pages of a read. -/
def read (table : Table) (operation : String) (request : ReadRequest) :
    Answer (List Page) :=
  match ReadOperation.ofName? operation with
  | some .query => table.queryPages request
  | some .scan => .ok table.scanPages
  | none => .error (.unsupported operation)

end Table

end SingleTable
