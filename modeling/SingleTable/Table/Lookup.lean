import SingleTable.Schema
import SingleTable.Table.Basic

/-!
# Reading tables

Rows are looked up by primary key, by their key under a view, by a key condition,
by what their attributes hold, and by schema.  Rows always come in primary key
order.  A row that lacks a key attribute of a view is not part of it.
-/

namespace SingleTable.Table

/-- The first row with a key under a view. -/
def findByView? (table : Table) (view : View) (key : Key) : Option Item :=
  table.items.find? fun row => row.key? view table.layout == some key

/-- A key lies in a partition and its sort text starts with `lead`. -/
def inPartition (key : Key) (partition lead : String) : Bool :=
  key.partition == partition && key.sortStarts lead

/-- The rows of a partition whose sort text starts with `lead`. -/
def rowsOf (table : Table) (partition lead : String) : List Item :=
  (table.rows.filter fun entry => inPartition entry.1 partition lead).map Prod.snd

/-- The rows of a view's partition whose sort text there starts with `lead`. -/
def rowsOfView (table : Table) (view : View) (partition lead : String) : List Item :=
  table.items.filter fun row =>
    (row.key? view table.layout).any fun key => inPartition key partition lead

/-- The row is part of a view; without a view every row is. -/
def inView (table : Table) (view : Option View) (row : Item) : Bool :=
  view.all fun view => (row.key? view table.layout).isSome

/-- Those of some rows that satisfy all conditions. -/
def select (conditions : List Condition) (bindings : Bindings) :
    List Item → Except ExpressionError (List Item)
  | [] => .ok []
  | row :: rest => do
    let holds ← Condition.allHold conditions bindings row
    let selected ← select conditions bindings rest
    return if holds then row :: selected else selected

/-- The rows of a view that satisfy a key condition. -/
def query (table : Table) (view : Option View) (expression : String) (bindings : Bindings) :
    Except ExpressionError (List Item) := do
  let conditions ← Condition.ofText expression
  select conditions bindings (table.items.filter (table.inView view))

/-- The rows with attributes that fit the needles, decoded. -/
def find (table : Table) (needles : Values) : Codec.Result (List Values) :=
  (table.items.filter (·.fits needles)).mapM Item.decode

/-- The rows of a kind with attributes that fit the needles, as records. -/
def findRecords (table : Table) (needles : Values) (schema : Schema) :
    Codec.Result (List Values) := do
  let records ← (table.items.filter (·.fits needles)).mapM schema.decode
  return records.filterMap id

/-- All rows of a kind, as records. -/
def allRecords (table : Table) (schema : Schema) : Codec.Result (List Values) :=
  table.findRecords .empty schema

end SingleTable.Table
