import SingleTable.Codec.Decode
import SingleTable.Codec.Encode
import SingleTable.Text.Lead

/-!
# Schemas

A schema describes one kind of record in a table that holds several kinds: its key
columns, whose values start with a text that marks the kind, and the columns that
it declares.  Trying schemas in turn against a row tells which kind the row is of.
-/

namespace SingleTable

/-- The columns that every kind of record has unless it is said otherwise. -/
def Schema.commonColumns : List Column :=
  [.plain "created_at" .datetime, .plain "updated_at" .datetime,
   .plain "expires_at" .timestamp]

/-- A kind of record.  `tableSort` is the table's sort attribute, which rows of a
kind without a sort column must not have. -/
structure Schema where
  partition : Column
  sort : Option Column
  columns : List Column
  common : List Column := Schema.commonColumns
  tableSort : Option String := some Role.sort.usualName

namespace Schema

/-- The declared columns, then the common ones. -/
def allColumns (schema : Schema) : List Column :=
  schema.columns ++ schema.common

/-- The key columns. -/
def keyColumns (schema : Schema) : List Column :=
  schema.partition :: schema.sort.toList

/-- The schema with its key columns stored where a table has its keys. -/
def bind (schema : Schema) (layout : Layout) : Schema :=
  { partition := schema.partition.bind layout
    sort := schema.sort.map (·.bind layout)
    columns := schema.columns.map (·.bind layout)
    common := schema.common
    tableSort := layout.sort }

/-- The attribute where rows of the kind have, or must not have, a sort text. -/
def sortName? (schema : Schema) : Option String :=
  match schema.sort with
  | some column => some column.attributeName
  | none => schema.tableSort

/-- The string of an attribute. -/
def stringOf? (row : Item) (name : String) : Option String :=
  (row.find? name).bind Cell.string?

/-- The sort text of a row is there exactly when the schema has a sort column, and
starts as the column asks. -/
def sortMatches (schema : Schema) (row : Item) : Bool :=
  match schema.sort, schema.sortName?.bind (stringOf? row) with
  | none, none => true
  | some column, some text => Text.startsWith text column.leadText
  | _, _ => false

/-- The partition text of a row starts as the partition column asks. -/
def partitionMatches (schema : Schema) (row : Item) : Bool :=
  match stringOf? row schema.partition.attributeName with
  | some text => Text.startsWith text schema.partition.leadText
  | none => false

/-- The attribute is a key of the kind or declared by it. -/
def knows (schema : Schema) (name : String) : Bool :=
  name == schema.partition.attributeName || schema.sortName? == some name ||
    schema.allColumns.any fun column => column.attributeName == name

/-- The row is a record of the kind: its keys start as they should, and it has no
attribute that the schema does not know. -/
def matchesRow (schema : Schema) (row : Item) : Bool :=
  schema.partitionMatches row && schema.sortMatches row && row.names.all schema.knows

/-- The first kind that a row is a record of. -/
def firstMatch? (schemas : List Schema) (row : Item) : Option Schema :=
  schemas.find? (·.matchesRow row)

/-- Add to a record what a row holds for a column, unless the column is computed. -/
def decodeColumn (row : Item) (values : Values) (column : Column) : Codec.Result Values :=
  if column.computed then .ok values
  else
    match row.find? column.attributeName with
    | some cell => do return values.insert column.name (← column.decode cell)
    | none => .ok values

/-- Add what a row holds for a column, unless its name is taken. -/
def decodeUntaken (row : Item) (values : Values) (column : Column) : Codec.Result Values :=
  if values.contains column.name then .ok values else decodeColumn row values column

/-- The record that a row of the kind holds. -/
def decodeMatched (schema : Schema) (row : Item) : Codec.Result Values := do
  let keys ← schema.keyColumns.foldlM (decodeColumn row) .empty
  schema.allColumns.foldlM (decodeUntaken row) keys

/-- The record of a row, if the row is of the kind. -/
def decode (schema : Schema) (row : Item) : Codec.Result (Option Values) :=
  if schema.matchesRow row then (schema.decodeMatched row).map some else .ok none

/-- Add to a row what a record holds for a column. -/
def encodeColumn (values : Values) (row : Item) (column : Column) : Codec.Result Item :=
  match values.find? column.name with
  | none => .ok row
  | some value => do
    match ← column.encode value with
    | some cell => return row.insert column.attributeName cell
    | none => return row

/-- The key attributes of a record. -/
def encodeKey (schema : Schema) (values : Values) : Codec.Result Item :=
  schema.keyColumns.foldlM (encodeColumn values) .empty

/-- The row of a record. -/
def encode (schema : Schema) (values : Values) : Codec.Result Item :=
  (schema.keyColumns ++ schema.allColumns).foldlM (encodeColumn values) .empty

end Schema

end SingleTable
