import SingleTable.Column.Type
import SingleTable.Layout

/-!
# Columns

A column declares one attribute of a kind of record: the friendly name that
callers use, the type of its values, and where and how they are stored.  A column
with children holds a map whose entries are declared in turn.
-/

namespace SingleTable

/-- A declared attribute.

The attribute is stored under `key`, or under the name if there is no key.  A
column with a role follows the table's layout.  Values in the table start with
`lead`.  A computed column is written but never read back. -/
structure Column where
  name : String
  type : ColumnType
  key : Option String := none
  role : Option Role := none
  lead : Option String := none
  computed : Bool := false
  children : List Column := []

namespace Column

/-- A column that is stored under its own name. -/
def plain (name : String) (type : ColumnType) : Column :=
  { name, type }

/-- A string column stored under another name, with values that start alike. -/
def indexed (name key lead : String) : Column :=
  { name, type := .string, key := some key, lead := some lead }

/-- A string column for a role, stored under the usual name of the role until it
is bound to a table. -/
def keyed (name : String) (role : Role) (lead : String) : Column :=
  { indexed name role.usualName lead with role := some role }

/-- A map column with declared entries. -/
def ofChildren (name : String) (children : List Column) : Column :=
  { name, type := .map, children }

/-- The attribute that the column is stored under. -/
def attributeName (column : Column) : String :=
  column.key.getD column.name

/-- The text that values of the column start with. -/
def leadText (column : Column) : String :=
  column.lead.getD ""

/-- The column with its role filled as a table's layout says. -/
def bind (column : Column) (layout : Layout) : Column :=
  match column.role.bind layout.keyOf? with
  | some name => { column with key := some name }
  | none => column

@[simp]
theorem attributeName_plain (name : String) (type : ColumnType) :
    (plain name type).attributeName = name := rfl

@[simp]
theorem name_bind (column : Column) (layout : Layout) :
    (column.bind layout).name = column.name := by
  unfold bind; split <;> rfl

@[simp]
theorem children_bind (column : Column) (layout : Layout) :
    (column.bind layout).children = column.children := by
  unfold bind; split <;> rfl

end Column

end SingleTable
