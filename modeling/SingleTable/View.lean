import SingleTable.Layout

/-!
# Views

The fixed catalogue of views of a table.  A view reads one key role as its
partition and another as its sort attribute, so that the same rows can be looked
up by other attributes.  Besides the table itself there is its inverse, and for
each of the three further attributes there are views that pair it with the
primary key attributes in both directions and with the other two.
-/

namespace SingleTable

/-- A view: its identifier, the name by which a request asks for it, and its
roles.  The table itself is the view without a name. -/
structure View where
  id : String
  name : Option String
  partition : Role
  sort : Option Role
deriving DecidableEq, Repr

namespace View

/-- The table itself. -/
def standard : View := ⟨"standard", none, .partition, some .sort⟩

/-- A view that is asked for by its identifier. -/
def named (id : String) (first second : Role) : View :=
  ⟨id, some id, first, some second⟩

/-- All views. -/
def all : List View :=
  [standard,
   named "partition_g1" .partition .global1,
   named "partition_g2" .partition .global2,
   named "partition_g3" .partition .global3,
   named "inverted" .sort .partition,
   named "sort_g1" .sort .global1,
   named "sort_g2" .sort .global2,
   named "sort_g3" .sort .global3,
   named "g1_partition" .global1 .partition,
   named "g1_sort" .global1 .sort,
   named "g1_g2" .global1 .global2,
   named "g1_g3" .global1 .global3,
   named "g2_partition" .global2 .partition,
   named "g2_sort" .global2 .sort,
   named "g2_g1" .global2 .global1,
   named "g2_g3" .global2 .global3,
   named "g3_partition" .global3 .partition,
   named "g3_sort" .global3 .sort,
   named "g3_g1" .global3 .global1,
   named "g3_g2" .global3 .global2]

/-- The view with an identifier. -/
def byId? (id : String) : Option View :=
  all.find? fun view => view.id == id

/-- The view that a request names; without a name it is the table itself. -/
def byName? : Option String → Option View
  | none => some standard
  | some name => all.find? fun view => view.name == some name

/-- The attributes that a view reads from a table: the partition attribute, and
the sort attribute if the view has one.  A table that lacks one of the roles has
no such view, but the table itself may do without a sort attribute. -/
def attributes? (view : View) (layout : Layout) : Option (String × Option String) := do
  let partition ← layout.keyOf? view.partition
  match view.sort with
  | none => some (partition, none)
  | some role =>
    match layout.keyOf? role with
    | some sort => some (partition, some sort)
    | none => if view.name.isNone then some (partition, none) else none

theorem attributes?_standard (layout : Layout) :
    standard.attributes? layout = some (layout.partition, layout.sort) := by
  cases hSort : layout.sort <;> simp [attributes?, standard, Layout.keyOf?, hSort]

end View

end SingleTable
