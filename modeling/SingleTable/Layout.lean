/-!
# Table layout

Which attributes of a table act as keys.  Besides the primary key, a partition
attribute and perhaps a sort attribute, a table has up to three attributes that
index views use.
-/

namespace SingleTable

/-- What a key attribute is used for. -/
inductive Role where
  | partition
  | sort
  | global1
  | global2
  | global3
deriving DecidableEq, Repr

namespace Role

/-- All roles, those of the primary key first. -/
def all : List Role := [.partition, .sort, .global1, .global2, .global3]

/-- The attribute that fills a role unless a table says otherwise. -/
def usualName : Role → String
  | .partition => "pk"
  | .sort => "sk"
  | .global1 => "g1k"
  | .global2 => "g2k"
  | .global3 => "g3k"

end Role

/-- The name of a table and the names of its key attributes. -/
structure Layout where
  table : String := "NA"
  partition : String := Role.partition.usualName
  sort : Option String := some Role.sort.usualName
  global1 : Option String := some Role.global1.usualName
  global2 : Option String := some Role.global2.usualName
  global3 : Option String := some Role.global3.usualName
deriving DecidableEq, Repr

namespace Layout

instance : Inhabited Layout := ⟨{}⟩

/-- The attribute that fills a role, if the table has one. -/
def keyOf? (layout : Layout) : Role → Option String
  | .partition => some layout.partition
  | .sort => layout.sort
  | .global1 => layout.global1
  | .global2 => layout.global2
  | .global3 => layout.global3

/-- The attribute belongs to the primary key. -/
def isPrimary (layout : Layout) (name : String) : Bool :=
  name == layout.partition || layout.sort == some name

/-- An optional key attribute from a setting: unset keeps the usual one, empty
means that the table has none. -/
def keyFromSetting (setting usual : Option String) : Option String :=
  match setting with
  | none => usual
  | some name => if name.isEmpty then none else some name

/-- The layout that settings describe.  An empty partition setting counts as unset. -/
def ofSettings (setting : String → Option String) : Layout :=
  let usual : Layout := {}
  { table := (setting "TABLE_NAME").getD usual.table
    partition := ((setting "PARTITION_KEY").filter (!·.isEmpty)).getD usual.partition
    sort := keyFromSetting (setting "SORT_KEY") usual.sort
    global1 := keyFromSetting (setting "G1_KEY") usual.global1
    global2 := keyFromSetting (setting "G2_KEY") usual.global2
    global3 := keyFromSetting (setting "G3_KEY") usual.global3 }

end Layout

end SingleTable
