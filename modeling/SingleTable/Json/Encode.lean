import SingleTable.Json.Basic
import SingleTable.Ordered.NameMap

/-!
# Building JSON records

The members of a record, one field at a time.  A field that is not set, or a map
or list without entries, can be left out.
-/

namespace SingleTable.Json

variable {α : Type}

/-- The object of a map. -/
def ofMap (encode : α → Json) (map : NameMap α) : Json :=
  .record (map.entries.map fun entry => (entry.1, encode entry.2))

/-- The array of a list. -/
def ofList (encode : α → Json) (items : List α) : Json :=
  .array (items.map encode)

/-- A value, or null. -/
def orNull (encode : α → Json) : Option α → Json
  | some value => encode value
  | none => .null

/-- The member of a field that is always written. -/
def member (name : String) (value : Json) : List (String × Json) :=
  [(name, value)]

/-- The member of a field that is left out when it is not set. -/
def member? (name : String) (encode : α → Json) : Option α → List (String × Json)
  | some value => [(name, encode value)]
  | none => []

/-- The member of a map that is left out when it is empty. -/
def mapMember? (name : String) (encode : α → Json) (map : NameMap α) : List (String × Json) :=
  if map.isEmpty then [] else [(name, ofMap encode map)]

/-- The member of a list that is left out when it is empty. -/
def listMember? (name : String) (encode : α → Json) (items : List α) : List (String × Json) :=
  if items.isEmpty then [] else [(name, ofList encode items)]

end SingleTable.Json
