import SingleTable.Value.Basic

/-!
# Column types

The declared type of a column fixes the tag of its cells and the form of their
payload.  Cells and values without a declared type have one inferred for them.
-/

namespace SingleTable

/-- The declared type of a column. -/
inductive ColumnType where
  | boolean
  | binarySet
  | bytes
  | date
  | datetime
  | list
  | float
  | floatSet
  | integer
  | integerSet
  | map
  | string
  | stringSet
  | timestamp
deriving DecidableEq, Repr

namespace ColumnType

/-- All column types. -/
def all : List ColumnType :=
  [.boolean, .binarySet, .bytes, .date, .datetime, .list, .float, .floatSet, .integer,
   .integerSet, .map, .string, .stringSet, .timestamp]

/-- The name of a column type. -/
def name : ColumnType → String
  | .boolean => "boolean"
  | .binarySet => "binary_set"
  | .bytes => "bytes"
  | .date => "date"
  | .datetime => "datetime"
  | .list => "list"
  | .float => "float"
  | .floatSet => "float_set"
  | .integer => "integer"
  | .integerSet => "integer_set"
  | .map => "map"
  | .string => "string"
  | .stringSet => "string_set"
  | .timestamp => "timestamp"

/-- The tag of the cells of a column. -/
def tag : ColumnType → Tag
  | .boolean => .bool
  | .binarySet => .binarySet
  | .bytes => .binary
  | .date | .datetime | .string => .string
  | .list => .list
  | .float | .integer | .timestamp => .number
  | .floatSet | .integerSet => .numberSet
  | .map => .map
  | .stringSet => .stringSet

/-- The type is a set of equal kinds of things. -/
def isSet : ColumnType → Bool
  | .binarySet | .floatSet | .integerSet | .stringSet => true
  | _ => false

/-- The type that a tag alone stands for. -/
def ofTag : Tag → ColumnType
  | .string => .string
  | .number => .float
  | .bool => .boolean
  | .binary => .bytes
  | .stringSet => .stringSet
  | .numberSet => .floatSet
  | .binarySet => .binarySet
  | .list => .list
  | .map => .map

/-- The type of a name, or of a tag. -/
def ofText? (text : String) : Option ColumnType :=
  match all.find? fun type => type.name == text with
  | some type => some type
  | none => (Tag.ofText? text).map ofTag

/-- The text is a 64-bit integer without anything around it. -/
def isIntegerText (text : String) : Bool :=
  (Number.readInt64? text.toList).isSome

/-- The type of a cell without a declared one.  Numbers are integers if all of
them are written as such. -/
def ofCell : Cell → ColumnType
  | .string _ => .string
  | .number text => if isIntegerText text then .integer else .float
  | .bool _ => .boolean
  | .binary _ => .bytes
  | .stringSet _ => .stringSet
  | .numberSet texts => if texts.all isIntegerText then .integerSet else .floatSet
  | .binarySet _ => .binarySet
  | .list _ => .list
  | .map _ => .map

/-- The type of a value without a declared one. -/
def ofValue : Value → ColumnType
  | .null => .string
  | .string _ => .string
  | .bool _ => .boolean
  | .integer _ => .integer
  | .float _ => .float
  | .bytes _ => .bytes
  | .date _ => .date
  | .instant _ => .datetime
  | .list _ => .list
  | .map _ => .map
  | .stringSet _ => .stringSet
  | .integerSet _ => .integerSet
  | .floatSet _ => .floatSet
  | .binarySet _ => .binarySet

@[simp]
theorem ofText?_name (type : ColumnType) : ofText? type.name = some type := by
  cases type <;> decide

@[simp]
theorem tag_ofTag (tag : Tag) : (ofTag tag).tag = tag := by
  cases tag <;> rfl

@[simp]
theorem tag_ofCell (cell : Cell) : (ofCell cell).tag = cell.tag := by
  cases cell <;> simp only [ofCell] <;> (try split) <;> rfl

end ColumnType

end SingleTable
