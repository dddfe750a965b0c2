import SingleTable.Codec.Number
import SingleTable.Column.Basic

/-!
# Storing values

A value is stored as a cell of the column's type.  Null and the empty string are
not stored at all, neither on their own nor inside a list or map.  Entries of
lists and of maps without declared children are stored by the type their value
implies.
-/

namespace SingleTable.Codec

/-- The values whose texts make up a set. -/
def setItems (type : ColumnType) : Value → Result (List Value)
  | .stringSet texts => .ok (texts.map .string)
  | .integerSet ns => .ok (ns.map .integer)
  | .floatSet xs => .ok (xs.map .float)
  | .binarySet all => .ok (all.map .bytes)
  | .list items => .ok items
  | value => .error (mismatch type value)

/-- The cell of a value that is neither null nor a container of its own kind. -/
def encodeFlat (value : Value) : ColumnType → Result Cell
  | .boolean => .ok (.bool value.truthy)
  | .timestamp =>
    match value with
    | .instant t => .ok (.number (Number.intText t.seconds))
    | value => (integerText .timestamp value).map .number
  | .datetime =>
    match value with
    | .instant t => .ok (.string t.text)
    | .string text => do return .string (← readInstant text).text
    | value => .error (mismatch .datetime value)
  | .date =>
    match value with
    | .date day => .ok (.string day.text)
    | .instant t => .ok (.string (String.ofList t.dateText))
    | value => .error (mismatch .date value)
  | .float => (floatText .float value).map .number
  | .integer => (integerText .integer value).map .number
  | .bytes => (byteContent .bytes value).map .binary
  | .string => (plainText .string value).map .string
  | .stringSet => do
    return .stringSet (← (← setItems .stringSet value).mapM (plainText .stringSet))
  | .integerSet => do
    return .numberSet (← (← setItems .integerSet value).mapM (integerText .integerSet))
  | .floatSet => do
    return .numberSet (← (← setItems .floatSet value).mapM (floatText .floatSet))
  | .binarySet => do
    return .binarySet (← (← setItems .binarySet value).mapM (byteContent .binarySet))
  | .list => .error (mismatch .list value)
  | .map => .error (mismatch .map value)

mutual

/-- The cell of a value under a column type, without regard to declared children. -/
def encodeAs (value : Value) (type : ColumnType) : Result (Option Cell) :=
  match value with
  | .list items =>
    if type = .list then do return some (.list (← encodeItems items))
    else do return some (← encodeFlat (.list items) type)
  | .map entries =>
    if type = .map then do return some (.map (← encodeEntries entries))
    else do return some (← encodeFlat (.map entries) type)
  | value =>
    if value.isNull then .ok none else do return some (← encodeFlat value type)

/-- The cells of the items of a list. -/
def encodeItems : List Value → Result (List Cell)
  | [] => .ok []
  | item :: rest => do
    let cell? ← encodeAs item (.ofValue item)
    let cells ← encodeItems rest
    return match cell? with
      | some cell => cell :: cells
      | none => cells

/-- The cells of the entries of a map. -/
def encodeEntries : List (String × Value) → Result (List (String × Cell))
  | [] => .ok []
  | (name, value) :: rest => do
    let cell? ← encodeAs value (.ofValue value)
    let entries ← encodeEntries rest
    return match cell? with
      | some cell => (name, cell) :: entries
      | none => entries

end

mutual

/-- The cell of a value under a column. -/
def encode (value : Value) (column : Column) : Result (Option Cell) :=
  match column with
  | ⟨_, type, _, _, _, _, []⟩ => encodeAs value type
  | ⟨_, _, _, _, _, _, child :: others⟩ =>
    if value.isNull then .ok none
    else
      match value with
      | .map entries => do
        return some (.map (Entries.ofList (← encodeChildren entries (child :: others))))
      | value => .error (mismatch .map value)

/-- The cells of the entries that children declare, in the order of the children. -/
def encodeChildren (entries : List (String × Value)) :
    List Column → Result (List (String × Cell))
  | [] => .ok []
  | child :: others =>
    match Entries.find? child.name entries with
    | none => encodeChildren entries others
    | some value => do
      let cell? ← encode value child
      let cells ← encodeChildren entries others
      return match cell? with
        | some cell => (child.name, cell) :: cells
        | none => cells

end

end SingleTable.Codec

namespace SingleTable.Column

/-- The cell of a value under the column; none if nothing is stored. -/
def encode (column : Column) (value : Value) : Codec.Result (Option Cell) :=
  Codec.encode value column

end SingleTable.Column
