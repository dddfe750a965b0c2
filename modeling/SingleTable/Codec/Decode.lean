import SingleTable.Codec.Number
import SingleTable.Column.Basic

/-!
# Reading cells

A cell is read by the column's type, which has to have its tag, or by the type
that the cell itself implies.  A blank cell is read as null.  Of a map with
declared children only these are read.
-/

namespace SingleTable.Codec

/-- The value of a cell that is neither a list nor a map. -/
def decodeFlat (cell : Cell) (type : ColumnType) : Result Value :=
  match type, cell with
  | .boolean, .bool value => .ok (.bool value)
  | .timestamp, .number text => (readTimestamp text).map .instant
  | .datetime, .string text => (readInstant text).map .instant
  | .date, .string text => (readDate text).map .date
  | .string, .string text => .ok (.string text)
  | .float, .number text => (readFloat text).map .float
  | .integer, .number text => (readInteger text).map .integer
  | .bytes, .binary content => .ok (.bytes content)
  | .stringSet, .stringSet texts => .ok (.stringSet texts)
  | .integerSet, .numberSet texts => (texts.mapM readInteger).map .integerSet
  | .floatSet, .numberSet texts => (texts.mapM readFloat).map .floatSet
  | .binarySet, .binarySet all => .ok (.binarySet all)
  | type, cell => .error (tagMismatch type.tag cell)

mutual

/-- The value of a cell under a column type, without regard to declared children. -/
def decodeAs (cell : Cell) (type : ColumnType) : Result Value :=
  match cell with
  | .list cells =>
    if type = .list then do return .list (← decodeItems cells)
    else decodeFlat (.list cells) type
  | .map entries =>
    if type = .map then do return .map (← decodeEntries entries)
    else decodeFlat (.map entries) type
  | cell => if cell.isBlank then .ok .null else decodeFlat cell type

/-- The values of the cells of a list, each by the type it implies. -/
def decodeItems : List Cell → Result (List Value)
  | [] => .ok []
  | cell :: rest => do
    let value ← decodeAs cell (.ofCell cell)
    let values ← decodeItems rest
    return value :: values

/-- The values of the entries of a map, each by the type it implies. -/
def decodeEntries : List (String × Cell) → Result (List (String × Value))
  | [] => .ok []
  | (name, cell) :: rest => do
    let value ← decodeAs cell (.ofCell cell)
    let values ← decodeEntries rest
    return (name, value) :: values

end

/-- The value of a cell by the type it implies. -/
def decodeInferred (cell : Cell) : Result Value :=
  decodeAs cell (.ofCell cell)

mutual

/-- The value of a cell under a column. -/
def decode (cell : Cell) (column : Column) : Result Value :=
  match column with
  | ⟨_, type, _, _, _, _, []⟩ => decodeAs cell type
  | ⟨_, _, _, _, _, _, child :: others⟩ =>
    if cell.isBlank then .ok .null
    else
      match cell with
      | .map entries => do
        return .map (Entries.ofList (← decodeChildren entries (child :: others)))
      | cell => .error (tagMismatch .map cell)

/-- The values of the entries that children declare, in the order of the children. -/
def decodeChildren (entries : List (String × Cell)) :
    List Column → Result (List (String × Value))
  | [] => .ok []
  | child :: others =>
    match Entries.find? child.name entries with
    | none => decodeChildren entries others
    | some cell =>
      if cell.isBlank then decodeChildren entries others
      else do
        let value ← decode cell child
        let values ← decodeChildren entries others
        return (child.name, value) :: values

end

end SingleTable.Codec

namespace SingleTable.Column

/-- The value of a cell of the column. -/
def decode (column : Column) (cell : Cell) : Codec.Result Value :=
  Codec.decode cell column

end SingleTable.Column
