import SingleTable.Cell.Basic
import SingleTable.Json.Decode
import SingleTable.Json.Printer
import SingleTable.Text.Base64

/-!
# Cells as JSON

A cell is written as an object with one member, named by its tag.  Byte strings
are written in base64.  Reading accepts exactly such objects; of a repeated name
inside a map the later wins.
-/

namespace SingleTable.Cell

open Json

/-- The base64 text of a byte string. -/
def base64 (bytes : Bytes) : String :=
  String.ofList (Text.Base64.encode bytes)

mutual

/-- The JSON of a cell. -/
def toJson : Cell → Json
  | .string text => .record [("S", .string text)]
  | .number text => .record [("N", .string text)]
  | .binary bytes => .record [("B", .string (base64 bytes))]
  | .stringSet texts => .record [("SS", .ofTexts texts)]
  | .numberSet texts => .record [("NS", .ofTexts texts)]
  | .binarySet all => .record [("BS", .ofTexts (all.map base64))]
  | .bool value => .record [("BOOL", .bool value)]
  | .list cells => .record [("L", .array (toJsonCells cells))]
  | .map entries => .record [("M", .record (toJsonEntries entries))]

/-- The JSON of each cell. -/
def toJsonCells : List Cell → List Json
  | [] => []
  | cell :: rest => toJson cell :: toJsonCells rest

/-- The members of a map. -/
def toJsonEntries : List (String × Cell) → List (String × Json)
  | [] => []
  | (name, cell) :: rest => (name, toJson cell) :: toJsonEntries rest

end

/-- The tags in the order in which an error lists them. -/
def listedTags : List String :=
  ["S", "N", "B", "SS", "NS", "BS", "BOOL", "L", "M"]

/-- The byte string of a base64 text. -/
def ofBase64 (text : String) : Except ReadError Bytes :=
  match Text.Base64.decode? text.toList with
  | some bytes => .ok bytes
  | none => .error .wrongShape

mutual

/-- Read a cell. -/
def ofJson : Json → Except ReadError Cell
  | .object [] .closed => .error .notOneKey
  | .object [] (.unreadable _) => .error .notJson
  | .object ((name, payload) :: rest) ending =>
    match Tag.ofText? name with
    | none => .error (.unknownField name listedTags)
    | some tag => do
      let cell ← ofPayload tag payload
      match rest, ending with
      | [], .closed => return cell
      | [], .unreadable _ => throw .notJson
      | _ :: _, _ => throw .notOneKey
  | json => .error (Decoder.mismatch json)

/-- Read the payload of a tag. -/
def ofPayload : Tag → Json → Except ReadError Cell
  | .list, .array items => (ofItems items).map .list
  | .map, .object members ending => do
    let entries ← ofMembers members
    match ending with
    | .closed => return .map (Entries.ofList entries)
    | .unreadable _ => throw .notJson
  | .list, json => .error (Decoder.mismatch json)
  | .map, json => .error (Decoder.mismatch json)
  | .string, json => (Decoder.text json).map .string
  | .number, json => (Decoder.text json).map .number
  | .bool, json => (Decoder.bool json).map .bool
  | .binary, json => do return .binary (← ofBase64 (← Decoder.text json))
  | .stringSet, json => (Decoder.items Decoder.text json).map .stringSet
  | .numberSet, json => (Decoder.items Decoder.text json).map .numberSet
  | .binarySet, json => do
    let texts ← Decoder.items Decoder.text json
    return .binarySet (← texts.mapM ofBase64)

/-- Read the cells of a list. -/
def ofItems : List Json → Except ReadError (List Cell)
  | [] => .ok []
  | item :: rest => do
    let cell ← ofJson item
    let cells ← ofItems rest
    return cell :: cells

/-- Read the entries of a map. -/
def ofMembers : List (String × Json) → Except ReadError (List (String × Cell))
  | [] => .ok []
  | (name, value) :: rest => do
    let cell ← ofJson value
    let entries ← ofMembers rest
    return (name, cell) :: entries

end

end SingleTable.Cell

namespace SingleTable.Item

open Json

/-- The JSON of an item. -/
def toJson (item : Item) : Json :=
  .record (Cell.toJsonEntries item.entries)

/-- Read an item. -/
def ofJson : Decoder Item :=
  Decoder.members Cell.ofJson

end SingleTable.Item
