import SingleTable.Json.Document
import SingleTable.Json.Numeral
import SingleTable.Ordered.NameMap

/-!
# Reading values from JSON

A decoder takes a JSON value to a value of another type.  Decoders walk the tree
in document order, so that of several faults the first in the text is reported.
A text that stops being JSON is told apart from JSON of the wrong shape.

A record is read from an object whose members may come in any order, or from an
array of all its fields in their declared order.  Members with other names are
skipped.
-/

namespace SingleTable.Json

/-- Why a JSON text or value could not be read. -/
inductive ReadError where
  | notJson
  | wrongShape
  | notOneKey
  | unknownField (name : String) (known : List String)
  | missingField (name : String)
deriving DecidableEq

/-- The wording of an error that names the part at fault; the others have none. -/
def ReadError.message? : ReadError → Option String
  | .notJson | .wrongShape => none
  | .notOneKey => some "AttributeValue must have exactly one key"
  | .unknownField name known =>
    some ("unknown field `" ++ name ++ "`, expected one of " ++
      ", ".intercalate (known.map fun field => "`" ++ field ++ "`"))
  | .missingField name => some ("missing field `" ++ name ++ "`")

/-- A way of reading values from JSON. -/
abbrev Decoder (α : Type) := Json → Except ReadError α

namespace Decoder

/-- The error for a value of the wrong kind.  A number beyond all doubles and an
unreadable part are no JSON. -/
def mismatch : Json → ReadError
  | .unreadable _ => .notJson
  | .number literal => if numberInRange literal then .wrongShape else .notJson
  | _ => .wrongShape

/-- A string. -/
def text : Decoder String
  | .string text => .ok text
  | json => .error (mismatch json)

/-- A truth value. -/
def bool : Decoder Bool
  | .bool value => .ok value
  | json => .error (mismatch json)

/-- A whole number between two bounds. -/
def wholeBetween (low high : Int) : Decoder Int
  | .number literal =>
    match (Numeral.ofLiteral literal).whole? with
    | some n => if low ≤ n ∧ n ≤ high then .ok n else .error .wrongShape
    | none => .error (mismatch (.number literal))
  | json => .error (mismatch json)

/-- A finite double. -/
def double : Decoder Double
  | .number literal =>
    match (Numeral.ofLiteral literal).double? with
    | some x => .ok x
    | none => .error .notJson
  | json => .error (mismatch json)

/-- Null, or what another decoder reads. -/
def nullable {α : Type} (decode : Decoder α) : Decoder (Option α)
  | .null => .ok none
  | json => (decode json).map some

/-- The items of an array. -/
def items {α : Type} (decode : Decoder α) : Decoder (List α)
  | .array items => items.mapM decode
  | json => .error (mismatch json)

/-- The members of an object whose names are free; of two with one name the later wins. -/
def members {α : Type} (decode : Decoder α) : Decoder (NameMap α)
  | .object members ending => do
    let entries ← members.mapM fun member => do
      let value ← decode member.2
      return (member.1, value)
    match ending with
    | .closed => return NameMap.ofList entries
    | .unreadable _ => throw .notJson
  | json => .error (mismatch json)

end Decoder

/-- What it means that a record has no member for a field. -/
inductive Presence where
  | required
  | optional
  | defaulted
deriving DecidableEq

/-- A field of a record: its name, what its absence means, and how its value is checked. -/
structure Field where
  name : String
  presence : Presence
  check : Json → Except ReadError Unit

/-- A way of reading a record: its fields, and how a value is made of theirs. -/
structure Record (α : Type) where
  fields : List Field
  build : (String → Option Json) → Except ReadError α

namespace Record

variable {α β : Type}

/-- A record without fields. -/
def start (make : α) : Record α where
  fields := []
  build _ := .ok make

/-- Read the value of a decoder only to see whether it can be read. -/
private def checkOf (decode : Decoder α) (json : Json) : Except ReadError Unit :=
  (decode json).map fun _ => ()

/-- A record with one more field, which must be there. -/
def required (record : Record (α → β)) (name : String) (decode : Decoder α) : Record β where
  fields := record.fields ++ [⟨name, .required, checkOf decode⟩]
  build look := do
    let make ← record.build look
    match look name with
    | some json => return make (← decode json)
    | none => throw (.missingField name)

/-- A record with one more field, which may be null or missing. -/
def optional (record : Record (Option α → β)) (name : String) (decode : Decoder α) :
    Record β where
  fields := record.fields ++ [⟨name, .optional, checkOf decode.nullable⟩]
  build look := do
    let make ← record.build look
    match look name with
    | some json => return make (← decode.nullable json)
    | none => return make none

/-- A record with one more field, which has a value when it is missing. -/
def defaulted (record : Record (α → β)) (name : String) (fallback : α) (decode : Decoder α) :
    Record β where
  fields := record.fields ++ [⟨name, .defaulted, checkOf decode⟩]
  build look := do
    let make ← record.build look
    match look name with
    | some json => return make (← decode json)
    | none => return make fallback

/-- Check the members of an object in their order.  `seen` are the fields met before. -/
def checkMembers (fields : List Field) (seen : List String) :
    List (String × Json) → Ending → Except ReadError Unit
  | [], .closed => .ok ()
  | [], .unreadable _ => .error .notJson
  | (name, value) :: rest, ending =>
    match fields.find? (·.name == name) with
    | some field =>
      if seen.contains name then .error .wrongShape
      else do
        field.check value
        checkMembers fields (name :: seen) rest ending
    | none =>
      if value.skippable then checkMembers fields seen rest ending else .error .notJson

/-- Pair the items of an array with the fields in their order. -/
def checkItems : List Field → List Json → Except ReadError (List (String × Json))
  | [], [] => .ok []
  | [], _ :: _ => .error .notJson
  | field :: fields, [] =>
    if field.presence = .defaulted then checkItems fields [] else .error .wrongShape
  | field :: fields, item :: rest => do
    field.check item
    let others ← checkItems fields rest
    return (field.name, item) :: others

/-- The decoder of a record. -/
def decoder (record : Record α) : Decoder α
  | .object members ending => do
    checkMembers record.fields [] members ending
    record.build fun name => Entries.find? name members
  | .array items => do
    let members ← checkItems record.fields items
    record.build fun name => Entries.find? name members
  | json => .error (Decoder.mismatch json)

end Record

/-- Read a text: the value of the decoder, if nothing but white space follows it. -/
def Decoder.ofText {α : Type} (decode : Decoder α) (text : String) : Except ReadError α := do
  let (json, alone) := Json.ofText text
  let value ← decode json
  if alone then return value else throw .notJson

end SingleTable.Json
