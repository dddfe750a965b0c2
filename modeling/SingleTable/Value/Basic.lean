import SingleTable.Calendar.Reader
import SingleTable.Cell.Basic
import SingleTable.Number.Decimal

/-!
# Values

A value is what a caller reads from or writes to an attribute.  Dates, instants
and the two kinds of number are told apart here, while a cell stores them all as
text.  `Value.same` compares values as numbers compare: not-a-number differs from
itself and the two zeros are equal.
-/

namespace SingleTable

/-- A value as callers see it. -/
inductive Value where
  | null
  | bool (value : Bool)
  | string (text : String)
  | integer (n : Int64)
  | float (x : Double)
  | bytes (content : Bytes)
  | date (day : Date)
  | instant (t : Instant)
  | list (items : List Value)
  | map (entries : List (String × Value))
  | stringSet (texts : List String)
  | integerSet (ns : List Int64)
  | floatSet (xs : List Double)
  | binarySet (all : List Bytes)

/-- A record: values by friendly name. -/
abbrev Values := NameMap Value

namespace Value

instance : Inhabited Value := ⟨.null⟩

/-- Nothing is stored for the value: it is null or the empty string. -/
def isNull : Value → Bool
  | .null => true
  | .string text => text.isEmpty
  | _ => false

/-- The text of a string value. -/
def string? : Value → Option String
  | .string text => some text
  | _ => none

/-- The word for the kind of value. -/
def kind : Value → String
  | .null => "null"
  | .bool _ => "boolean"
  | .string _ => "string"
  | .integer _ => "integer"
  | .float _ => "float"
  | .bytes _ => "bytes"
  | .date _ => "date"
  | .instant _ => "datetime"
  | .list _ => "list"
  | .map _ => "map"
  | .stringSet _ => "string_set"
  | .integerSet _ => "integer_set"
  | .floatSet _ => "float_set"
  | .binarySet _ => "binary_set"

/-- The truth of a value: false for null, zero and whatever is empty. -/
def truthy : Value → Bool
  | .null => false
  | .bool value => value
  | .string text => !text.isEmpty
  | .integer n => n != 0
  | .float x => !x.isZero
  | .bytes content => !content.isEmpty
  | .date _ => true
  | .instant _ => true
  | .list items => !items.isEmpty
  | .map entries => !entries.isEmpty
  | .stringSet texts => !texts.isEmpty
  | .integerSet ns => !ns.isEmpty
  | .floatSet xs => !xs.isEmpty
  | .binarySet all => !all.isEmpty

/-- Two lists of doubles are equal as numbers. -/
def sameFloats : List Double → List Double → Bool
  | [], [] => true
  | x :: xs, y :: ys => x.same y && sameFloats xs ys
  | _, _ => false

mutual

/-- Two values are equal, with doubles compared as numbers. -/
def same : Value → Value → Bool
  | .null, .null => true
  | .bool a, .bool b => a == b
  | .string a, .string b => a == b
  | .integer a, .integer b => a == b
  | .float a, .float b => a.same b
  | .bytes a, .bytes b => a == b
  | .date a, .date b => a == b
  | .instant a, .instant b => a == b
  | .list a, .list b => sameItems a b
  | .map a, .map b => sameEntries a b
  | .stringSet a, .stringSet b => a == b
  | .integerSet a, .integerSet b => a == b
  | .floatSet a, .floatSet b => sameFloats a b
  | .binarySet a, .binarySet b => a == b
  | _, _ => false

/-- Two lists of values are equal. -/
def sameItems : List Value → List Value → Bool
  | [], [] => true
  | a :: as, b :: bs => same a b && sameItems as bs
  | _, _ => false

/-- Two entry lists are equal. -/
def sameEntries : List (String × Value) → List (String × Value) → Bool
  | [], [] => true
  | (n, a) :: as, (m, b) :: bs => n == m && same a b && sameEntries as bs
  | _, _ => false

end

mutual

/-- A description of the value for messages. -/
def describe : Value → String
  | .null => "Null"
  | .bool value => "Bool(" ++ (if value then "true" else "false") ++ ")"
  | .string text => "String(" ++ Text.quote text ++ ")"
  | .integer n => "Integer(" ++ Number.intText n.toInt ++ ")"
  | .float x => "Float(" ++ x.text ++ ")"
  | .bytes content => "Bytes(" ++ Text.quoteBytes content ++ ")"
  | .date day => "Date(" ++ day.text ++ ")"
  | .instant t => "Datetime(" ++ t.fullText ++ ")"
  | .list items => "List(" ++ Text.bracketed (describeItems items) ++ ")"
  | .map entries => "Map(\x7b" ++ ", ".intercalate (describeEntries entries) ++ "\x7d)"
  | .stringSet texts => "StringSet(" ++ Text.quoteAll texts ++ ")"
  | .integerSet ns =>
    "IntegerSet(" ++ Text.bracketed (ns.map fun n => Number.intText n.toInt) ++ ")"
  | .floatSet xs => "FloatSet(" ++ Text.bracketed (xs.map Double.text) ++ ")"
  | .binarySet all => "BinarySet(" ++ Text.bracketed (all.map Text.quoteBytes) ++ ")"

/-- Descriptions of the items of a list. -/
def describeItems : List Value → List String
  | [] => []
  | item :: rest => describe item :: describeItems rest

/-- Descriptions of the entries of a map. -/
def describeEntries : List (String × Value) → List String
  | [] => []
  | (name, value) :: rest =>
    (Text.quote name ++ ": " ++ describe value) :: describeEntries rest

end

/-- Descriptions of several values between square brackets. -/
def describeAll (values : List Value) : String :=
  Text.bracketed (describeItems values)

/-- The description of a value that may be missing. -/
def describe? : Option Value → String
  | some value => "Some(" ++ describe value ++ ")"
  | none => "None"

@[simp]
theorem isNull_null : isNull .null = true := rfl

@[simp]
theorem isNull_string (text : String) : isNull (.string text) = text.isEmpty := rfl

end Value

end SingleTable
