import SingleTable.Column.Type

/-!
# Scalar payloads

Errors of the codec, and the text payloads of single values: how whole numbers,
floats and plain text are written for storage, and how stored text is read.
White space around stored numbers and dates is ignored, but an error shows the
text as it stands.
-/

namespace SingleTable

/-- Why a value could not be stored or a cell not be read. -/
inductive CodecError where
  | typeMismatch (expected actual : String)
  | invalidNumber (text : String)
  | invalidDate (text : String)
  | unknownTag (text : String)
deriving DecidableEq, Repr

/-- The wording of an error. -/
def CodecError.message : CodecError → String
  | .typeMismatch expected actual => "cannot convert " ++ actual ++ " to " ++ expected
  | .invalidNumber text => "invalid number: " ++ text
  | .invalidDate text => "invalid date: " ++ text
  | .unknownTag text => "unknown type tag: " ++ text

namespace Codec

/-- The result of a codec function. -/
abbrev Result (α : Type) := Except CodecError α

/-- A value does not fit a column type. -/
def mismatch (type : ColumnType) (value : Value) : CodecError :=
  .typeMismatch type.name value.kind

/-- A cell does not have an expected tag. -/
def tagMismatch (tag : Tag) (cell : Cell) : CodecError :=
  .typeMismatch tag.text cell.tag.text

/-- The result of a reader, or an error for its text. -/
def orError {α : Type} (error : CodecError) : Option α → Result α
  | some a => .ok a
  | none => .error error

/-- A finite float; others cannot be stored. -/
def finite (x : Double) : Result Double :=
  if x.isFinite then .ok x else .error (.invalidNumber x.text)

/-- A stored 64-bit integer. -/
def readInteger (text : String) : Result Int64 :=
  orError (.invalidNumber text) (Number.readInt64? (Text.trim text.toList))

/-- A stored finite float. -/
def readFloat (text : String) : Result Double :=
  orError (.invalidNumber text)
    ((Double.ofText? (Text.trim text.toList)).filter Double.isFinite)

/-- An instant stored as whole seconds. -/
def readTimestamp (text : String) : Result Instant := do
  let seconds ← readInteger text
  orError (.invalidDate text) (Instant.of? seconds.toInt 0)

/-- An instant stored as date and time. -/
def readInstant (text : String) : Result Instant :=
  orError (.invalidDate text) (Instant.ofText? text)

/-- A stored date. -/
def readDate (text : String) : Result Date :=
  orError (.invalidDate text) (Date.ofText? text)

/-- The type of a type name or tag. -/
def readType (text : String) : Result ColumnType :=
  orError (.unknownTag text) (ColumnType.ofText? text)

/-- The text of a 64-bit integer. -/
def int64Text (n : Int64) : String :=
  Number.intText n.toInt

/-- The text of a value that is stored as a whole number.  Fractions are cut off,
and a string is read as a float first. -/
def integerText (type : ColumnType) : Value → Result String
  | .integer n => .ok (int64Text n)
  | .float x => do return int64Text (← finite x).truncate
  | .bool value => .ok (if value then "1" else "0")
  | .string text => do return int64Text (← readFloat text).truncate
  | value => .error (mismatch type value)

/-- The text of a value that is stored as a float. -/
def floatText (type : ColumnType) : Value → Result String
  | .float x => do return (← finite x).text
  | .integer n => .ok (Double.ofInt n.toInt).text
  | .string text => do return (← readFloat text).text
  | value => .error (mismatch type value)

/-- The text of a value that is stored as a string. -/
def plainText (type : ColumnType) : Value → Result String
  | .string text => .ok text
  | .integer n => .ok (int64Text n)
  | .float x => do return (← finite x).text
  | .bool value => .ok (if value then "true" else "false")
  | .date day => .ok day.text
  | .instant t => .ok t.text
  | value => .error (mismatch type value)

/-- The bytes of a value that is stored as a byte string. -/
def byteContent (type : ColumnType) : Value → Result Bytes
  | .bytes content => .ok content
  | .string text => .ok text.toUTF8.toList
  | value => .error (mismatch type value)

end Codec

end SingleTable
