import SingleTable.Text.Visible

/-!
# Quoted text

A quoted text stands between double quotes.  Quotes, backslashes and a few
controls are written with a backslash, and every other character that is not
visible as its code point in braces.  Byte strings are quoted likewise, with two
hexadecimal digits for a byte that is not printable ASCII.
-/

namespace SingleTable.Text

/-- Lower-case hexadecimal digits of a number. -/
def hexDigits (n : Nat) : List Char :=
  Nat.toDigits 16 n

/-- A character as it stands in a quoted text. -/
def quoteChar (c : Char) : List Char :=
  if c = '"' ∨ c = '\\' then ['\\', c]
  else if c = '\n' then ['\\', 'n']
  else if c = '\r' then ['\\', 'r']
  else if c = '\t' then ['\\', 't']
  else if c.toNat = 0 then ['\\', '0']
  else if isVisible c then [c]
  else '\\' :: 'u' :: '\x7b' :: hexDigits c.toNat ++ ['\x7d']

/-- The text between double quotes. -/
def quote (text : String) : String :=
  String.ofList ('"' :: text.toList.flatMap quoteChar ++ ['"'])

/-- A byte as it stands in a quoted byte string. -/
def quoteByte (byte : UInt8) : List Char :=
  let code := byte.toNat
  let c := Char.ofNat code
  if c = '"' ∨ c = '\\' then ['\\', c]
  else if c = '\n' then ['\\', 'n']
  else if c = '\r' then ['\\', 'r']
  else if c = '\t' then ['\\', 't']
  else if code = 0 then ['\\', '0']
  else if 32 ≤ code ∧ code < 127 then [c]
  else if code < 16 then '\\' :: 'x' :: '0' :: hexDigits code
  else '\\' :: 'x' :: hexDigits code

/-- A byte string between double quotes, marked by a leading `b`. -/
def quoteBytes (bytes : List UInt8) : String :=
  String.ofList ('b' :: '"' :: bytes.flatMap quoteByte ++ ['"'])

/-- Texts joined by a comma and a blank, between square brackets. -/
def bracketed (parts : List String) : String :=
  "[" ++ ", ".intercalate parts ++ "]"

/-- Quoted texts between square brackets. -/
def quoteAll (texts : List String) : String :=
  bracketed (texts.map quote)

/-- An optional quoted text, under the words `Some` and `None`. -/
def quoteOption : Option String → String
  | some text => "Some(" ++ quote text ++ ")"
  | none => "None"

end SingleTable.Text
