import SingleTable.Json.Basic

/-!
# JSON text

Compact JSON text of a value: members in the order of the tree, no white space,
and escapes only where JSON asks for them.
-/

namespace SingleTable.Json

/-- Four hexadecimal digits of a number below 65536. -/
def hexQuad (n : Nat) : List Char :=
  let digits := Nat.toDigits 16 n
  List.replicate (4 - digits.length) '0' ++ digits

/-- The character that stands behind a backslash for a character with a short escape. -/
def shortMark? (c : Char) : Option Char :=
  if c = '"' ∨ c = '\\' then some c
  else if c = '\x08' then some 'b'
  else if c = '\t' then some 't'
  else if c = '\n' then some 'n'
  else if c = '\x0c' then some 'f'
  else if c = '\r' then some 'r'
  else none

/-- A character as it stands in a JSON string. -/
def escapeChar (c : Char) : List Char :=
  match shortMark? c with
  | some mark => ['\\', mark]
  | none => if c.toNat < 32 then '\\' :: 'u' :: hexQuad c.toNat else [c]

/-- A JSON string. -/
def escape (text : String) : String :=
  String.ofList ('"' :: text.toList.flatMap escapeChar ++ ['"'])

mutual

/-- The text of a value.  An unreadable part has none. -/
def render : Json → String
  | .null => "null"
  | .bool value => if value then "true" else "false"
  | .number literal => literal
  | .string text => escape text
  | .array items => "[" ++ ",".intercalate (renderItems items) ++ "]"
  | .object members _ => "\x7b" ++ ",".intercalate (renderMembers members) ++ "\x7d"
  | .unreadable _ => ""

/-- The texts of items. -/
def renderItems : List Json → List String
  | [] => []
  | item :: rest => render item :: renderItems rest

/-- The texts of members. -/
def renderMembers : List (String × Json) → List String
  | [] => []
  | (name, value) :: rest => (escape name ++ ":" ++ render value) :: renderMembers rest

end

end SingleTable.Json
