import SingleTable.Expression.Clause

/-!
# Update steps

An update expression lists steps: attributes to set, attributes to set only where
there is none, and attributes to remove.  Names and values stand in the expression
as placeholders, which the steps keep as they are.
-/

namespace SingleTable

/-- One step of an update.  `setIfAbsent name other value` sets `name` unless
`other` already has a value. -/
inductive UpdateStep where
  | set (name value : String)
  | setIfAbsent (name other value : String)
  | remove (name : String)
deriving DecidableEq, Repr

namespace UpdateStep

open Expression

/-- The attribute that a step is about. -/
def name : UpdateStep → String
  | .set name _ => name
  | .setIfAbsent name _ _ => name
  | .remove name => name

/-- The text behind a leading character, with the character in front again. -/
def placeholder (sign : Char) (chars : List Char) : String :=
  String.ofList (sign :: chars)

/-- Reads `#name = :value`. -/
def readSet : Reader UpdateStep := fun text => do
  let text ← literal? ['#'] text
  let (name, text) ← run? (fun c => c == ',' || Text.isSpace c || c == '(' || c == '=') text
  let text ← mark? ['='] text
  let text ← literal? [':'] text
  let (value, text) ← run? (fun c => Text.isSpace c || c == ',' || c == '(') text
  return (.set (placeholder '#' name) (placeholder ':' value), text)

/-- Reads `#name = if_not_exists(#other, :value)`. -/
def readSetIfAbsent : Reader UpdateStep := fun text => do
  let text ← literal? ['#'] text
  let (name, text) ← run? (fun c => c == ',' || Text.isSpace c || c == '=') text
  let text ← mark? ['='] text
  let text ← literal? "if_not_exists".toList text
  let text ← mark? ['('] text
  let text ← literal? ['#'] text
  let (other, text) ← run? (fun c => Text.isSpace c || c == ',') text
  let text ← mark? [','] text
  let text ← literal? [':'] text
  let (value, text) ← run? (fun c => Text.isSpace c || c == ')') text
  let text ← literal? [')'] (Text.trimStart text)
  return (.setIfAbsent (placeholder '#' name) (placeholder '#' other) (placeholder ':' value),
    text)

/-- The text cut at every comma. -/
def splitCommas : List Char → List (List Char)
  | [] => [[]]
  | c :: rest =>
    if c = ',' then [] :: splitCommas rest
    else
      match splitCommas rest with
      | part :: parts => (c :: part) :: parts
      | [] => [[c]]

/-- The steps of the clause that sets attributes: plain ones before the others. -/
def setsOfText (text : String) : List UpdateStep :=
  match Clause.body? .set text.toList with
  | some body => pieces readSet body ++ pieces readSetIfAbsent body
  | none => []

/-- The steps of the clause that removes attributes. -/
def removesOfText (text : String) : List UpdateStep :=
  match Clause.body? .remove text.toList with
  | some body =>
    let names := (splitCommas body).map Text.trim
    (names.filter (!·.isEmpty)).map fun name => .remove (String.ofList name)
  | none => []

/-- The steps of an update expression. -/
def ofText (text : String) : List UpdateStep :=
  setsOfText text ++ removesOfText text

end UpdateStep

end SingleTable
