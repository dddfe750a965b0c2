/-!
# JSON values

A JSON value as a tree in document order.  A tree may also be the beginning of a
text that stops being JSON: from that point on it holds an unreadable part.
Whoever walks the tree in document order then meets the faults of a text in the
order in which they stand.  A part that is well formed but cannot be read, such
as a string with half of a surrogate pair, can still be skipped.
-/

namespace SingleTable

/-- How the members of an object end: by its brace, or by a name that cannot be read. -/
inductive Json.Ending where
  | closed
  | unreadable (skippable : Bool)
deriving DecidableEq

/-- A JSON value.  Numbers are kept as written. -/
inductive Json where
  | null
  | bool (value : Bool)
  | number (literal : String)
  | string (text : String)
  | array (items : List Json)
  | object (members : List (String × Json)) (ending : Json.Ending)
  | unreadable (skippable : Bool)

namespace Json

instance : Inhabited Json := ⟨.null⟩

/-- An object with the given members. -/
abbrev record (members : List (String × Json)) : Json :=
  .object members .closed

mutual

/-- The value can be skipped: nothing in it stops being JSON. -/
def skippable : Json → Bool
  | .array items => skippableItems items
  | .object members ending =>
    skippableMembers members && match ending with
      | .closed => true
      | .unreadable skippable => skippable
  | .unreadable skippable => skippable
  | _ => true

/-- All items can be skipped. -/
def skippableItems : List Json → Bool
  | [] => true
  | item :: rest => skippable item && skippableItems rest

/-- All members can be skipped. -/
def skippableMembers : List (String × Json) → Bool
  | [] => true
  | (_, value) :: rest => skippable value && skippableMembers rest

end

/-- The number of an integer. -/
def ofInt (i : Int) : Json :=
  .number (toString i)

/-- The string of a text, or null. -/
def ofText? : Option String → Json
  | some text => .string text
  | none => .null

/-- The array of texts. -/
def ofTexts (texts : List String) : Json :=
  .array (texts.map .string)

end Json

end SingleTable
