import SingleTable.Codec.Number

/-!
# Sample cells

Shorthands for the cells of single values, for filling a table by hand.
-/

namespace SingleTable.Cell

/-- A string cell, if the text is not empty. -/
def ofText? (text : String) : Option Cell :=
  if text.isEmpty then none else some (.string text)

/-- The number cell of a float's whole part.  A float beyond 64 bits stops at their end. -/
def ofWholePart (x : Double) : Cell :=
  .number (Codec.int64Text x.truncate)

/-- The number cell of a float. -/
def ofDouble (x : Double) : Cell :=
  .number x.text

/-- The number cell of an instant's whole seconds. -/
def ofSeconds (t : Instant) : Cell :=
  .number (Number.intText t.seconds)

/-- The string cell of an instant. -/
def ofInstant (t : Instant) : Cell :=
  .string t.text

@[simp]
theorem ofText?_empty : ofText? "" = none := rfl

end SingleTable.Cell
