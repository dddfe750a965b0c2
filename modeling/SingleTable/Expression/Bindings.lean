import SingleTable.Cell.Basic
import SingleTable.Expression.Error
import SingleTable.Text.Lead

/-!
# Placeholders

A request brings its own meaning for the placeholders of its expressions: names
for those that start with a number sign, and cells for values.  Any other name
stands for itself.
-/

namespace SingleTable

/-- What the placeholders of a request stand for. -/
structure Bindings where
  names : NameMap String
  values : NameMap Cell
deriving DecidableEq

namespace Bindings

instance : Inhabited Bindings := ⟨⟨.empty, .empty⟩⟩

/-- The attribute that a name refers to. -/
def name (bindings : Bindings) (reference : String) : Except ExpressionError String :=
  if Text.startsWith reference "#" then
    match bindings.names.find? reference with
    | some target => .ok target
    | none => .error (.unresolvedName reference)
  else .ok reference

/-- The cell that a value placeholder stands for. -/
def value (bindings : Bindings) (reference : String) : Except ExpressionError Cell :=
  match bindings.values.find? reference with
  | some cell => .ok cell
  | none => .error (.unresolvedValue reference)

/-- The error for a cell that key conditions cannot compare. -/
def notComparable (what : String) (cell : Cell) : ExpressionError :=
  .typeMismatch
    (what ++ " is " ++ cell.tag.text ++ ", key conditions compare S or N values")

/-- The text that a value placeholder stands for, to be compared with. -/
def valueText (bindings : Bindings) (reference : String) : Except ExpressionError String := do
  let cell ← bindings.value reference
  match cell.text? with
  | some text => return text
  | none => throw (notComparable reference cell)

end Bindings

end SingleTable
