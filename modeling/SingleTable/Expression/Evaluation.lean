import SingleTable.Expression.Bindings
import SingleTable.Expression.Condition
import SingleTable.Expression.Update

/-!
# Evaluation of expressions

Key conditions compare the texts of string and number cells, numbers too, in
text order.  An item without the attribute satisfies no condition on it.  Update
steps first set attributes and then remove them, whatever their order; whether an
attribute is there already is asked of the item as it was.
-/

namespace SingleTable

/-- The attribute holds something other than the empty string. -/
def Item.holds (item : Item) (name : String) : Bool :=
  match item.find? name with
  | some cell => !cell.isBlank
  | none => false

namespace Condition

/-- A single comparison of two texts.  Nothing lies between a single value. -/
def compares (operator : Operator) (actual expected : String) : Bool :=
  match operator with
  | .equal => actual == expected
  | .less => decide (actual < expected)
  | .atMost => decide (actual ≤ expected)
  | .greater => decide (expected < actual)
  | .atLeast => decide (expected ≤ actual)
  | .beginsWith => Text.startsWith actual expected
  | .between => false

/-- A text satisfies the condition. -/
def admits (condition : Condition) (bindings : Bindings) (actual : String) :
    Except ExpressionError Bool :=
  match condition.operand with
  | .single value => do
    return compares condition.operator actual (← bindings.valueText value)
  | .range low high =>
    if condition.operator = .between then do
      let low ← bindings.valueText low
      let high ← bindings.valueText high
      return decide (low ≤ actual) && decide (actual ≤ high)
    else return false

/-- The item satisfies the condition. -/
def holds (condition : Condition) (bindings : Bindings) (item : Item) :
    Except ExpressionError Bool := do
  let name ← bindings.name condition.name
  match item.find? name with
  | none => return false
  | some cell =>
    match cell.text? with
    | none => throw (Bindings.notComparable ("attribute " ++ name) cell)
    | some actual => condition.admits bindings actual

/-- The item satisfies all conditions.  Those behind the first one that fails are
not looked at. -/
def allHold (conditions : List Condition) (bindings : Bindings) (item : Item) :
    Except ExpressionError Bool :=
  match conditions with
  | [] => .ok true
  | condition :: rest => do
    if ← condition.holds bindings item then allHold rest bindings item else return false

end Condition

namespace UpdateStep

/-- Take the setting steps one further.  `start` is the item before the update. -/
def assign (bindings : Bindings) (start current : Item) :
    UpdateStep → Except ExpressionError Item
  | .set name value => do
    let target ← bindings.name name
    let cell ← bindings.value value
    return current.insert target cell
  | .setIfAbsent name other value => do
    let target ← bindings.name name
    let cell ← bindings.value value
    let guarded ← bindings.name other
    return if start.holds guarded then current else current.insert target cell
  | .remove _ => .ok current

/-- Take the removing steps one further. -/
def drop (bindings : Bindings) (current : Item) : UpdateStep → Except ExpressionError Item
  | .remove name => do return current.erase (← bindings.name name)
  | _ => .ok current

/-- The item after all steps. -/
def applyAll (steps : List UpdateStep) (bindings : Bindings) (item : Item) :
    Except ExpressionError Item := do
  let assigned ← steps.foldlM (assign bindings item) item
  steps.foldlM (drop bindings) assigned

end UpdateStep

end SingleTable
