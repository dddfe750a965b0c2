import SingleTable.Schema
import SingleTable.Service.Request

/-!
# Saving records

The request that saves a record of a schema.  A column that the record does not
mention keeps what the row holds, a null or empty value removes the attribute, and
`created_at` is set only once.  The column at position `n` has the placeholders
`#kn` and `:vn`.
-/

namespace SingleTable.Schema

/-- What saving one column comes to: the placeholder of its attribute, and that of
its value with the cell, if one is set. -/
structure Assignment where
  column : Column
  position : Nat
  cell : Option Cell

namespace Assignment

/-- The placeholder of the attribute. -/
def name (assignment : Assignment) : String :=
  "#k" ++ Number.intText assignment.position

/-- The placeholder of the value. -/
def value (assignment : Assignment) : String :=
  ":v" ++ Number.intText assignment.position

/-- The part of a setting clause that sets the column. -/
def setText (assignment : Assignment) : String :=
  if assignment.column.name = "created_at" then
    assignment.name ++ "=if_not_exists(" ++ assignment.name ++ ", " ++ assignment.value ++ ")"
  else assignment.name ++ "=" ++ assignment.value

end Assignment

/-- The assignments of columns from a position on. -/
def assignmentsFrom (values : Values) : Nat → List Column →
    Codec.Result (List Assignment)
  | _, [] => .ok []
  | position, column :: rest =>
    match values.find? column.name with
    | none => assignmentsFrom values (position + 1) rest
    | some value => do
      let cell ← column.encode value
      let others ← assignmentsFrom values (position + 1) rest
      return ⟨column, position, cell⟩ :: others

/-- A clause of an update expression, if it has parts. -/
def clauseText (keyword : String) (parts : List String) : List String :=
  if parts.isEmpty then [] else [keyword ++ " " ++ ", ".intercalate parts]

/-- The update expression of assignments, if there are any. -/
def expressionOf (assignments : List Assignment) : Option String :=
  let (sets, removes) := assignments.partition (·.cell.isSome)
  let clauses := clauseText "SET" (sets.map Assignment.setText) ++
    clauseText "REMOVE" (removes.map Assignment.name)
  if clauses.isEmpty then none else some (" ".intercalate clauses)

/-- The placeholders of assignments. -/
def bindingsOf (assignments : List Assignment) : Bindings where
  names := .ofList (assignments.map fun a => (a.name, a.column.attributeName))
  values := .ofList (assignments.filterMap fun a => a.cell.map fun cell => (a.value, cell))

/-- The request that saves a record. -/
def updateRequest (schema : Schema) (table : String) (values : Values) :
    Codec.Result UpdateRequest := do
  let key ← schema.encodeKey values
  let assignments ← assignmentsFrom values 0 schema.allColumns
  return ⟨table, key, expressionOf assignments, bindingsOf assignments⟩

end SingleTable.Schema
