import SingleTable.Expectation
import SingleTable.Table.Lookup

/-!
# Inspecting tables

Checks of what a table holds: that there is a row, and that the values of rows
meet expectations.  A failed check tells what is wrong.
-/

namespace SingleTable

/-- Why a table is not as expected. -/
inductive Finding where
  | noRow (key : Key)
  | noRows (partition : String) (lead : Option String)
  | undecodable
  | shortfall (name : String) (cause : Shortfall)

/-- The wording of a finding. -/
def Finding.message : Finding → String
  | .noRow key => "Expected to find a row with the key " ++ key.text ++ "."
  | .noRows partition lead =>
    "Expected to find at least one row matching (" ++ partition ++ ", " ++
      Text.quoteOption lead ++ ")."
  | .undecodable => "Failed to decode row"
  | .shortfall name cause => cause.message name

namespace Table

/-- There is a row under a key. -/
def inspectKey (table : Table) (key : Key) : Except Finding Unit :=
  if (table.get? key).isSome then .ok () else .error (.noRow key)

/-- The values of a row meet expectations. -/
def inspectRow (row : Item) (expectations : List (String × Expectation)) :
    Except Finding Unit :=
  match row.decode with
  | .error _ => .error .undecodable
  | .ok values =>
    expectations.forM fun (name, expectation) =>
      (expectation.check (values.find? name)).mapError (.shortfall name)

/-- There is a row under a key, and its values meet expectations. -/
def inspectValues (table : Table) (key : Key) (expectations : List (String × Expectation)) :
    Except Finding Unit :=
  match table.get? key with
  | some row => inspectRow row expectations
  | none => .error (.noRow key)

/-- The values of all rows of a partition whose sort text starts with `lead` meet
expectations.  There has to be such a row unless `allowNone` is set. -/
def inspectMatching (table : Table) (partition : String) (lead : Option String)
    (expectations : List (String × Expectation)) (allowNone : Bool) : Except Finding Unit :=
  let rows := table.rowsOf partition (lead.getD "")
  if rows.isEmpty && !allowNone then .error (.noRows partition lead)
  else rows.forM (inspectRow · expectations)

end Table

end SingleTable
