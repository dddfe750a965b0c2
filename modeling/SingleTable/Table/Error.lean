import SingleTable.Cell.Basic
import SingleTable.Expression.Error
import SingleTable.Row.Key

/-!
# Table errors

Why a table refuses an operation, and the wording for it.
-/

namespace SingleTable

/-- Why a table refuses an operation. -/
inductive TableError where
  | duplicateKey (key : Key)
  | missingKeyAttribute (name : String)
  | invalidKeyType (name : String) (actual : Tag)
  | keyAttributeUpdate (name : String)
  | expression (cause : ExpressionError)
deriving DecidableEq, Repr

/-- The wording of an error. -/
def TableError.message : TableError → String
  | .duplicateKey key =>
    "row already exists for key (" ++ key.partition ++ ", " ++ Text.quoteOption key.sort ++ ")"
  | .missingKeyAttribute name => "missing required key attribute: " ++ name
  | .invalidKeyType name actual =>
    "key attribute '" ++ name ++ "' has wrong type: expected " ++ Tag.string.text ++
      ", got " ++ actual.text
  | .keyAttributeUpdate name =>
    "Cannot update attribute " ++ name ++ ". This attribute is part of the key"
  | .expression cause => cause.message

end SingleTable
