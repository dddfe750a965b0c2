/-!
# Expression errors

Why an expression could not be read or applied, and the wording for it.
-/

namespace SingleTable

/-- Why an expression could not be read or applied. -/
inductive ExpressionError where
  | unresolvedName (name : String)
  | unresolvedValue (name : String)
  | unsupportedOperator (symbol : String)
  | unsupportedFunction (name : String)
  | typeMismatch (reason : String)
deriving DecidableEq, Repr

/-- The wording of an error. -/
def ExpressionError.message : ExpressionError → String
  | .unresolvedName name => "Unresolved expression attribute name: " ++ name
  | .unresolvedValue name => "Unresolved expression attribute value: " ++ name
  | .unsupportedOperator symbol => "Unsupported key condition operator: " ++ symbol
  | .unsupportedFunction name => "Unsupported key condition function: " ++ name
  | .typeMismatch reason => "Type mismatch: " ++ reason

end SingleTable
