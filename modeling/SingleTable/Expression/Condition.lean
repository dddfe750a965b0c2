import SingleTable.Expression.Error
import SingleTable.Expression.Scan

/-!
# Key conditions

A key condition compares an attribute with one value, or asks whether it lies
between two.  An expression is a conjunction of such conditions.  Names and values
stand in it as placeholders, which the conditions keep as they are.
-/

namespace SingleTable

/-- What a condition asks. -/
inductive Operator where
  | equal
  | less
  | atMost
  | greater
  | atLeast
  | between
  | beginsWith
deriving DecidableEq, Repr

namespace Operator

/-- All operators. -/
def all : List Operator :=
  [.equal, .less, .atMost, .greater, .atLeast, .between, .beginsWith]

/-- The operator as it is written. -/
def text : Operator → String
  | .equal => "="
  | .less => "<"
  | .atMost => "<="
  | .greater => ">"
  | .atLeast => ">="
  | .between => "between"
  | .beginsWith => "begins_with"

/-- The comparison that a symbol stands for. -/
def ofSymbol? (symbol : String) : Option Operator :=
  [equal, less, atMost, greater, atLeast].find? fun operator => operator.text == symbol

/-- The operator that is written as a function. -/
def ofFunction? (name : String) : Option Operator :=
  if name == beginsWith.text then some .beginsWith else none

end Operator

/-- What a condition compares with. -/
inductive Operand where
  | single (value : String)
  | range (low high : String)
deriving DecidableEq, Repr

/-- A condition on one attribute. -/
structure Condition where
  operator : Operator
  name : String
  operand : Operand
deriving DecidableEq, Repr

namespace Condition

open Expression

/-- A condition as it is written: its name, the word for its operator and its operand. -/
structure Written where
  name : String
  operator : String
  operand : Operand
deriving DecidableEq, Repr

/-- The text ends an operand of a range. -/
def endsBound (c : Char) : Bool :=
  c == ',' || Text.isSpace c

/-- Reads `name BETWEEN low AND high`. -/
def readRange : Reader Written := fun text => do
  let (name, text) ← run? endsBound text
  let text ← word? "BETWEEN".toList text
  let (low, text) ← run? endsBound text
  let text ← word? "AND".toList text
  let (high, text) ← run? endsBound text
  return (⟨String.ofList name, Operator.between.text,
    .range (String.ofList low) (String.ofList high)⟩, text)

/-- A character of a comparison symbol. -/
def isSymbol (c : Char) : Bool :=
  c == '<' || c == '>' || c == '='

/-- The text ends the value of a comparison. -/
def endsValue (c : Char) : Bool :=
  Text.isSpace c || c == ',' || c == '(' || c == ')'

/-- Reads `name = value`, with any run of comparison characters as the symbol.
Where no value follows, the last of several such characters is the value. -/
def readComparison : Reader Written := fun text => do
  let (name, text) ← run? (fun c => endsValue c || isSymbol c) text
  let (symbol, text) ← run? (!isSymbol ·) (Text.trimStart text)
  let make (symbol value : List Char) : Written :=
    ⟨String.ofList name, String.ofList symbol, .single (String.ofList value)⟩
  match run? endsValue (Text.trimStart text) with
  | some (value, text) => return (make symbol value, text)
  | none =>
    if symbol.length < 2 then none
    else return (make symbol.dropLast (symbol.drop (symbol.length - 1)), text)

/-- Reads `function(name, value)`. -/
def readCall : Reader Written := fun text => do
  let (function, text) ← run? (fun c => Text.isSpace c || c == ',' || c == '(') text
  let text ← mark? ['('] text
  let (name, text) ← run? (fun c => Text.isSpace c || c == ',') text
  let text ← mark? [','] text
  let (value, text) ← run? (fun c => Text.isSpace c || c == ')') text
  let text ← literal? [')'] (Text.trimStart text)
  return (⟨String.ofList name, String.ofList function, .single (String.ofList value)⟩, text)

/-- A written condition under the operator that a table of words gives it. -/
def ofWritten (operator? : String → Option Operator) (error : String → ExpressionError)
    (written : Written) : Except ExpressionError Condition :=
  match operator? written.operator with
  | some operator => .ok ⟨operator, written.name, written.operand⟩
  | none => .error (error written.operator)

/-- The conditions of an expression: ranges, then comparisons, then calls. -/
def ofText (text : String) : Except ExpressionError (List Condition) := do
  let text := text.toList
  let ranges := (pieces readRange text).map fun written =>
    Condition.mk .between written.name written.operand
  let comparisons ← (pieces readComparison text).mapM
    (ofWritten Operator.ofSymbol? .unsupportedOperator)
  let calls ← (pieces readCall text).mapM
    (ofWritten Operator.ofFunction? .unsupportedFunction)
  return ranges ++ comparisons ++ calls

end Condition

end SingleTable
