import SingleTable.Codec.Number
import SingleTable.Table.Error

/-!
# Service errors

What a client is told when a request fails: a code, a message and, where a part of
the library raised the error, its cause.
-/

namespace SingleTable

/-- The class of a failure. -/
inductive ErrorCode where
  | validation
  | conditionalCheckFailed
  | unsupportedOperation
deriving DecidableEq, Repr

/-- The code as it is written. -/
def ErrorCode.text : ErrorCode → String
  | .validation => "ValidationException"
  | .conditionalCheckFailed => "ConditionalCheckFailedException"
  | .unsupportedOperation => "UnsupportedOperationException"

/-- What is wrong with a request itself. -/
inductive RequestFault where
  | unknownView (name : String)
  | limitTooSmall (limit : Int32)
  | emptyAction
deriving DecidableEq, Repr

/-- The wording of a fault. -/
def RequestFault.message : RequestFault → String
  | .unknownView name => "The table does not have the specified index: " ++ name
  | .limitTooSmall limit =>
    "Limit must be greater than or equal to 1, got " ++ Number.intText limit.toInt
  | .emptyAction =>
    "TransactWriteItem must specify one of Put, Delete, Update or ConditionCheck"

/-- The error behind a failure. -/
inductive Cause where
  | table (error : TableError)
  | expression (error : ExpressionError)
  | codec (error : CodecError)
deriving DecidableEq, Repr

/-- What a client is told about a failure. -/
structure ServiceError where
  code : ErrorCode
  message : String
  cause : Option Cause := none
deriving DecidableEq, Repr

namespace ServiceError

/-- An invalid request. -/
def invalid (message : String) : ServiceError :=
  ⟨.validation, message, none⟩

/-- An operation that is not offered. -/
def unsupported (operation : String) : ServiceError :=
  ⟨.unsupportedOperation, "Operation is not supported by the emulator: " ++ operation, none⟩

/-- The failure for a fault of the request. -/
def ofFault (fault : RequestFault) : ServiceError :=
  invalid fault.message

/-- The failure for an error of the table.  A duplicate key counts as a failed check. -/
def ofTable (error : TableError) : ServiceError :=
  let code := match error with
    | .duplicateKey _ => .conditionalCheckFailed
    | _ => .validation
  ⟨code, error.message, some (.table error)⟩

/-- The failure for an error of an expression. -/
def ofExpression (error : ExpressionError) : ServiceError :=
  ⟨.validation, error.message, some (.expression error)⟩

/-- The failure for an error of the codec. -/
def ofCodec (error : CodecError) : ServiceError :=
  ⟨.validation, error.message, some (.codec error)⟩

/-- The failure as it is shown. -/
def text (error : ServiceError) : String :=
  "DynamoDBError(" ++ error.code.text ++ "): " ++ error.message

end ServiceError

end SingleTable
