import SingleTable.Cell.Wire
import SingleTable.Expression.Bindings
import SingleTable.Json.Encode

/-!
# Requests

What a client can ask of the table, with the JSON form of each request.  In JSON,
options that are not set and empty placeholder maps are left out, and all other
fields are always written.
-/

namespace SingleTable

open Json

namespace Bindings

/-- The members of placeholder maps; those of an empty map are left out. -/
def members (bindings : Bindings) : List (String × Json) :=
  mapMember? "ExpressionAttributeNames" .string bindings.names ++
    mapMember? "ExpressionAttributeValues" Cell.toJson bindings.values

/-- Add placeholder maps to a record. -/
def addTo {β : Type} (record : Record (Bindings → β)) : Record β :=
  let curried : Record (NameMap String → NameMap Cell → β) :=
    { record with
      build := fun look => (record.build look).map fun make names values =>
        make ⟨names, values⟩ }
  (curried.defaulted "ExpressionAttributeNames" .empty (Decoder.members Decoder.text)).defaulted
    "ExpressionAttributeValues" .empty (Decoder.members Cell.ofJson)

end Bindings

/-- Ask for the row with a key. -/
structure GetRequest where
  table : String
  key : Item
deriving DecidableEq

namespace GetRequest

/-- The fields of the request. -/
def record : Record GetRequest :=
  ((Record.start GetRequest.mk).required "TableName" Decoder.text).required "Key" Item.ofJson

/-- The JSON of the request. -/
def toJson (request : GetRequest) : Json :=
  .record (member "TableName" (.string request.table) ++ member "Key" request.key.toJson)

end GetRequest

/-- Apply an update expression to the row with a key. -/
structure UpdateRequest where
  table : String
  key : Item
  expression : Option String
  bindings : Bindings
deriving DecidableEq

namespace UpdateRequest

/-- The fields of the request. -/
def record : Record UpdateRequest :=
  Bindings.addTo <|
    (((Record.start UpdateRequest.mk).required "TableName" Decoder.text).required
      "Key" Item.ofJson).optional "UpdateExpression" Decoder.text

/-- The JSON of the request. -/
def toJson (request : UpdateRequest) : Json :=
  .record (member "TableName" (.string request.table) ++ member "Key" request.key.toJson ++
    member? "UpdateExpression" .string request.expression ++ request.bindings.members)

end UpdateRequest

/-- Delete the row with a key. -/
structure DeleteRequest where
  table : String
  key : Item
deriving DecidableEq

namespace DeleteRequest

/-- The fields of the request. -/
def record : Record DeleteRequest :=
  ((Record.start DeleteRequest.mk).required "TableName" Decoder.text).required
    "Key" Item.ofJson

/-- The JSON of the request. -/
def toJson (request : DeleteRequest) : Json :=
  .record (member "TableName" (.string request.table) ++ member "Key" request.key.toJson)

end DeleteRequest

/-- Read the rows of a table or view that satisfy a key condition. -/
structure ReadRequest where
  table : String
  view : Option String
  condition : Option String
  bindings : Bindings
  limit : Option Int32
deriving DecidableEq

namespace ReadRequest

/-- A limit is a signed 32-bit number. -/
def limitDecoder : Decoder Int32 := fun json =>
  (Decoder.wholeBetween (-2147483648) 2147483647 json).map Int32.ofInt

/-- The fields of the request. -/
def record : Record ReadRequest :=
  (Bindings.addTo <|
    (((Record.start ReadRequest.mk).required "TableName" Decoder.text).optional
      "IndexName" Decoder.text).optional "KeyConditionExpression" Decoder.text).optional
    "Limit" limitDecoder

/-- The JSON of the request. -/
def toJson (request : ReadRequest) : Json :=
  .record (member "TableName" (.string request.table) ++
    member? "IndexName" .string request.view ++
    member? "KeyConditionExpression" .string request.condition ++
    request.bindings.members ++ member? "Limit" (fun n => .ofInt n.toInt) request.limit)

end ReadRequest

/-- An item to insert. -/
structure PutEntry where
  item : Item
deriving DecidableEq

namespace PutEntry

/-- The fields of the entry. -/
def record : Record PutEntry :=
  (Record.start PutEntry.mk).required "Item" Item.ofJson

/-- The JSON of the entry. -/
def toJson (entry : PutEntry) : Json :=
  .record (member "Item" entry.item.toJson)

end PutEntry

/-- The key of a row to delete. -/
structure DeleteEntry where
  key : Item
deriving DecidableEq

namespace DeleteEntry

/-- The fields of the entry. -/
def record : Record DeleteEntry :=
  (Record.start DeleteEntry.mk).required "Key" Item.ofJson

/-- The JSON of the entry. -/
def toJson (entry : DeleteEntry) : Json :=
  .record (member "Key" entry.key.toJson)

end DeleteEntry

/-- An entry of a batch: an item to insert, the key of a row to delete, or both. -/
structure WriteEntry where
  put : Option PutEntry
  delete : Option DeleteEntry
deriving DecidableEq

namespace WriteEntry

/-- The fields of the entry. -/
def record : Record WriteEntry :=
  ((Record.start WriteEntry.mk).optional "PutRequest" PutEntry.record.decoder).optional
    "DeleteRequest" DeleteEntry.record.decoder

/-- The JSON of the entry. -/
def toJson (entry : WriteEntry) : Json :=
  .record (member? "PutRequest" PutEntry.toJson entry.put ++
    member? "DeleteRequest" DeleteEntry.toJson entry.delete)

end WriteEntry

/-- Write the entries of a batch, by table name. -/
structure BatchRequest where
  entries : NameMap (List WriteEntry)
deriving DecidableEq

namespace BatchRequest

/-- The fields of the batch. -/
def record : Record BatchRequest :=
  (Record.start BatchRequest.mk).required "RequestItems"
    (Decoder.members (Decoder.items WriteEntry.record.decoder))

/-- The JSON of the batch. -/
def toJson (request : BatchRequest) : Json :=
  .record (member "RequestItems" (ofMap (ofList WriteEntry.toJson) request.entries))

end BatchRequest

/-- Insert an item as part of a transaction. -/
structure PutAction where
  table : String
  item : Item
deriving DecidableEq

namespace PutAction

/-- The fields of the action. -/
def record : Record PutAction :=
  ((Record.start PutAction.mk).required "TableName" Decoder.text).required "Item" Item.ofJson

/-- The JSON of the action. -/
def toJson (action : PutAction) : Json :=
  .record (member "TableName" (.string action.table) ++ member "Item" action.item.toJson)

end PutAction

/-- Apply an update expression as part of a transaction. -/
structure UpdateAction where
  table : String
  key : Item
  expression : String
  bindings : Bindings
deriving DecidableEq

namespace UpdateAction

/-- The fields of the action. -/
def record : Record UpdateAction :=
  Bindings.addTo <|
    (((Record.start UpdateAction.mk).required "TableName" Decoder.text).required
      "Key" Item.ofJson).required "UpdateExpression" Decoder.text

/-- The JSON of the action. -/
def toJson (action : UpdateAction) : Json :=
  .record (member "TableName" (.string action.table) ++ member "Key" action.key.toJson ++
    member "UpdateExpression" (.string action.expression) ++ action.bindings.members)

end UpdateAction

/-- Check a condition as part of a transaction. -/
structure CheckAction where
  table : String
  key : Item
  condition : String
deriving DecidableEq

namespace CheckAction

/-- The fields of the action. -/
def record : Record CheckAction :=
  (((Record.start CheckAction.mk).required "TableName" Decoder.text).required
    "Key" Item.ofJson).required "ConditionExpression" Decoder.text

/-- The JSON of the action. -/
def toJson (action : CheckAction) : Json :=
  .record (member "TableName" (.string action.table) ++ member "Key" action.key.toJson ++
    member "ConditionExpression" (.string action.condition))

end CheckAction

/-- One action of a transaction.  Of several members the first one counts. -/
structure Action where
  put : Option PutAction
  delete : Option DeleteRequest
  update : Option UpdateAction
  check : Option CheckAction
deriving DecidableEq

namespace Action

/-- The fields of the action. -/
def record : Record Action :=
  ((((Record.start Action.mk).optional "Put" PutAction.record.decoder).optional
    "Delete" DeleteRequest.record.decoder).optional
    "Update" UpdateAction.record.decoder).optional
    "ConditionCheck" CheckAction.record.decoder

/-- The JSON of the action. -/
def toJson (action : Action) : Json :=
  .record (member? "Put" PutAction.toJson action.put ++
    member? "Delete" DeleteRequest.toJson action.delete ++
    member? "Update" UpdateAction.toJson action.update ++
    member? "ConditionCheck" CheckAction.toJson action.check)

end Action

/-- Take several actions, all or none of them. -/
structure TransactionRequest where
  actions : List Action
deriving DecidableEq

namespace TransactionRequest

/-- The fields of the transaction. -/
def record : Record TransactionRequest :=
  (Record.start TransactionRequest.mk).required "TransactItems"
    (Decoder.items Action.record.decoder)

/-- The JSON of the transaction. -/
def toJson (request : TransactionRequest) : Json :=
  .record (member "TransactItems" (ofList Action.toJson request.actions))

end TransactionRequest

end SingleTable
