import SingleTable.Proofs.Cell.Reordered
import SingleTable.Service.Request

/-!
# Requests read back

Every request is read from its JSON, with the parts of batches and transactions.  `Ordered`
says of each of them that the names inside its cells are ascending, so that equal contents are
equal cells.
-/

namespace SingleTable

open Json

namespace Bindings

/-- Names are ascending inside the values. -/
def Ordered (bindings : Bindings) : Prop :=
  Item.Ordered bindings.values

/-- Placeholder maps are read from the members behind those of the other fields. -/
theorem builds_addTo {β : Type} {record : Record (Bindings → β)} {make : Bindings → β}
    {members : List (String × Json)} (hBuilds : record.Builds members make)
    (hNames : "ExpressionAttributeNames" ∉ record.fields.map Field.name)
    (hValues : "ExpressionAttributeValues" ∉
      record.fields.map Field.name ++ ["ExpressionAttributeNames"])
    {bindings : Bindings} (hOrdered : bindings.Ordered) :
    (addTo record).Builds (members ++ bindings.members) (make bindings) := by
  have hCurried := hBuilds.change fun make names values => make ⟨names, values⟩
  rw [Bindings.members, ← List.append_assoc]
  refine Record.Builds.defaulted_map _ (Record.Builds.defaulted_map _ hCurried hNames ?_) ?_ ?_
  · exact fun entry _ => Decoder.reads_text entry.2
  · show _ ∉ (record.fields ++ [_]).map Field.name
    rwa [List.map_append]
  · exact fun entry hMem => Cell.reads_toJson (hOrdered entry hMem)

end Bindings

namespace GetRequest

/-- Names are ascending inside the key. -/
def Ordered (request : GetRequest) : Prop :=
  request.key.Ordered

theorem reads_toJson {request : GetRequest} (hOrdered : request.Ordered) :
    record.decoder.Reads request.toJson request :=
  (((Record.builds_start GetRequest.mk).required "TableName" (by decide)
    (Decoder.reads_text request.table)).required "Key" (by decide)
    (Item.reads_toJson hOrdered)).reads

end GetRequest

namespace UpdateRequest

/-- Names are ascending inside the key and the values of placeholders. -/
def Ordered (request : UpdateRequest) : Prop :=
  request.key.Ordered ∧ request.bindings.Ordered

theorem reads_toJson {request : UpdateRequest} (hOrdered : request.Ordered) :
    record.decoder.Reads request.toJson request := by
  obtain ⟨hKey, hBindings⟩ := hOrdered
  have hTable := (Record.builds_start UpdateRequest.mk).required "TableName" (by decide)
    (Decoder.reads_text request.table)
  have hRow := hTable.required "Key" (by decide) (Item.reads_toJson hKey)
  have hExpression := hRow.optional "UpdateExpression" (by decide)
    (fun text (_ : text ∈ request.expression) => Decoder.reads_text text)
    fun text _ => string_ne_null text
  exact (Bindings.builds_addTo hExpression (by decide) (by decide) hBindings).reads

end UpdateRequest

namespace DeleteRequest

/-- Names are ascending inside the key. -/
def Ordered (request : DeleteRequest) : Prop :=
  request.key.Ordered

theorem reads_toJson {request : DeleteRequest} (hOrdered : request.Ordered) :
    record.decoder.Reads request.toJson request := by
  have hTable := (Record.builds_start DeleteRequest.mk).required "TableName" (by decide)
    (Decoder.reads_text request.table)
  exact (hTable.required "Key" (by decide) (Item.reads_toJson hOrdered)).reads

end DeleteRequest

namespace ReadRequest

/-- Names are ascending inside the values of placeholders. -/
def Ordered (request : ReadRequest) : Prop :=
  request.bindings.Ordered

theorem reads_limit (limit : Int32) : limitDecoder.Reads (.ofInt limit.toInt) limit := by
  have hLow := limit.le_toInt
  have hHigh := limit.toInt_lt
  have hWhole : (Decoder.wholeBetween (-2147483648) 2147483647).Reads (.ofInt limit.toInt)
      limit.toInt := Decoder.reads_whole (by omega) (by omega) (by omega) (by omega)
  have hLimit := hWhole.map Int32.ofInt
  rwa [Int32.ofInt_toInt] at hLimit

theorem reads_toJson {request : ReadRequest} (hOrdered : request.Ordered) :
    record.decoder.Reads request.toJson request := by
  have hTable := (Record.builds_start ReadRequest.mk).required "TableName" (by decide)
    (Decoder.reads_text request.table)
  have hView := hTable.optional "IndexName" (by decide)
    (fun text (_ : text ∈ request.view) => Decoder.reads_text text)
    fun text _ => string_ne_null text
  have hCondition := hView.optional "KeyConditionExpression" (by decide)
    (fun text (_ : text ∈ request.condition) => Decoder.reads_text text)
    fun text _ => string_ne_null text
  have hBindings := Bindings.builds_addTo hCondition (by decide) (by decide) hOrdered
  exact (hBindings.optional "Limit" (by decide)
    (fun limit (_ : limit ∈ request.limit) => reads_limit limit)
    fun limit _ => number_ne_null _).reads

end ReadRequest

namespace PutEntry

/-- Names are ascending inside the item. -/
def Ordered (entry : PutEntry) : Prop :=
  entry.item.Ordered

theorem reads_toJson {entry : PutEntry} (hOrdered : entry.Ordered) :
    record.decoder.Reads entry.toJson entry :=
  ((Record.builds_start PutEntry.mk).required "Item" (by decide) (Item.reads_toJson hOrdered)).reads

end PutEntry

namespace DeleteEntry

/-- Names are ascending inside the key. -/
def Ordered (entry : DeleteEntry) : Prop :=
  entry.key.Ordered

theorem reads_toJson {entry : DeleteEntry} (hOrdered : entry.Ordered) :
    record.decoder.Reads entry.toJson entry :=
  ((Record.builds_start DeleteEntry.mk).required "Key" (by decide)
    (Item.reads_toJson hOrdered)).reads

end DeleteEntry

namespace WriteEntry

/-- Names are ascending inside the members. -/
def Ordered (entry : WriteEntry) : Prop :=
  (∀ put ∈ entry.put, put.Ordered) ∧ ∀ delete ∈ entry.delete, delete.Ordered

theorem reads_toJson {entry : WriteEntry} (hOrdered : entry.Ordered) :
    record.decoder.Reads entry.toJson entry := by
  obtain ⟨hPut, hDelete⟩ := hOrdered
  have hFirst := (Record.builds_start WriteEntry.mk).optional "PutRequest" (by decide)
    (fun put hMem => PutEntry.reads_toJson (hPut put hMem)) fun put _ => record_ne_null _
  exact (hFirst.optional "DeleteRequest" (by decide)
    (fun delete hMem => DeleteEntry.reads_toJson (hDelete delete hMem))
    fun delete _ => record_ne_null _).reads

end WriteEntry

namespace BatchRequest

/-- Names are ascending inside the entries of every table. -/
def Ordered (request : BatchRequest) : Prop :=
  ∀ table ∈ request.entries.entries, ∀ entry ∈ table.2, entry.Ordered

theorem reads_toJson {request : BatchRequest} (hOrdered : request.Ordered) :
    record.decoder.Reads request.toJson request := by
  have hEntries := Decoder.reads_members fun table hTable => Decoder.reads_items fun entry hMem =>
    WriteEntry.reads_toJson (hOrdered table hTable entry hMem)
  exact ((Record.builds_start BatchRequest.mk).required "RequestItems" (by decide) hEntries).reads

end BatchRequest

namespace PutAction

/-- Names are ascending inside the item. -/
def Ordered (action : PutAction) : Prop :=
  action.item.Ordered

theorem reads_toJson {action : PutAction} (hOrdered : action.Ordered) :
    record.decoder.Reads action.toJson action := by
  have hTable := (Record.builds_start PutAction.mk).required "TableName" (by decide)
    (Decoder.reads_text action.table)
  exact (hTable.required "Item" (by decide) (Item.reads_toJson hOrdered)).reads

end PutAction

namespace UpdateAction

/-- Names are ascending inside the key and the values of placeholders. -/
def Ordered (action : UpdateAction) : Prop :=
  action.key.Ordered ∧ action.bindings.Ordered

theorem reads_toJson {action : UpdateAction} (hOrdered : action.Ordered) :
    record.decoder.Reads action.toJson action := by
  obtain ⟨hKey, hBindings⟩ := hOrdered
  have hTable := (Record.builds_start UpdateAction.mk).required "TableName" (by decide)
    (Decoder.reads_text action.table)
  have hRow := hTable.required "Key" (by decide) (Item.reads_toJson hKey)
  have hExpression := hRow.required "UpdateExpression" (by decide)
    (Decoder.reads_text action.expression)
  exact (Bindings.builds_addTo hExpression (by decide) (by decide) hBindings).reads

end UpdateAction

namespace CheckAction

/-- Names are ascending inside the key. -/
def Ordered (action : CheckAction) : Prop :=
  action.key.Ordered

theorem reads_toJson {action : CheckAction} (hOrdered : action.Ordered) :
    record.decoder.Reads action.toJson action := by
  have hTable := (Record.builds_start CheckAction.mk).required "TableName" (by decide)
    (Decoder.reads_text action.table)
  have hKey := hTable.required "Key" (by decide) (Item.reads_toJson hOrdered)
  exact (hKey.required "ConditionExpression" (by decide)
    (Decoder.reads_text action.condition)).reads

end CheckAction

namespace Action

/-- Names are ascending inside the members. -/
structure Ordered (action : Action) : Prop where
  put : ∀ put ∈ action.put, put.Ordered
  delete : ∀ delete ∈ action.delete, delete.Ordered
  update : ∀ update ∈ action.update, update.Ordered
  check : ∀ check ∈ action.check, check.Ordered

theorem reads_toJson {action : Action} (hOrdered : action.Ordered) :
    record.decoder.Reads action.toJson action := by
  have hPut := (Record.builds_start Action.mk).optional "Put" (by decide)
    (fun put hMem => PutAction.reads_toJson (hOrdered.put put hMem))
    fun put _ => record_ne_null _
  have hDelete := hPut.optional "Delete" (by decide)
    (fun delete hMem => DeleteRequest.reads_toJson (hOrdered.delete delete hMem))
    fun delete _ => record_ne_null _
  have hUpdate := hDelete.optional "Update" (by decide)
    (fun update hMem => UpdateAction.reads_toJson (hOrdered.update update hMem))
    fun update _ => record_ne_null _
  exact (hUpdate.optional "ConditionCheck" (by decide)
    (fun check hMem => CheckAction.reads_toJson (hOrdered.check check hMem))
    fun check _ => record_ne_null _).reads

end Action

namespace TransactionRequest

/-- Names are ascending inside every action. -/
def Ordered (request : TransactionRequest) : Prop :=
  ∀ action ∈ request.actions, action.Ordered

theorem reads_toJson {request : TransactionRequest} (hOrdered : request.Ordered) :
    record.decoder.Reads request.toJson request := by
  have hActions := Decoder.reads_items fun action hMem =>
    Action.reads_toJson (hOrdered action hMem)
  exact ((Record.builds_start TransactionRequest.mk).required "TransactItems" (by decide)
    hActions).reads

end TransactionRequest

end SingleTable
