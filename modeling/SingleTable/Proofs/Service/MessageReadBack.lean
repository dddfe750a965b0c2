import SingleTable.Proofs.Service.RequestReadBack
import SingleTable.Service.Response

/-!
# Messages read back

Every response that carries no measured number is read from its JSON, as every request is.  Main
statement: all messages and their parts are read from the JSON that they are written as, and
from its text, in whatever order this lists the members of objects.
-/

namespace SingleTable

open Json

namespace Capacity

/-- No capacity was measured. -/
def Unmetered (capacity : Capacity) : Prop :=
  capacity.units = none

theorem reads_toJson {capacity : Capacity} (hUnmetered : capacity.Unmetered) :
    record.decoder.Reads capacity.toJson capacity := by
  have hNone : ∀ units, units ∉ capacity.units := by
    rw [hUnmetered]
    exact fun _ => Option.not_mem_none _
  have hTable := (Record.builds_start Capacity.mk).optional "TableName" (by decide)
    (fun text (_ : text ∈ capacity.table) => Decoder.reads_text text)
    fun text _ => string_ne_null text
  exact (hTable.optional "CapacityUnits" (by decide)
    (fun units hMem => absurd hMem (hNone units))
    fun units hMem => absurd hMem (hNone units)).reads

end Capacity

namespace PartitionMetrics

/-- Names are ascending inside the key. -/
def Ordered (metrics : PartitionMetrics) : Prop :=
  metrics.key.Ordered

/-- No sizes were estimated. -/
def Unmetered (metrics : PartitionMetrics) : Prop :=
  metrics.sizes = []

theorem reads_toJson {metrics : PartitionMetrics} (hOrdered : metrics.Ordered)
    (hUnmetered : metrics.Unmetered) : record.decoder.Reads metrics.toJson metrics := by
  have hNone : ∀ size, size ∉ metrics.sizes := by
    rw [hUnmetered]
    exact fun _ => List.not_mem_nil
  have hKey := (Record.builds_start PartitionMetrics.mk).defaulted_map "ItemCollectionKey"
    (by decide) fun entry hMem => Cell.reads_toJson (hOrdered entry hMem)
  exact (hKey.defaulted_list "SizeEstimateRangeGB" (by decide)
    fun size hMem => absurd hMem (hNone size)).reads

end PartitionMetrics

namespace GetResponse

/-- Names are ascending inside the item. -/
def Ordered (response : GetResponse) : Prop :=
  ∀ item ∈ response.item, item.Ordered

/-- No capacity was measured. -/
def Unmetered (response : GetResponse) : Prop :=
  response.capacity.Unmetered

theorem reads_toJson {response : GetResponse} (hOrdered : response.Ordered)
    (hUnmetered : response.Unmetered) : record.decoder.Reads response.toJson response := by
  have hItem := (Record.builds_start GetResponse.mk).orNull "Item" (by decide)
    (fun item hMem => Item.reads_toJson (hOrdered item hMem)) fun item _ => record_ne_null _
  exact (hItem.defaulted "ConsumedCapacity" (by decide) (Capacity.reads_toJson hUnmetered) {}).reads

end GetResponse

namespace UpdateResponse

/-- Names are ascending inside the item. -/
def Ordered (response : UpdateResponse) : Prop :=
  response.attributes.Ordered

/-- No capacity was measured. -/
def Unmetered (response : UpdateResponse) : Prop :=
  response.capacity.Unmetered

theorem reads_toJson {response : UpdateResponse} (hOrdered : response.Ordered)
    (hUnmetered : response.Unmetered) : record.decoder.Reads response.toJson response := by
  have hAttributes := (Record.builds_start UpdateResponse.mk).defaulted "Attributes" (by decide)
    (Item.reads_toJson hOrdered) .empty
  exact (hAttributes.defaulted "ConsumedCapacity" (by decide)
    (Capacity.reads_toJson hUnmetered) {}).reads

end UpdateResponse

namespace DeleteResponse

/-- Names are ascending inside the item and the key of the metrics. -/
def Ordered (response : DeleteResponse) : Prop :=
  response.attributes.Ordered ∧ response.metrics.Ordered

/-- Nothing was measured. -/
def Unmetered (response : DeleteResponse) : Prop :=
  response.capacity.Unmetered ∧ response.metrics.Unmetered

theorem reads_toJson {response : DeleteResponse} (hOrdered : response.Ordered)
    (hUnmetered : response.Unmetered) : record.decoder.Reads response.toJson response := by
  have hAttributes := (Record.builds_start DeleteResponse.mk).defaulted "Attributes" (by decide)
    (Item.reads_toJson hOrdered.1) .empty
  have hCapacity := hAttributes.defaulted "ConsumedCapacity" (by decide)
    (Capacity.reads_toJson hUnmetered.1) {}
  exact (hCapacity.defaulted "ItemCollectionMetrics" (by decide)
    (PartitionMetrics.reads_toJson hOrdered.2 hUnmetered.2) {}).reads

end DeleteResponse

namespace Page

/-- Names are ascending inside the items. -/
def Ordered (page : Page) : Prop :=
  ∀ item ∈ page.items, item.Ordered

theorem reads_count (count : UInt64) : countDecoder.Reads (.ofInt count.toNat) count := by
  have hHigh := count.toNat_lt
  have hWhole : (Decoder.wholeBetween 0 18446744073709551615).Reads (.ofInt count.toNat)
      count.toNat := Decoder.reads_whole (by omega) (by omega) (by omega) (by omega)
  have hCount := hWhole.map fun n => n.toNat.toUInt64
  have hSame : count.toNat.toUInt64 = count := UInt64.ofNat_toNat
  rwa [Int.toNat_natCast, hSame] at hCount

theorem reads_toJson {page : Page} (hOrdered : page.Ordered) :
    record.decoder.Reads page.toJson page := by
  have hItems := (Record.builds_start Page.mk).defaulted "Items" (by decide)
    (Decoder.reads_items fun item hMem => Item.reads_toJson (hOrdered item hMem)) []
  exact (hItems.required "Count" (by decide) (reads_count page.count)).reads

end Page

namespace BatchResponse

/-- Names are ascending inside the entries of every table. -/
def Ordered (response : BatchResponse) : Prop :=
  ∀ table ∈ response.unprocessed.entries, ∀ entry ∈ table.2, entry.Ordered

theorem reads_toJson {response : BatchResponse} (hOrdered : response.Ordered) :
    record.decoder.Reads response.toJson response := by
  have hEntries := Decoder.reads_members fun table hTable => Decoder.reads_items fun entry hMem =>
    WriteEntry.reads_toJson (hOrdered table hTable entry hMem)
  exact ((Record.builds_start BatchResponse.mk).defaulted "UnprocessedItems" (by decide)
    hEntries .empty).reads

end BatchResponse

namespace TransactionResponse

/-- Names are ascending inside the keys of all metrics. -/
def Ordered (response : TransactionResponse) : Prop :=
  ∀ table ∈ response.metrics.entries, ∀ metrics ∈ table.2, metrics.Ordered

/-- Nothing was measured. -/
def Unmetered (response : TransactionResponse) : Prop :=
  (∀ capacity ∈ response.capacities, capacity.Unmetered) ∧
    ∀ table ∈ response.metrics.entries, ∀ metrics ∈ table.2, metrics.Unmetered

theorem reads_toJson {response : TransactionResponse} (hOrdered : response.Ordered)
    (hUnmetered : response.Unmetered) : record.decoder.Reads response.toJson response := by
  obtain ⟨hCapacities, hMetrics⟩ := hUnmetered
  have hFirst := (Record.builds_start TransactionResponse.mk).defaulted "ConsumedCapacity"
    (by decide)
    (Decoder.reads_items fun capacity hMem => Capacity.reads_toJson (hCapacities capacity hMem)) []
  have hTables := Decoder.reads_members fun table hTable =>
    Decoder.reads_items fun metrics hMem =>
      PartitionMetrics.reads_toJson (hOrdered table hTable metrics hMem)
        (hMetrics table hTable metrics hMem)
  exact (hFirst.defaulted "ItemCollectionMetrics" (by decide) hTables .empty).reads

end TransactionResponse

/-- Every message that carries no measured number is read back from the JSON that it is written
as: items, the requests, the responses, and the parts of which they are made.  What is left out
when it is written, such as empty maps and options that are not set, is read as missing, and a
row that is not there is read from null.  The JSON may list the members of its objects in
whatever order, and the same holds of the text of every such JSON that does not nest more than
127 containers. -/
theorem messages_read_back :
    (∀ item : Item, item.Ordered → Decoder.ReadsBack Item.ofJson item.toJson item) ∧
    -- requests
    (∀ request : GetRequest, request.Ordered →
      GetRequest.record.decoder.ReadsBack request.toJson request) ∧
    (∀ request : UpdateRequest, request.Ordered →
      UpdateRequest.record.decoder.ReadsBack request.toJson request) ∧
    (∀ request : DeleteRequest, request.Ordered →
      DeleteRequest.record.decoder.ReadsBack request.toJson request) ∧
    (∀ request : ReadRequest, request.Ordered →
      ReadRequest.record.decoder.ReadsBack request.toJson request) ∧
    (∀ request : BatchRequest, request.Ordered →
      BatchRequest.record.decoder.ReadsBack request.toJson request) ∧
    (∀ request : TransactionRequest, request.Ordered →
      TransactionRequest.record.decoder.ReadsBack request.toJson request) ∧
    -- parts of batches and transactions
    (∀ entry : WriteEntry, entry.Ordered →
      WriteEntry.record.decoder.ReadsBack entry.toJson entry) ∧
    (∀ entry : PutEntry, entry.Ordered → PutEntry.record.decoder.ReadsBack entry.toJson entry) ∧
    (∀ entry : DeleteEntry, entry.Ordered →
      DeleteEntry.record.decoder.ReadsBack entry.toJson entry) ∧
    (∀ action : Action, action.Ordered →
      Action.record.decoder.ReadsBack action.toJson action) ∧
    (∀ action : PutAction, action.Ordered →
      PutAction.record.decoder.ReadsBack action.toJson action) ∧
    (∀ action : UpdateAction, action.Ordered →
      UpdateAction.record.decoder.ReadsBack action.toJson action) ∧
    (∀ action : CheckAction, action.Ordered →
      CheckAction.record.decoder.ReadsBack action.toJson action) ∧
    -- responses
    (∀ response : GetResponse, response.Ordered → response.Unmetered →
      GetResponse.record.decoder.ReadsBack response.toJson response) ∧
    (∀ response : UpdateResponse, response.Ordered → response.Unmetered →
      UpdateResponse.record.decoder.ReadsBack response.toJson response) ∧
    (∀ response : DeleteResponse, response.Ordered → response.Unmetered →
      DeleteResponse.record.decoder.ReadsBack response.toJson response) ∧
    (∀ page : Page, page.Ordered → Page.record.decoder.ReadsBack page.toJson page) ∧
    (∀ response : BatchResponse, response.Ordered →
      BatchResponse.record.decoder.ReadsBack response.toJson response) ∧
    (∀ response : TransactionResponse, response.Ordered → response.Unmetered →
      TransactionResponse.record.decoder.ReadsBack response.toJson response) ∧
    (∀ capacity : Capacity, capacity.Unmetered →
      Capacity.record.decoder.ReadsBack capacity.toJson capacity) ∧
    (∀ metrics : PartitionMetrics, metrics.Ordered → metrics.Unmetered →
      PartitionMetrics.record.decoder.ReadsBack metrics.toJson metrics) := by
  refine ⟨?_, ?_, ?_, ?_, ?_, ?_, ?_, ?_, ?_, ?_, ?_, ?_, ?_, ?_, ?_, ?_, ?_, ?_, ?_, ?_, ?_, ?_⟩
  · exact fun item hOrdered => (Item.reads_toJson hOrdered).readsBack
  · exact fun request hOrdered => (GetRequest.reads_toJson hOrdered).readsBack
  · exact fun request hOrdered => (UpdateRequest.reads_toJson hOrdered).readsBack
  · exact fun request hOrdered => (DeleteRequest.reads_toJson hOrdered).readsBack
  · exact fun request hOrdered => (ReadRequest.reads_toJson hOrdered).readsBack
  · exact fun request hOrdered => (BatchRequest.reads_toJson hOrdered).readsBack
  · exact fun request hOrdered => (TransactionRequest.reads_toJson hOrdered).readsBack
  · exact fun entry hOrdered => (WriteEntry.reads_toJson hOrdered).readsBack
  · exact fun entry hOrdered => (PutEntry.reads_toJson hOrdered).readsBack
  · exact fun entry hOrdered => (DeleteEntry.reads_toJson hOrdered).readsBack
  · exact fun action hOrdered => (Action.reads_toJson hOrdered).readsBack
  · exact fun action hOrdered => (PutAction.reads_toJson hOrdered).readsBack
  · exact fun action hOrdered => (UpdateAction.reads_toJson hOrdered).readsBack
  · exact fun action hOrdered => (CheckAction.reads_toJson hOrdered).readsBack
  · exact fun response hOrdered hUnmetered =>
      (GetResponse.reads_toJson hOrdered hUnmetered).readsBack
  · exact fun response hOrdered hUnmetered =>
      (UpdateResponse.reads_toJson hOrdered hUnmetered).readsBack
  · exact fun response hOrdered hUnmetered =>
      (DeleteResponse.reads_toJson hOrdered hUnmetered).readsBack
  · exact fun page hOrdered => (Page.reads_toJson hOrdered).readsBack
  · exact fun response hOrdered => (BatchResponse.reads_toJson hOrdered).readsBack
  · exact fun response hOrdered hUnmetered =>
      (TransactionResponse.reads_toJson hOrdered hUnmetered).readsBack
  · exact fun capacity hUnmetered => (Capacity.reads_toJson hUnmetered).readsBack
  · exact fun metrics hOrdered hUnmetered =>
      (PartitionMetrics.reads_toJson hOrdered hUnmetered).readsBack

/-- An update that is still without an expression, with a value that holds a map. -/
def seating : UpdateRequest where
  table := "hall"
  key := .ofList [("pk", .string "row"), ("sk", .number "7")]
  expression := none
  bindings := ⟨.empty, .ofList [(":s", .map [("left", .bool true), ("right", .list [])])]⟩

/-- The JSON of that update with the members of all objects in reverse order. -/
def seatingJson : Json :=
  .record [
    ("ExpressionAttributeValues", .record [(":s", .record [("M", .record
      [("right", .record [("L", .array [])]), ("left", .record [("BOOL", .bool true)])])])]),
    ("Key", .record [("sk", .record [("N", .string "7")]), ("pk", .record [("S", .string "row")])]),
    ("TableName", .string "hall")]

theorem sameUpToOrder_seatingJson : seatingJson.SameUpToOrder seating.toJson := by
  have hKey : (Json.record [("sk", .record [("N", .string "7")]),
      ("pk", .record [("S", .string "row")])]).SameUpToOrder seating.key.toJson :=
    .of_perm (.swap _ _ _)
  have hMap : (Json.record [("right", .record [("L", .array [])]),
      ("left", .record [("BOOL", .bool true)])]).SameUpToOrder
      (.record [("left", .record [("BOOL", .bool true)]),
        ("right", .record [("L", .array [])])]) :=
    .of_perm (.swap _ _ _)
  have hValues := @Cell.sameUpToOrder_record ":s" _ _ (@Cell.sameUpToOrder_record "M" _ _ hMap)
  refine .object (List.reverse_perm _).symm ?_
  exact .cons (.named _ (.refl _)) (.cons (.named _ hKey) (.cons (.named _ hValues) .nil))

theorem ordered_seating : seating.Ordered := by
  refine ⟨?_, ?_⟩
  · intro entry hMem
    have hEntry := Entries.mem_ofList hMem
    simp only [List.mem_cons, List.not_mem_nil, or_false] at hEntry
    rcases hEntry with rfl | rfl <;> trivial
  · intro entry hMem
    rw [List.mem_singleton.mp (Entries.mem_ofList hMem)]
    exact ⟨List.pairwise_pair.mpr (by decide), trivial, trivial, trivial⟩

/-- The update is read from its JSON in reverse order, and from the text of that. -/
theorem messages_read_back_of_seating :
    (seating.Ordered ∧ seatingJson.SameUpToOrder seating.toJson) ∧
      UpdateRequest.record.decoder seatingJson = .ok seating ∧
      UpdateRequest.record.decoder.ofText seatingJson.render = .ok seating := by
  obtain ⟨-, -, hUpdate, -⟩ := messages_read_back
  obtain ⟨hRead, hText⟩ := hUpdate seating ordered_seating seatingJson sameUpToOrder_seatingJson
  exact ⟨⟨ordered_seating, sameUpToOrder_seatingJson⟩, hRead, hText (by decide)⟩

end SingleTable
