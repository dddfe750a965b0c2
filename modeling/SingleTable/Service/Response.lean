import SingleTable.Service.Request

/-!
# Responses

What the table answers, with the JSON form of each answer.  Nothing is metered, so
capacities and metrics stay unset; they are there because answers have them.
-/

namespace SingleTable

open Json

/-- The capacity that an operation used. -/
structure Capacity where
  table : Option String := none
  units : Option Double := none
deriving DecidableEq

namespace Capacity

instance : Inhabited Capacity := ⟨{}⟩

/-- The fields of the capacity. -/
def record : Record Capacity :=
  ((Record.start Capacity.mk).optional "TableName" Decoder.text).optional
    "CapacityUnits" Decoder.double

/-- The JSON of a double. -/
def doubleJson (x : Double) : Json :=
  if x.isFinite then .number x.text else .null

/-- The JSON of the capacity. -/
def toJson (capacity : Capacity) : Json :=
  .record (member? "TableName" .string capacity.table ++
    member? "CapacityUnits" doubleJson capacity.units)

end Capacity

/-- Measures of the rows that share a partition. -/
structure PartitionMetrics where
  key : Item := .empty
  sizes : List Double := []
deriving DecidableEq

namespace PartitionMetrics

instance : Inhabited PartitionMetrics := ⟨{}⟩

/-- The fields of the metrics. -/
def record : Record PartitionMetrics :=
  ((Record.start PartitionMetrics.mk).defaulted "ItemCollectionKey" .empty
    Item.ofJson).defaulted "SizeEstimateRangeGB" [] (Decoder.items Decoder.double)

/-- The JSON of the metrics. -/
def toJson (metrics : PartitionMetrics) : Json :=
  .record (mapMember? "ItemCollectionKey" Cell.toJson metrics.key ++
    listMember? "SizeEstimateRangeGB" Capacity.doubleJson metrics.sizes)

end PartitionMetrics

/-- The row that was asked for, if there is one. -/
structure GetResponse where
  item : Option Item
  capacity : Capacity := {}
deriving DecidableEq

namespace GetResponse

/-- The fields of the answer. -/
def record : Record GetResponse :=
  ((Record.start GetResponse.mk).optional "Item" Item.ofJson).defaulted
    "ConsumedCapacity" {} Capacity.record.decoder

/-- The JSON of the answer. -/
def toJson (response : GetResponse) : Json :=
  .record (member "Item" (orNull Item.toJson response.item) ++
    member "ConsumedCapacity" response.capacity.toJson)

end GetResponse

/-- The row after an update. -/
structure UpdateResponse where
  attributes : Item
  capacity : Capacity := {}
deriving DecidableEq

namespace UpdateResponse

/-- The fields of the answer. -/
def record : Record UpdateResponse :=
  ((Record.start UpdateResponse.mk).defaulted "Attributes" .empty Item.ofJson).defaulted
    "ConsumedCapacity" {} Capacity.record.decoder

/-- The JSON of the answer. -/
def toJson (response : UpdateResponse) : Json :=
  .record (member "Attributes" response.attributes.toJson ++
    member "ConsumedCapacity" response.capacity.toJson)

end UpdateResponse

/-- The row before its deletion, without attributes if there was none. -/
structure DeleteResponse where
  attributes : Item
  capacity : Capacity := {}
  metrics : PartitionMetrics := {}
deriving DecidableEq

namespace DeleteResponse

/-- The fields of the answer. -/
def record : Record DeleteResponse :=
  (((Record.start DeleteResponse.mk).defaulted "Attributes" .empty Item.ofJson).defaulted
    "ConsumedCapacity" {} Capacity.record.decoder).defaulted
    "ItemCollectionMetrics" {} PartitionMetrics.record.decoder

/-- The JSON of the answer. -/
def toJson (response : DeleteResponse) : Json :=
  .record (member "Attributes" response.attributes.toJson ++
    member "ConsumedCapacity" response.capacity.toJson ++
    member "ItemCollectionMetrics" response.metrics.toJson)

end DeleteResponse

/-- One page of the rows that were read. -/
structure Page where
  items : List Item
  count : UInt64
deriving DecidableEq

namespace Page

/-- The page of some rows. -/
def ofItems (items : List Item) : Page :=
  ⟨items, items.length.toUInt64⟩

/-- A count is an unsigned 64-bit number. -/
def countDecoder : Decoder UInt64 := fun json =>
  (Decoder.wholeBetween 0 18446744073709551615 json).map fun n => n.toNat.toUInt64

/-- The fields of the page. -/
def record : Record Page :=
  ((Record.start Page.mk).defaulted "Items" [] (Decoder.items Item.ofJson)).required
    "Count" countDecoder

/-- The JSON of the page. -/
def toJson (page : Page) : Json :=
  .record (member "Items" (ofList Item.toJson page.items) ++
    member "Count" (.ofInt page.count.toNat))

end Page

/-- The entries of a batch that were not written. -/
structure BatchResponse where
  unprocessed : NameMap (List WriteEntry) := .empty
deriving DecidableEq

namespace BatchResponse

/-- The fields of the answer. -/
def record : Record BatchResponse :=
  (Record.start BatchResponse.mk).defaulted "UnprocessedItems" .empty
    (Decoder.members (Decoder.items WriteEntry.record.decoder))

/-- The JSON of the answer. -/
def toJson (response : BatchResponse) : Json :=
  .record (member "UnprocessedItems" (ofMap (ofList WriteEntry.toJson) response.unprocessed))

end BatchResponse

/-- The capacities and metrics of a transaction. -/
structure TransactionResponse where
  capacities : List Capacity := []
  metrics : NameMap (List PartitionMetrics) := .empty
deriving DecidableEq

namespace TransactionResponse

/-- The fields of the answer. -/
def record : Record TransactionResponse :=
  ((Record.start TransactionResponse.mk).defaulted "ConsumedCapacity" []
    (Decoder.items Capacity.record.decoder)).defaulted "ItemCollectionMetrics" .empty
    (Decoder.members (Decoder.items PartitionMetrics.record.decoder))

/-- The JSON of the answer. -/
def toJson (response : TransactionResponse) : Json :=
  .record (member "ConsumedCapacity" (ofList Capacity.toJson response.capacities) ++
    member "ItemCollectionMetrics"
      (ofMap (ofList PartitionMetrics.toJson) response.metrics))

end TransactionResponse

end SingleTable
