import SingleTable.Codec.Sample
import SingleTable.Proofs.Codec.Stored
import SingleTable.Proofs.Expression.Application
import SingleTable.Proofs.Expression.Clauses
import SingleTable.Proofs.Expression.Pieces
import SingleTable.Proofs.Expression.Printed
import SingleTable.Proofs.Expression.PrintedUpdate
import SingleTable.Proofs.Outcome
import SingleTable.Proofs.Row.Key
import SingleTable.Proofs.Schema.Encode
import SingleTable.Proofs.Service.Assignments
import SingleTable.Proofs.Service.Saving
import SingleTable.Proofs.Service.Transaction
import SingleTable.Proofs.Table.History
import SingleTable.Proofs.Table.Keyed
import SingleTable.Proofs.Table.TextQuery
import SingleTable.Proofs.Table.Write
import SingleTable.Service.Operations
import SingleTable.Service.Upsert
import SingleTable.Table.Inspection
import SingleTable.Proofs.Codec.Tagged
import SingleTable.Proofs.Service.RecordKinds
import SingleTable.Proofs.Table.Effect
import SingleTable.Proofs.Table.ViewLookup
import SingleTable.Proofs.Number.DecimalText
import SingleTable.Proofs.Calendar.Civil
import SingleTable.Proofs.Calendar.ReadBack
import SingleTable.Proofs.Codec.Payload
import SingleTable.Proofs.Codec.RoundTrip
import SingleTable.Proofs.Table.Blank
import SingleTable.Proofs.Codec.FreeForm
import SingleTable.Proofs.Codec.Readable
import SingleTable.Proofs.Text.Base64
import SingleTable.Proofs.Json.Tokens
import SingleTable.Proofs.Json.ReadBack
import SingleTable.Proofs.Cell.Wire
import SingleTable.Proofs.Table.Locality
import SingleTable.Proofs.Table.WriteOnce
import SingleTable.Proofs.Row.Renaming
import SingleTable.Proofs.Table.Renaming
import SingleTable.Proofs.Expression.Faults
import SingleTable.Proofs.Table.Unresolved
import SingleTable.Proofs.Service.Batch
import SingleTable.Proofs.Table.SortlessKinds
import SingleTable.Proofs.Expression.UpdateReadBack
import SingleTable.Proofs.Expression.PrintedCondition
import SingleTable.Proofs.Expression.ConditionReadBack
import SingleTable.Proofs.Expression.KeywordPlaceholders
import SingleTable.Proofs.Expression.Attributes
import SingleTable.Proofs.Table.UpdateSuccess
import SingleTable.Proofs.Schema.RecordReadBack
import SingleTable.Proofs.Codec.Rewriting
import SingleTable.Proofs.Cell.Parts
import SingleTable.Proofs.Service.FilledCells
import SingleTable.Proofs.Codec.Inferred
import SingleTable.Proofs.Schema.Apart
import SingleTable.Proofs.Table.TimeQuery
import SingleTable.Proofs.Pattern.Search
import SingleTable.Proofs.Pattern.GlobMatch
import SingleTable.Proofs.Pattern.ClassText
import SingleTable.Proofs.Pattern.ClassSet
import SingleTable.Proofs.Pattern.GlobText
import SingleTable.Proofs.Pattern.GlobRead
import SingleTable.Proofs.Row.Find
import SingleTable.Proofs.Pattern.PlainGlob
import SingleTable.Proofs.Pattern.ClassGlob
import SingleTable.Proofs.Expression.ClausePlaces
import SingleTable.Proofs.Table.Paging
import SingleTable.Proofs.Table.KeyItems
import SingleTable.Proofs.Number.WholeRounding
import SingleTable.Proofs.Codec.IntegerText
import SingleTable.Proofs.Json.Order
import SingleTable.Proofs.Json.Whole
import SingleTable.Proofs.Json.Record
import SingleTable.Proofs.Cell.Reordered
import SingleTable.Proofs.Service.RequestReadBack
import SingleTable.Proofs.Service.MessageReadBack
