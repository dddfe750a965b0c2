import SingleTable.Proofs.Cell.Parts
import SingleTable.Proofs.Codec.Children
import SingleTable.Proofs.Codec.Tagged
import SingleTable.Proofs.Schema.Encode
import SingleTable.Proofs.Service.Assignments

/-!
# No empty strings in what is written

Whatever value a column stores, no part of the cell is the empty string, at any depth.  The
empty string is left out where it stands on its own, as an item of a list and as an entry
of a map, and no other value has an empty text.  So neither the row of a record nor the
request that saves it holds an empty string.
-/

namespace SingleTable

open Outcome

namespace Codec

variable {type : ColumnType} {value : Value} {cell : Cell}

theorem filled_of_encodeFlat (hCell : encodeFlat value type = .ok cell)
    (hFilled : value.isNull = false) : cell.Filled := by
  obtain ⟨hList, hMap⟩ := flat_of_encodeFlat hCell
  unfold Cell.Filled
  rw [Cell.parts_of_flat hList hMap, List.mem_singleton]
  rintro rfl
  exact absurd (isBlank_of_encodeFlat hCell hFilled) (by decide)

mutual

/-- Without regard to declared children, no part of what is stored is the empty string. -/
theorem filled_of_encodeAs : (value : Value) → {type : ColumnType} → {cell : Cell} →
    encodeAs value type = .ok (some cell) → cell.Filled
  | .list items, _, _, hCell => by
    cases storedAs_of_encodeAs hCell with
    | list _ hCells => exact Cell.filled_list_iff.mpr (filled_of_encodeItems items hCells)
    | flat hFilled hFlat => exact filled_of_encodeFlat hFlat hFilled
  | .map entries, _, _, hCell => by
    cases storedAs_of_encodeAs hCell with
    | map _ hCells => exact Cell.filled_map_iff.mpr (filled_of_encodeEntries entries hCells)
    | flat hFilled hFlat => exact filled_of_encodeFlat hFlat hFilled
  | .null, _, _, hCell | .bool _, _, _, hCell | .string _, _, _, hCell
  | .integer _, _, _, hCell | .float _, _, _, hCell | .bytes _, _, _, hCell
  | .date _, _, _, hCell | .instant _, _, _, hCell | .stringSet _, _, _, hCell
  | .integerSet _, _, _, hCell | .floatSet _, _, _, hCell | .binarySet _, _, _, hCell => by
    cases storedAs_of_encodeAs hCell with
    | flat hFilled hFlat => exact filled_of_encodeFlat hFlat hFilled

theorem filled_of_encodeItems : (items : List Value) → {cells : List Cell} →
    encodeItems items = .ok cells → ∀ cell ∈ cells, cell.Filled
  | [], _, hCells => by
    cases hCells
    exact nofun
  | item :: rest, _, hCells => by
    simp only [encodeItems_cons, bind_eq_ok_iff, pure_eq_ok_iff] at hCells
    obtain ⟨stored, hStored, cells, hCells, rfl⟩ := hCells
    intro cell hMem
    rcases List.mem_append.mp hMem with hHere | hLater
    · cases Option.mem_toList.mp hHere
      exact filled_of_encodeAs item hStored
    · exact filled_of_encodeItems rest hCells cell hLater

theorem filled_of_encodeEntries : (entries : List (String × Value)) →
    {cells : List (String × Cell)} → encodeEntries entries = .ok cells →
    ∀ entry ∈ cells, entry.2.Filled
  | [], _, hCells => by
    cases hCells
    exact nofun
  | (name, value) :: rest, _, hCells => by
    simp only [encodeEntries_cons, bind_eq_ok_iff, pure_eq_ok_iff] at hCells
    obtain ⟨stored, hStored, cells, hCells, rfl⟩ := hCells
    intro entry hMem
    rcases List.mem_append.mp hMem with hHere | hLater
    · obtain ⟨cell, rfl, rfl⟩ := Option.map_eq_some_iff.mp (Option.mem_toList.mp hHere)
      exact filled_of_encodeAs value hStored
    · exact filled_of_encodeEntries rest hCells entry hLater

end

/-- No part of what a column stores is the empty string. -/
theorem filled_of_encode {column : Column} (hCell : column.encode value = .ok (some cell)) :
    cell.Filled := by
  induction column using Column.children_induction generalizing value cell with
  | hStep column ih =>
    by_cases hChildren : column.children = []
    · rw [encode_of_no_children hChildren] at hCell
      exact filled_of_encodeAs value hCell
    · obtain ⟨entries, cells, rfl, hCells, rfl⟩ := exists_encodeChildren hChildren hCell
      refine Cell.filled_map_iff.mpr fun entry hMem => ?_
      obtain ⟨child, hChild, hPuts⟩ :=
        (encodeChildren_eq_ok_iff.mp hCells).exists_puts entry (Entries.mem_ofList hMem)
      unfold StoresFor at hPuts
      split at hPuts
      · cases hPuts
      · exact ih child hChild hPuts

end Codec

/-- No cell of the item has the empty string as a part. -/
def Item.FilledInside (item : Item) : Prop :=
  ∀ name cell, item.find? name = some cell → cell.Filled

namespace Schema

variable {schema : Schema} {values : Values} {columns : List Column}
  {assignments : List Assignment} {row : Item}

/-- The row that columns put together has cells that the columns store. -/
theorem filledInside_of_foldlM_encodeColumn
    (hRow : columns.foldlM (encodeColumn values) .empty = .ok row) : row.FilledInside := by
  intro name cell hCell
  rw [find?_of_foldlM_encodeColumn hRow, NameMap.find?_empty, Option.or_none] at hCell
  obtain ⟨column, _, hStored⟩ := List.exists_of_findSome?_eq_some hCell
  obtain ⟨value, _, hEncode⟩ := exists_encode_of_stored? hStored
  exact Codec.filled_of_encode hEncode

/-- The cells for the placeholders are those of assignments. -/
theorem exists_assignment_of_find?_bindingsOf {name : String} {cell : Cell}
    (hCell : (bindingsOf assignments).values.find? name = some cell) :
    ∃ assignment ∈ assignments, assignment.cell = some cell := by
  have hMem := Entries.mem_ofList (Entries.mem_of_find?_eq_some hCell)
  obtain ⟨assignment, hAssignment, hEntry⟩ := List.mem_filterMap.mp hMem
  obtain ⟨found, hFound, hSame⟩ := Option.map_eq_some_iff.mp hEntry
  cases hSame
  exact ⟨assignment, hAssignment, hFound⟩

theorem filledInside_bindingsOf {position : Nat}
    (hAssigns : Assigns values position columns assignments) :
    Item.FilledInside (bindingsOf assignments).values := by
  intro name cell hCell
  obtain ⟨assignment, hMem, hFound⟩ := exists_assignment_of_find?_bindingsOf hCell
  obtain ⟨value, _, hEncode⟩ := hAssigns.encoded assignment hMem
  rw [hFound] at hEncode
  exact Codec.filled_of_encode hEncode

/-- No part of what a column stores is the empty string, for whatever value.  Nor is it in
the row of a record, nor in the key and the values of the request that saves the record. -/
theorem no_empty_string_written :
    (∀ (column : Column) (value : Value) (cell : Cell),
      column.encode value = .ok (some cell) → .string "" ∉ cell.parts) ∧
    (∀ (schema : Schema) (values : Values) (row : Item),
      schema.encode values = .ok row → row.FilledInside) ∧
    ∀ (schema : Schema) (table : String) (values : Values) (request : UpdateRequest),
      schema.updateRequest table values = .ok request →
        request.key.FilledInside ∧ Item.FilledInside request.bindings.values := by
  refine ⟨fun _ _ _ hCell => Codec.filled_of_encode hCell,
    fun _ _ _ hRow => filledInside_of_foldlM_encodeColumn hRow, ?_⟩
  intro schema table values request hRequest
  unfold updateRequest at hRequest
  simp only [bind_eq_ok_iff, pure_eq_ok_iff] at hRequest
  obtain ⟨keyItem, hKey, assignments, hAssignments, rfl⟩ := hRequest
  exact ⟨filledInside_of_foldlM_encodeColumn hKey,
    filledInside_bindingsOf (assigns_of_assignmentsFrom hAssignments)⟩

/-- A kind of record with a map of declared entries. -/
def guest : Schema where
  partition := .keyed "id" .partition "guest:"
  sort := none
  columns := [.ofChildren "stay" [.plain "room" .string, .plain "wishes" .list]]

/-- A guest without a room, with an empty wish and a nested one. -/
def gaps : Values :=
  .ofList [("id", .string "guest:1"), ("stay", .map
    [("room", .string ""),
     ("wishes", .list [.string "", .map [("first", .null), ("second", .string "quiet")]])])]

theorem no_empty_string_written_of_gaps :
    ∃ request cell, guest.updateRequest "hotel" gaps = .ok request ∧
      request.bindings.values.find? ":v0" = some cell ∧
      cell = .map [("wishes", .list [.map [("second", .string "quiet")]])] ∧
      .string "" ∉ cell.parts := by
  obtain ⟨request, hRequest⟩ : ∃ request, guest.updateRequest "hotel" gaps = .ok request :=
    ⟨_, rfl⟩
  have hCell : request.bindings.values.find? ":v0" =
      some (.map [("wishes", .list [.map [("second", .string "quiet")]])]) := by
    cases hRequest
    rfl
  exact ⟨request, _, hRequest, hCell, rfl,
    (no_empty_string_written.2.2 _ _ _ _ hRequest).2 _ _ hCell⟩

end Schema

end SingleTable
