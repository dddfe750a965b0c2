import SingleTable.Proofs.Codec.Readable

/-!
# Cells that stay when their value is saved again

A column may change a value when it is written: it takes texts for numbers, cuts off
fractions, drops parts of a second and leaves out what is empty.  What is read from the
cell is written as the very same cell, so a value is changed by the first write only.

A flat cell is always one of a value of the column's own kind, and such a value is the one
that is read (`decodeFlat_of_encodeFlat`).  What is read from a list or map without
declared children is `Value.readBack`, which is written as the value is.
-/

namespace SingleTable

open Outcome Codec Calendar

namespace Codec

variable {type : ColumnType} {value read : Value} {cell : Cell}

/-- The instant that is read for a number of seconds has that number and nothing else. -/
theorem seconds_of_readTimestamp {n : Int64} {t : Instant}
    (hRead : readTimestamp (int64Text n) = .ok t) : t.seconds = n.toInt ∧ t.nanos = 0 := by
  unfold readTimestamp at hRead
  rw [bind_ok readInteger_int64Text] at hRead
  unfold Instant.of? orError at hRead
  split at hRead
  · next found hFound =>
    cases hRead
    split at hFound
    · split at hFound
      · cases hFound
        exact ⟨rfl, rfl⟩
      · cases hFound
    · cases hFound
  · cases hRead

/-- A flat cell that is read was written for a value of the type's own kind as well. -/
theorem exists_ofType_of_decodeFlat (hCell : encodeFlat value type = .ok cell)
    (hFilled : value.isNull = false) (hRead : decodeFlat cell type = .ok read) :
    ∃ typed : Value, typed.OfType type ∧ encodeFlat typed type = .ok cell := by
  by_cases hType : type = .timestamp
  · subst hType
    obtain ⟨n, rfl, _⟩ := exists_seconds_of_encodeFlat hCell
    rw [decodeFlat, map_eq_ok_iff] at hRead
    obtain ⟨t, hInstant, _⟩ := hRead
    obtain ⟨hSeconds, hWhole⟩ := seconds_of_readTimestamp hInstant
    refine ⟨.instant t, .timestamp hWhole, ?_⟩
    rw [encodeFlat, hSeconds]
    rfl
  · exact exists_ofType_of_encodeFlat hCell hFilled hType

/-- What is read from a flat cell is of the type's own kind, and the cell is its own. -/
theorem encodeFlat_of_decodeFlat (hCell : encodeFlat value type = .ok cell)
    (hFilled : value.isNull = false) (hRead : decodeFlat cell type = .ok read) :
    read.OfType type ∧ encodeFlat read type = .ok cell := by
  obtain ⟨typed, hTyped, hSame⟩ := exists_ofType_of_decodeFlat hCell hFilled hRead
  obtain ⟨other, hOther, hTypedRead⟩ := decodeFlat_of_encodeFlat hTyped
  rw [hSame, Except.ok.injEq] at hOther
  rw [← hOther, hRead, Except.ok.injEq] at hTypedRead
  exact hTypedRead ▸ ⟨hTyped, hSame⟩

theorem encodeAs_string {text : String} (hFilled : text ≠ "") :
    encodeAs (.string text) .string = .ok (some (.string text)) :=
  encodeAs_of_encodeFlat rfl (by simpa using hFilled)

mutual

/-- A value without a declared type is written as what is read for it is. -/
theorem encodeAs_readBack : (value : Value) →
    encodeAs value.readBack (.ofValue value.readBack) = encodeAs value (.ofValue value)
  | .null | .bool _ | .string _ | .integer _ | .float _ | .bytes _ | .stringSet _
  | .integerSet _ | .binarySet _ | .floatSet [] | .floatSet (_ :: _) => rfl
  | .date day => encodeAs_string day.text_ne_empty
  | .instant t => encodeAs_string t.text_ne_empty
  | .list items => by
    show encodeAs (.list (Value.readBackItems items)) .list = encodeAs (.list items) .list
    rw [encodeAs_list, encodeAs_list, encodeItems_readBackItems items]
  | .map entries => by
    show encodeAs (.map (Value.readBackEntries entries)) .map = encodeAs (.map entries) .map
    rw [encodeAs_map, encodeAs_map, encodeEntries_readBackEntries entries]

theorem encodeItems_readBackItems : (items : List Value) →
    encodeItems (Value.readBackItems items) = encodeItems items
  | [] => rfl
  | item :: rest => by
    rw [Value.readBackItems, encodeItems_cons]
    split
    · next hNull =>
      rw [encodeItems_readBackItems rest, encodeAs_of_isNull hNull]
      exact (bind_pure _).symm
    · rw [encodeItems_cons, encodeAs_readBack item, encodeItems_readBackItems rest]

theorem encodeEntries_readBackEntries : (entries : List (String × Value)) →
    encodeEntries (Value.readBackEntries entries) = encodeEntries entries
  | [] => rfl
  | (name, value) :: rest => by
    rw [Value.readBackEntries, encodeEntries_cons]
    split
    · next hNull =>
      rw [encodeEntries_readBackEntries rest, encodeAs_of_isNull hNull]
      exact (bind_pure _).symm
    · rw [encodeEntries_cons, encodeAs_readBack value, encodeEntries_readBackEntries rest]

end

/-- What is read by a type is written by the type as the cell that it was read from. -/
theorem encodeAs_of_decodeAs (hCell : encodeAs value type = .ok (some cell))
    (hRead : decodeAs cell type = .ok read) : encodeAs read type = .ok (some cell) := by
  cases storedAs_of_encodeAs hCell with
  | @list items cells hType hCells =>
    subst hType
    have hList : decodeAs (.list cells) .list = .ok (.list (Value.readBackItems items)) :=
      bind_ok (decodeItems_of_encodeItems hCells) _
    rw [hList, Except.ok.injEq] at hRead
    rw [← hRead, encodeAs_list, encodeItems_readBackItems, hCells]
    rfl
  | @map entries cells hType hCells =>
    subst hType
    have hMap : decodeAs (.map cells) .map = .ok (.map (Value.readBackEntries entries)) :=
      bind_ok (decodeEntries_of_encodeEntries hCells) _
    rw [hMap, Except.ok.injEq] at hRead
    rw [← hRead, encodeAs_map, encodeEntries_readBackEntries, hCells]
    rfl
  | flat hFilled hFlat =>
    rw [decodeAs_of_encodeFlat hFlat hFilled] at hRead
    obtain ⟨hTyped, hSame⟩ := encodeFlat_of_decodeFlat hFlat hFilled hRead
    exact encodeAs_of_encodeFlat hSame (isNull_of_ofType hTyped)

/-- A child stores for what it read the cell that it stored before. -/
theorem storesFor_of_readsFor {child : Column} {entries values : List (String × Value)}
    {cells : List (String × Cell)}
    (hStored : StoresFor entries child (Entries.find? child.name cells))
    (hRead : ReadsFor cells child (Entries.find? child.name values))
    (hEach : ∀ value cell read, child.encode value = .ok (some cell) →
      child.decode cell = .ok read → child.encode read = .ok (some cell)) :
    StoresFor values child (Entries.find? child.name cells) := by
  unfold StoresFor at hStored ⊢
  unfold ReadsFor at hRead
  cases hCell : Entries.find? child.name cells with
  | none =>
    rw [hCell] at hRead
    rw [hRead]
  | some cell =>
    rw [hCell] at hStored hRead
    cases hEntry : Entries.find? child.name entries with
    | none =>
      rw [hEntry] at hStored
      cases hStored
    | some value =>
      rw [hEntry] at hStored
      simp only [child.isBlank_of_encode hStored] at hRead
      obtain ⟨read, hDecode, hFound⟩ := hRead
      rw [hFound]
      exact hEach value cell read hStored hDecode

end Codec

namespace Column

/-- What a column reads from a cell that it wrote, for whatever value, it writes as the very
same cell. -/
theorem read_value_written_alike {column : Column} {value read : Value} {cell : Cell}
    (hDistinct : column.DistinctNames) (hCell : column.encode value = .ok (some cell))
    (hRead : column.decode cell = .ok read) : column.encode read = .ok (some cell) := by
  -- the cell of a child is what the child wrote, which is what the induction needs
  induction hDistinct generalizing value cell read with
  | @intro column hNames _ ih =>
    by_cases hChildren : column.children = []
    · rw [encode_of_no_children hChildren] at hCell ⊢
      rw [decode_of_no_children hChildren] at hRead
      exact encodeAs_of_decodeAs hCell hRead
    · obtain ⟨entries, cells, rfl, hCells, rfl⟩ := exists_encodeChildren hChildren hCell
      rw [decode_of_children hChildren, map_eq_ok_iff] at hRead
      obtain ⟨values, hValues, rfl⟩ := hRead
      have hStored := encodeChildren_eq_ok_iff.mp hCells
      have hReads := decodeChildren_eq_ok_iff.mp hValues
      have hFindCell : ∀ name, Entries.find? name (Entries.ofList cells) =
          Entries.find? name cells := NameMap.find?_ofList (hStored.names_sublist.nodup hNames)
      have hFindValue : ∀ name, Entries.find? name (Entries.ofList values) =
          Entries.find? name values := NameMap.find?_ofList (hReads.names_sublist.nodup hNames)
      refine encode_of_children hChildren (encodeChildren_eq_ok_iff.mpr ?_)
      refine hStored.of_find? hNames fun child hChild => ?_
      have hBefore := hStored.find? hNames child hChild
      have hAfter := hReads.find? hNames child hChild
      rw [← hFindCell] at hBefore ⊢
      rw [← hFindValue] at hAfter
      exact storesFor_of_readsFor hBefore hAfter fun _ _ _ => ih child hChild

/-- A booking of rooms from a day to an instant, with notes. -/
def booking : Column :=
  .ofChildren "booking"
    [.plain "from" .date, .plain "notes" .list, .plain "paid" .boolean,
     .plain "rooms" .integerSet, .plain "to" .datetime]

theorem distinctNames_booking : booking.DistinctNames := by
  refine ⟨by decide, ?_⟩
  rw [booking, ofChildren]
  simp only [List.forall_mem_cons]
  exact ⟨distinctNames_plain _ _, distinctNames_plain _ _, distinctNames_plain _ _,
    distinctNames_plain _ _, distinctNames_plain _ _, List.forall_mem_nil _⟩

end Column

/-- Half a second into the leap second at the end of 2016. -/
def Instant.leap : Instant := ⟨1483228799, 1500000000, by decide, by decide⟩

/-- A booking whose entries are of other kinds than the column declares. -/
def Value.looseBooking : Value :=
  .map
    [("from", .instant .leap), ("notes", .list [.instant .leap, .string "", .integer 7]),
     ("paid", .integer 2), ("rooms", .list [.bool true, .integer 12]), ("to", .instant .leap)]

/-- The booking as it is read. -/
def Value.booking : Value :=
  .map
    [("from", .date ⟨2016, 12, 31, by decide, by decide, by decide⟩),
     ("notes", .list [.string "2016-12-31T23:59:60Z", .integer 7]), ("paid", .bool true),
     ("rooms", .integerSet [1, 12]), ("to", .instant (wholeSecond .leap))]

/-- The booking as it is stored. -/
def Cell.booking : Cell :=
  .map
    [("from", .string "2016-12-31"),
     ("notes", .list [.string "2016-12-31T23:59:60Z", .number "7"]), ("paid", .bool true),
     ("rooms", .numberSet ["1", "12"]), ("to", .string "2016-12-31T23:59:60Z")]

theorem Column.read_value_written_alike_of_booking :
    booking.DistinctNames ∧ booking.encode .looseBooking = .ok (some .booking) ∧
      booking.decode .booking = .ok .booking ∧ booking.encode .booking = .ok (some .booking) :=
  have hCell : booking.encode .looseBooking = .ok (some .booking) := rfl
  have hRead : booking.decode .booking = .ok .booking := rfl
  ⟨distinctNames_booking, hCell, hRead, read_value_written_alike distinctNames_booking hCell hRead⟩

end SingleTable
