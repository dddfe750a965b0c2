import SingleTable.Proofs.Codec.Tagged
import SingleTable.Proofs.Schema.Apart
import SingleTable.Proofs.Service.Saving
import SingleTable.Proofs.Table.Keyed

/-!
# Kinds of records in one table

Several kinds of records share a table when their keys start with different texts.
However saves of the kinds follow one another, a stored row is then a record of the kind
that it was saved as, and of no other, so that trying the kinds in any order finds it.

The invariant is `RowsOfSaves`: a row under a key holds the texts of the key as strings,
and no attribute that the kind of some save of that key does not know.  A further save of
the key is one of the same kind, because two texts that both start the partition text are
comparable; so it brings no attribute of another kind.
-/

namespace SingleTable

open Outcome

namespace Schema

/-- The schema is bound to the keys of a table: its key columns are string columns stored
under the table's key attributes, there is one for the sort text exactly where the table
has a sort attribute, and the other columns have attributes of their own. -/
structure Shares (schema : Schema) (layout : Layout) : Prop where
  bound : schema.tableSort = layout.sort
  partition : schema.partition.attributeName = layout.partition
  sort : schema.sort.map Column.attributeName = layout.sort
  strings : ∀ column ∈ schema.keyColumns, column.type = .string
  distinct : (schema.allColumns.map Column.attributeName).Nodup
  apart : ∀ column ∈ schema.allColumns, layout.isPrimary column.attributeName = false

variable {schema : Schema} {layout : Layout} {values : Values} {column : Column}
  {keyItem row start : Item} {key : Key}

theorem Shares.fits (hShares : schema.Shares layout) : schema.Fits layout where
  keys name := by
    rw [Table.isPrimary_iff, ← hShares.partition, ← hShares.sort]
    simp only [mem_keyColumns_iff, Option.map_eq_some_iff]
    constructor
    · rintro (rfl | ⟨column, hSort, rfl⟩)
      · exact ⟨schema.partition, Or.inl rfl, rfl⟩
      · exact ⟨column, Or.inr hSort, rfl⟩
    · rintro ⟨column, rfl | hSort, rfl⟩
      · exact Or.inl rfl
      · exact Or.inr ⟨column, hSort, rfl⟩
  distinct := hShares.distinct
  apart := hShares.apart

/-- The sort column is stored under the table's sort attribute. -/
theorem Shares.layout_sort (hShares : schema.Shares layout) (hColumn : schema.sort = some column) :
    layout.sort = some column.attributeName := by
  rw [← hShares.sort, hColumn]
  rfl

/-- Where the table's key attributes differ, so do those of the key columns. -/
theorem Shares.nodup_keyColumns (hShares : schema.Shares layout)
    (hDiffer : layout.sort ≠ some layout.partition) :
    (schema.keyColumns.map Column.attributeName).Nodup := by
  rw [← hShares.partition] at hDiffer
  cases hSort : schema.sort with
  | none => simp [keyColumns, hSort]
  | some column =>
    rw [hShares.layout_sort hSort] at hDiffer
    simpa [keyColumns, hSort, eq_comm] using hDiffer

/-- What a string column stores that can be part of a key is a string. -/
theorem eq_string_of_encode {value : Value} {cell : Cell} {text : String}
    (hType : column.type = .string) (hStored : column.encode value = .ok (some cell))
    (hText : cell.text? = some text) : cell = .string text := by
  have hTag := Codec.tag_of_encode hStored
  cases cell with
  | string content =>
    cases hText
    rfl
  | number digits =>
    -- the tag would be that of a string, or of a map if the column has children
    unfold Column.tag at hTag
    rw [hType] at hTag
    split at hTag <;> cases hTag
  | _ => cases hText

/-- A string column stores a string as it is. -/
theorem eq_of_encode_string {text : String} {cell : Cell} (hType : column.type = .string)
    (hStored : column.encode (.string text) = .ok (some cell)) : cell = .string text := by
  obtain ⟨name, type, columnKey, role, lead, computed, children⟩ := column
  obtain rfl : type = .string := hType
  unfold Column.encode at hStored
  cases children with
  | nil =>
    rw [Codec.encode, Codec.encodeAs] at hStored
    · split at hStored
      · cases hStored
      · cases hStored
        rfl
    · simp
    · simp
  | cons child others =>
    rw [Codec.encode] at hStored
    · split at hStored <;> cases hStored
    · simp

/-- The key of a request holds its texts as strings. -/
theorem Shares.find?_of_encodeKey (hShares : schema.Shares layout)
    (hKey : schema.encodeKey values = .ok keyItem) {name text : String}
    (hText : keyItem.keyText? name = some text) :
    keyItem.find? name = some (.string text) := by
  obtain ⟨cell, hCell, hPayload, _⟩ := Item.keyText?_eq_some_iff.mp hText
  have hFound := find?_of_foldlM_encodeColumn hKey name
  rw [hCell, NameMap.find?_empty, Option.or_none] at hFound
  obtain ⟨column, hMem, hStored⟩ := List.exists_of_findSome?_eq_some hFound.symm
  have hType := hShares.strings column (List.mem_reverse.mp hMem)
  obtain ⟨value, _, hEncode⟩ := exists_encode_of_stored? hStored
  rw [hCell, eq_string_of_encode hType hEncode hPayload]

/-- A row under a key holds the texts of the key as strings, and no attribute that the
schema does not know. -/
structure Describes (schema : Schema) (key : Key) (row : Item) : Prop where
  partition : row.find? schema.partition.attributeName = some (.string key.partition)
  sort : ∀ column, schema.sort = some column →
    ∃ text, key.sort = some text ∧ row.find? column.attributeName = some (.string text)
  known : ∀ name, (row.find? name).isSome = true → schema.knows name = true

theorem Shares.knows_of_isPrimary (hShares : schema.Shares layout) {name : String}
    (hName : layout.isPrimary name = true) : schema.knows name = true := by
  obtain ⟨column, hMem, rfl⟩ := (hShares.fits.keys name).mp hName
  exact knows_of_mem_keyColumns hMem

/-- A new row that is made of the key of a request is described by the schema. -/
theorem Shares.describes_of_encodeKey (hShares : schema.Shares layout)
    (hKeyItem : schema.encodeKey values = .ok keyItem)
    (hKey : keyItem.keyFor? layout.partition layout.sort = some key) :
    schema.Describes key keyItem.withoutBlanks := by
  obtain ⟨hPartition, hSome, hSort⟩ := Item.keyFor?_eq_some_iff_keyTexts.mp hKey
  -- leaving out blanks does not touch a key text
  have hHolds : ∀ {name text}, keyItem.keyText? name = some text →
      keyItem.withoutBlanks.find? name = some (.string text) := by
    intro name text hText
    obtain ⟨_, _, _, hFilled⟩ := Item.keyText?_eq_some_iff.mp hText
    unfold Item.withoutBlanks
    rw [NameMap.find?_keep, hShares.find?_of_encodeKey hKeyItem hText]
    simp [Option.filter, hFilled]
  refine ⟨?_, ?_, ?_⟩
  · rw [hShares.partition]
    exact hHolds hPartition
  · intro column hColumn
    have hName := hShares.layout_sort hColumn
    obtain ⟨text, hText⟩ := Option.isSome_iff_exists.mp (hSome _ hName)
    refine ⟨text, ?_, hHolds hText⟩
    rw [hSort, hName]
    exact hText
  · intro name hFound
    refine hShares.knows_of_isPrimary ?_
    by_contra hOther
    rw [Bool.not_eq_true] at hOther
    unfold Item.withoutBlanks at hFound
    rw [NameMap.find?_keep, find?_of_encodeKey_of_not_primary hShares.fits hKeyItem hOther]
      at hFound
    simp at hFound

/-- The steps of a save keep to the schema. -/
theorem Describes.applyAll {assignments : List Assignment} (hShares : schema.Shares layout)
    (hAssigns : Assigns values 0 schema.allColumns assignments)
    (hApply : UpdateStep.applyAll (UpdateStep.ofText ((expressionOf assignments).getD ""))
      (bindingsOf assignments) start = .ok row)
    (hStart : schema.Describes key start) : schema.Describes key row := by
  have hKeys : ∀ name, layout.isPrimary name = true → row.find? name = start.find? name := by
    intro name hName
    refine hAssigns.find?_of_applyAll_of_not_mem hApply fun column hMem hSame => ?_
    have hApart := hShares.apart column hMem
    rw [hSame, hName] at hApart
    exact Bool.noConfusion hApart
  have hPrimary : ∀ column ∈ schema.keyColumns,
      layout.isPrimary column.attributeName = true := fun column hMem =>
    (hShares.fits.keys column.attributeName).mpr ⟨column, hMem, rfl⟩
  refine ⟨?_, ?_, ?_⟩
  · rw [hKeys _ (hPrimary _ (mem_keyColumns_iff.mpr (Or.inl rfl)))]
    exact hStart.partition
  · intro column hColumn
    rw [hKeys _ (hPrimary _ (mem_keyColumns_iff.mpr (Or.inr hColumn)))]
    exact hStart.sort column hColumn
  · intro name hFound
    by_cases hColumn : ∃ column ∈ schema.allColumns, column.attributeName = name
    · obtain ⟨column, hMem, rfl⟩ := hColumn
      exact knows_of_mem hMem
    · rw [hAssigns.find?_of_applyAll_of_not_mem hApply
        fun column hMem hSame => hColumn ⟨column, hMem, hSame⟩] at hFound
      exact hStart.known name hFound

/-- The texts of a key start as the schema's key columns ask. -/
def Marks (schema : Schema) (key : Key) : Prop :=
  Text.startsWith key.partition schema.partition.leadText = true ∧
    ∀ column, schema.sort = some column → key.sortStarts column.leadText = true

/-- A row that the schema describes is a record of the kind if its key starts as it should. -/
theorem Shares.matchesRow_of_describes (hShares : schema.Shares layout)
    (hDescribes : schema.Describes key row) (hMarks : schema.Marks key) :
    schema.matchesRow row = true := by
  have hPartition : schema.partitionMatches row = true :=
    partitionMatches_iff.mpr ⟨key.partition, hDescribes.partition, hMarks.1⟩
  have hSort : schema.sortMatches row = true := by
    cases hColumn : schema.sort with
    | none =>
      have hNone : schema.tableSort = none := by
        rw [hShares.bound, ← hShares.sort, hColumn]
        rfl
      exact (sortMatches_iff_of_sortless hColumn).mpr (by simp [hNone])
    | some column =>
      obtain ⟨text, hText, hFound⟩ := hDescribes.sort column hColumn
      have hStarts := hMarks.2 column hColumn
      unfold Key.sortStarts at hStarts
      rw [hText] at hStarts
      exact (sortMatches_iff_of_sort hColumn).mpr ⟨text, hFound, hStarts⟩
  refine matchesRow_iff.mpr ⟨hPartition, hSort, fun name hMem => ?_⟩
  exact hDescribes.known name
    (Option.isSome_iff_exists.mpr (NameMap.exists_find?_of_mem_names hMem))

/-- Kinds whose partition texts start differently: none starts with another. -/
def LeadsApart (schemas : List Schema) : Prop :=
  ∀ schema ∈ schemas, ∀ other ∈ schemas, schema ≠ other →
    Text.startsWith schema.partition.leadText other.partition.leadText = false

/-- At most one kind has a partition text starting as it should. -/
theorem LeadsApart.eq_of_startsWith {schemas : List Schema} {other : Schema} {text : String}
    (hApart : LeadsApart schemas) (hMem : schema ∈ schemas) (hOther : other ∈ schemas)
    (hStarts : Text.startsWith text schema.partition.leadText = true)
    (hOtherStarts : Text.startsWith text other.partition.leadText = true) : other = schema := by
  by_contra hNe
  have hDiverge : Text.Diverge schema.partition.leadText other.partition.leadText :=
    ⟨hApart schema hMem other hOther (Ne.symm hNe), hApart other hOther schema hMem hNe⟩
  exact Text.Diverge.iff_not_both.mp hDiverge text ⟨hStarts, hOtherStarts⟩

end Schema

/-- A save: a record, and the schema that it is saved through. -/
structure Save where
  schema : Schema
  values : Values

namespace Save

/-- The save is of a key: its request can be built and has that primary key. -/
def IsOf (save : Save) (layout : Layout) (key : Key) : Prop :=
  ∃ request, save.schema.updateRequest layout.table save.values = .ok request ∧
    request.key.keyFor? layout.partition layout.sort = some key

/-- The partition and sort text of the save start as its schema asks. -/
def Marked (save : Save) (layout : Layout) : Prop :=
  ∀ key, save.IsOf layout key → save.schema.Marks key

/-- Where the table's key attributes differ, a save is marked if the values that its record
has for the key columns are strings that start as the columns ask. -/
theorem marked_of_values {save : Save} {layout : Layout}
    (hShares : save.schema.Shares layout) (hDiffer : layout.sort ≠ some layout.partition)
    (hValues : ∀ column ∈ save.schema.keyColumns, ∀ value,
      save.values.find? column.name = some value →
      ∃ text, value = .string text ∧ Text.startsWith text column.leadText = true) :
    save.Marked layout := by
  have hNodup := hShares.nodup_keyColumns hDiffer
  rintro key ⟨request, hRequest, hKey⟩
  unfold Schema.updateRequest at hRequest
  simp only [bind_eq_ok_iff, pure_eq_ok_iff] at hRequest
  obtain ⟨keyItem, hKeyItem, assignments, _, rfl⟩ := hRequest
  obtain ⟨hPartition, hSome, hSort⟩ := Item.keyFor?_eq_some_iff_keyTexts.mp hKey
  -- a text under the attribute of a key column is what that column stores
  have hStarts : ∀ column ∈ save.schema.keyColumns, ∀ text,
      keyItem.keyText? column.attributeName = some text →
      Text.startsWith text column.leadText = true := by
    intro column hMem text hText
    have hFound := hShares.find?_of_encodeKey hKeyItem hText
    rw [Schema.find?_of_foldlM_encodeColumn_of_nodup hKeyItem hNodup hMem,
      NameMap.find?_empty, Option.or_none] at hFound
    obtain ⟨value, hValue, hEncode⟩ := Schema.exists_encode_of_stored? hFound
    obtain ⟨content, rfl, hContent⟩ := hValues column hMem value hValue
    cases Schema.eq_of_encode_string (hShares.strings column hMem) hEncode
    exact hContent
  constructor
  · refine hStarts _ (Schema.mem_keyColumns_iff.mpr (Or.inl rfl)) _ ?_
    rw [hShares.partition]
    exact hPartition
  · intro column hColumn
    have hName := hShares.layout_sort hColumn
    obtain ⟨text, hText⟩ := Option.isSome_iff_exists.mp (hSome _ hName)
    have hKeySort : key.sort = some text := by
      rw [hSort, hName]
      exact hText
    unfold Key.sortStarts
    rw [hKeySort]
    exact hStarts column (Schema.mem_keyColumns_iff.mpr (Or.inr hColumn)) text hText

end Save

namespace Table

open Schema

variable {table : Table} {layout : Layout} {save : Save} {saves : List Save}
  {schemas : List Schema} {key : Key} {row : Item}

/-- The table after a save.  A save whose request cannot be built or carried out leaves
the table as it is. -/
def saveRecord (table : Table) (save : Save) : Table :=
  match save.schema.updateRequest table.layout.table save.values with
  | .ok request => table.after (.updateItem request)
  | .error _ => table

/-- The table after several saves. -/
def saveAll (table : Table) (saves : List Save) : Table :=
  saves.foldl saveRecord table

/-- A save either leaves the table as it is, or puts the row that its steps leave under
its key. -/
theorem saveRecord_cases (table : Table) (save : Save) :
    table.saveRecord save = table ∨
      ∃ keyItem assignments key row, save.schema.encodeKey save.values = .ok keyItem ∧
        Assigns save.values 0 save.schema.allColumns assignments ∧
        keyItem.keyFor? table.layout.partition table.layout.sort = some key ∧
        save.IsOf table.layout key ∧
        UpdateStep.applyAll (UpdateStep.ofText ((expressionOf assignments).getD ""))
          (bindingsOf assignments) (table.startOf key keyItem) = .ok row ∧
        table.saveRecord save = table.put key row := by
  unfold saveRecord
  cases hRequest : save.schema.updateRequest table.layout.table save.values with
  | error error => exact Or.inl rfl
  | ok request =>
    have hParts := hRequest
    unfold updateRequest at hParts
    simp only [bind_eq_ok_iff, pure_eq_ok_iff] at hParts
    obtain ⟨keyItem, hKeyItem, assignments, hAssignments, rfl⟩ := hParts
    simp only [after, updateItem]
    cases hUpdate : table.updateByExpression keyItem ((expressionOf assignments).getD "")
        (bindingsOf assignments) with
    | error error => exact Or.inl rfl
    | ok result =>
      obtain ⟨row, next⟩ := result
      obtain ⟨key, hKey, _, hRow, rfl⟩ := updateByExpression_eq_ok_iff.mp hUpdate
      rw [primaryKey_eq_ok_iff] at hKey
      exact Or.inr ⟨keyItem, assignments, key, row, hKeyItem,
        assigns_of_assignmentsFrom hAssignments, hKey, ⟨_, hRequest, hKey⟩, hRow, rfl⟩

/-- Every row under a key is described by the schema of some save of that key. -/
structure RowsOfSaves (layout : Layout) (saves : List Save) (table : Table) : Prop where
  bound : table.layout = layout
  keyed : table.Keyed
  described : ∀ key row, table.get? key = some row →
    ∃ save ∈ saves, save.IsOf layout key ∧ save.schema.Describes key row

theorem rowsOfSaves_empty (layout : Layout) : RowsOfSaves layout [] (empty layout) where
  bound := rfl
  keyed := keyed_empty layout
  described := by
    intro key row hRow
    cases hRow

theorem RowsOfSaves.mono {others : List Save} (hSub : ∀ save ∈ saves, save ∈ others)
    (hRows : RowsOfSaves layout saves table) : RowsOfSaves layout others table where
  bound := hRows.bound
  keyed := hRows.keyed
  described key row hRow := by
    obtain ⟨save, hMem, hRest⟩ := hRows.described key row hRow
    exact ⟨save, hSub save hMem, hRest⟩

theorem keyed_saveRecord (hKeyed : table.Keyed) (save : Save) : (table.saveRecord save).Keyed := by
  unfold saveRecord
  split
  · exact preserved_keyed.after hKeyed _
  · exact hKeyed

/-- One save more: a row that was there before is of the same kind. -/
theorem RowsOfSaves.saveRecord (hShares : save.schema.Shares layout)
    (hSame : ∀ earlier ∈ saves, ∀ key, earlier.IsOf layout key → save.IsOf layout key →
      earlier.schema = save.schema)
    (hRows : RowsOfSaves layout saves table) :
    RowsOfSaves layout (saves ++ [save]) (table.saveRecord save) := by
  have hBefore : RowsOfSaves layout (saves ++ [save]) table :=
    hRows.mono fun earlier hMem => List.mem_append_left [save] hMem
  rcases saveRecord_cases table save with hStay |
    ⟨keyItem, assignments, key, row, hKeyItem, hAssigns, hKey, hIsOf, hApply, hNext⟩
  · rw [hStay]
    exact hBefore
  obtain rfl := hRows.bound
  -- whether there is a row or not, the steps start from one that the schema describes
  have hStart : save.schema.Describes key (table.startOf key keyItem) := by
    unfold startOf
    cases hOld : table.get? key with
    | none => exact hShares.describes_of_encodeKey hKeyItem hKey
    | some old =>
      obtain ⟨earlier, hMem, hEarlier, hDescribes⟩ := hRows.described key old hOld
      rw [hSame earlier hMem key hEarlier hIsOf] at hDescribes
      exact hDescribes
  refine ⟨?_, keyed_saveRecord hRows.keyed save, ?_⟩
  · rw [hNext]
    rfl
  · intro other otherRow hFound
    rw [hNext, get?_put] at hFound
    split at hFound
    · next hSameKey =>
      subst hSameKey
      cases hFound
      exact ⟨save, by simp, hIsOf, hStart.applyAll hShares hAssigns hApply⟩
    · exact hBefore.described other otherRow hFound

theorem RowsOfSaves.saveAll {later : List Save}
    (hShares : ∀ save ∈ later, save.schema.Shares layout)
    (hSame : ∀ save ∈ saves ++ later, ∀ other ∈ saves ++ later, ∀ key, save.IsOf layout key →
      other.IsOf layout key → save.schema = other.schema)
    (hRows : RowsOfSaves layout saves table) :
    RowsOfSaves layout (saves ++ later) (table.saveAll later) := by
  induction later generalizing table saves with
  | nil =>
    rw [List.append_nil]
    exact hRows
  | cons save rest ih =>
    rw [List.append_cons] at hSame ⊢
    refine ih (fun other hMem => hShares other (List.mem_cons_of_mem _ hMem)) hSame ?_
    refine hRows.saveRecord (hShares save List.mem_cons_self) fun earlier hMem => ?_
    exact hSame earlier (by simp [hMem]) save (by simp)

/-- Several kinds share a table: their keys are the table's, and their partition texts
start differently.  After any saves of records of these kinds whose keys start as they
should, every stored row is matched by exactly one kind: the one that every save of the
row's key was of.  Trying the kinds in any order finds it. -/
theorem stored_rows_told_apart (hShares : ∀ schema ∈ schemas, schema.Shares layout)
    (hApart : LeadsApart schemas) (hThrough : ∀ save ∈ saves, save.schema ∈ schemas)
    (hMarked : ∀ save ∈ saves, save.Marked layout) :
    ∀ key row, (key, row) ∈ ((empty layout).saveAll saves).rows →
      ∃ schema ∈ schemas,
        (∃ save ∈ saves, save.IsOf layout key ∧ save.schema = schema) ∧
        (∀ save ∈ saves, save.IsOf layout key → save.schema = schema) ∧
        (∀ other ∈ schemas, other.matchesRow row = true ↔ other = schema) ∧
        ∀ candidates, candidates.Perm schemas → firstMatch? candidates row = some schema := by
  have hSame : ∀ save ∈ saves, ∀ other ∈ saves, ∀ key, save.IsOf layout key →
      other.IsOf layout key → save.schema = other.schema := by
    intro save hMem other hOther key hIsOf hOtherIsOf
    exact hApart.eq_of_startsWith (hThrough other hOther) (hThrough save hMem)
      (hMarked other hOther key hOtherIsOf).1 (hMarked save hMem key hIsOf).1
  have hRows : RowsOfSaves layout saves ((empty layout).saveAll saves) :=
    (rowsOfSaves_empty layout).saveAll
      (fun save hMem => hShares save.schema (hThrough save hMem)) hSame
  intro key row hStored
  obtain ⟨save, hMem, hIsOf, hDescribes⟩ :=
    hRows.described key row (hRows.keyed.get?_eq_some_iff.mpr hStored)
  have hSchema := hThrough save hMem
  have hMarks := hMarked save hMem key hIsOf
  have hOnly : ∀ other ∈ schemas, other.matchesRow row = true ↔ other = save.schema := by
    intro other hOther
    constructor
    · intro hMatches
      -- both kinds read the partition text under the table's partition attribute
      have hPartition : row.find? other.partition.attributeName =
          some (.string key.partition) := by
        rw [(hShares other hOther).partition, ← (hShares _ hSchema).partition]
        exact hDescribes.partition
      exact hApart.eq_of_startsWith hSchema hOther hMarks.1
        (startsWith_of_matchesRow hMatches hPartition)
    · rintro rfl
      exact (hShares _ hSchema).matchesRow_of_describes hDescribes hMarks
  refine ⟨save.schema, hSchema, ⟨save, hMem, hIsOf, rfl⟩, ?_, hOnly, ?_⟩
  · exact fun other hOther hOtherIsOf => hSame other hOther save hMem key hOtherIsOf hIsOf
  · intro candidates hPerm
    refine firstMatch?_eq_some_of_only (hPerm.mem_iff.mpr hSchema) fun other hOther => ?_
    exact hOnly other (hPerm.mem_iff.mp hOther)

end Table

/-! Users and orders in one table. -/

namespace Schema

/-- A kind of record beside the users. -/
def order : Schema where
  partition := .keyed "number" .partition "order:"
  sort := some (.keyed "line" .sort "line:")
  columns := [.plain "units" .integer]

theorem shares_user : user.Shares {} :=
  ⟨rfl, rfl, rfl, by decide, by decide, by decide⟩

theorem shares_order : order.Shares {} :=
  ⟨rfl, rfl, rfl, by decide, by decide, by decide⟩

theorem leadsApart_user_order : LeadsApart [user, order] := by
  intro schema hMem other hOther hNe
  simp only [List.mem_cons, List.not_mem_nil, or_false] at hMem hOther
  rcases hMem with rfl | rfl <;> rcases hOther with rfl | rfl
  · exact absurd rfl hNe
  · decide
  · decide
  · exact absurd rfl hNe

/-- A record of an order. -/
def oneUnit : Values :=
  .ofList [("number", .string "order:7"), ("line", .string "line:1"), ("units", .integer 1)]

end Schema

namespace Save

/-- The save of the user. -/
def ofAda : Save := ⟨.user, Schema.ada⟩

/-- The save of the order. -/
def ofOrder : Save := ⟨.order, Schema.oneUnit⟩

theorem marked_ofAda : ofAda.Marked {} := by
  refine marked_of_values Schema.shares_user (by decide) fun column hMem value hValue => ?_
  rcases Schema.mem_keyColumns_iff.mp hMem with rfl | hSort
  · cases hValue
    exact ⟨_, rfl, by decide⟩
  · cases hSort
    cases hValue
    exact ⟨_, rfl, by decide⟩

theorem marked_ofOrder : ofOrder.Marked {} := by
  refine marked_of_values Schema.shares_order (by decide) fun column hMem value hValue => ?_
  rcases Schema.mem_keyColumns_iff.mp hMem with rfl | hSort
  · cases hValue
    exact ⟨_, rfl, by decide⟩
  · cases hSort
    cases hValue
    exact ⟨_, rfl, by decide⟩

end Save

theorem Table.stored_rows_told_apart_of_user_and_order :
    let table := (empty {}).saveAll [.ofAda, .ofOrder]
    table.size = 2 ∧
      ∀ key row, (key, row) ∈ table.rows → ∃ schema ∈ [Schema.user, Schema.order],
        ∀ candidates, candidates.Perm [Schema.user, Schema.order] →
          Schema.firstMatch? candidates row = some schema := by
  refine ⟨rfl, fun key row hStored => ?_⟩
  obtain ⟨schema, hMem, _, _, _, hFirst⟩ :=
    @stored_rows_told_apart {} [.ofAda, .ofOrder] [.user, .order]
      (by simp [Schema.shares_user, Schema.shares_order])
      Schema.leadsApart_user_order
      (by simp [Save.ofAda, Save.ofOrder])
      (by simp [Save.marked_ofAda, Save.marked_ofOrder])
      key row hStored
  exact ⟨schema, hMem, hFirst⟩

end SingleTable
