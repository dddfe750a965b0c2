import Mathlib.Data.List.Nodup
import SingleTable.Proofs.Codec.RoundTrip
import SingleTable.Proofs.Schema.Encode
import SingleTable.Proofs.Schema.Matching

/-!
# Reading records back

A record is stored column by column under attributes and read column by column under
friendly names.  Where both kinds of names are distinct, every column finds in the row
what it stored there, and no column takes the name of another.  So the row of a record is
of the kind, and all entries that the kind declares are read from it as they were, but
for null and the empty string, which are not stored.
-/

namespace SingleTable

open Outcome

/-- The column stores the value in a cell that it reads as the value. -/
def Column.Preserves (column : Column) (value : Value) : Prop :=
  ∃ cell, column.encode value = .ok (some cell) ∧ column.decode cell = .ok value

namespace Schema

/-- All columns of the kind, the key columns first. -/
def fields (schema : Schema) : List Column :=
  schema.keyColumns ++ schema.allColumns

/-- The columns of the kind do not interfere: their attributes are distinct and so are
their names, the key columns hold plain strings, all columns are read, and without a sort
column none is stored under the table's sort attribute. -/
structure Separate (schema : Schema) : Prop where
  attributes : (schema.fields.map Column.attributeName).Nodup
  names : (schema.fields.map Column.name).Nodup
  keys : ∀ column ∈ schema.keyColumns, column.type = .string ∧ column.children = []
  read : ∀ column ∈ schema.fields, column.computed = false
  sortless : schema.sort = none →
    ∀ column ∈ schema.fields, schema.tableSort ≠ some column.attributeName

/-- The record has texts for the key columns, which start as they should, and what it has
for another column is null, the empty string or a value that the column preserves. -/
structure Complete (schema : Schema) (values : Values) : Prop where
  keys : ∀ column ∈ schema.keyColumns, ∃ text, values.find? column.name = some (.string text) ∧
    text ≠ "" ∧ Text.startsWith text column.leadText = true
  others : ∀ column ∈ schema.allColumns, ∀ value, values.find? column.name = some value →
    value.isNull = true ∨ column.Preserves value

/-- What a record has under a name, if something is stored for it. -/
def filled? (values : Values) (name : String) : Option Value :=
  (values.find? name).filter (!·.isNull)

/-- What a record has under a name that the kind declares, if something is stored for it. -/
def kept? (schema : Schema) (values : Values) (name : String) : Option Value :=
  if name ∈ schema.fields.map Column.name then filled? values name else none

/-- For the column the row holds nothing, or a cell that is read as a value. -/
inductive Reads (row : Item) (column : Column) : Option Value → Prop where
  | nothing (hNone : row.find? column.attributeName = none) : Reads row column none
  | cell {cell : Cell} {value : Value} (hCell : row.find? column.attributeName = some cell)
      (hValue : column.decode cell = .ok value) : Reads row column (some value)

variable {schema : Schema} {values record start : Values} {row : Item} {column : Column}
  {columns : List Column}

section Storing

/-- A string column without children stores a text as it is. -/
theorem encode_string {text : String} (hColumn : column.type = .string ∧ column.children = [])
    (hFilled : text ≠ "") : column.encode (.string text) = .ok (some (.string text)) := by
  have hNull : (Value.string text).isNull = false := by simpa using hFilled
  rw [Codec.encode_of_no_children hColumn.2, hColumn.1, Codec.encodeAs]
  · rw [if_neg (by simp [hNull])]
    rfl
  · simp
  · simp

theorem decode_string {text : String} (hColumn : column.type = .string ∧ column.children = [])
    (hFilled : text ≠ "") : column.decode (.string text) = .ok (.string text) := by
  have hBlank : (Cell.string text).isBlank = false := by simpa using hFilled
  rw [Codec.decode_of_no_children hColumn.2, hColumn.1, Codec.decodeAs]
  · rw [if_neg (by simp [hBlank])]
    rfl
  · simp
  · simp

/-- Every entry of a complete record is null or preserved. -/
theorem Complete.entry (hComplete : schema.Complete values) (hSeparate : schema.Separate)
    (hMem : column ∈ schema.fields) {value : Value}
    (hValue : values.find? column.name = some value) :
    value.isNull = true ∨ column.Preserves value := by
  rcases List.mem_append.mp hMem with hKey | hOther
  · obtain ⟨text, hText, hFilled, -⟩ := hComplete.keys column hKey
    rw [hText, Option.some.injEq] at hValue
    subst hValue
    have hColumn := hSeparate.keys column hKey
    exact Or.inr ⟨_, encode_string hColumn hFilled, decode_string hColumn hFilled⟩
  · exact hComplete.others column hOther value hValue

theorem Complete.storable (hComplete : schema.Complete values) (hSeparate : schema.Separate)
    (hMem : column ∈ schema.fields) : Storable values column := by
  intro value hValue
  rcases hComplete.entry hSeparate hMem hValue with hNull | ⟨cell, hCell, -⟩
  · exact ⟨none, Column.encode_of_isNull hNull⟩
  · exact ⟨some cell, hCell⟩

/-- The attribute of a column holds what the column stores. -/
theorem Separate.find?_of_encode (hSeparate : schema.Separate)
    (hRow : schema.encode values = .ok row) (hMem : column ∈ schema.fields) :
    row.find? column.attributeName = stored? values column.attributeName column := by
  have hFound := find?_of_foldlM_encodeColumn_of_nodup hRow hSeparate.attributes hMem
  rwa [NameMap.find?_empty, Option.or_none] at hFound

/-- Every column reads from the row of a record what the record has for it. -/
theorem Complete.reads (hComplete : schema.Complete values) (hSeparate : schema.Separate)
    (hRow : schema.encode values = .ok row) (hMem : column ∈ schema.fields) :
    Reads row column (filled? values column.name) := by
  have hFound := hSeparate.find?_of_encode hRow hMem
  unfold filled?
  cases hValue : values.find? column.name with
  | none =>
    refine .nothing ?_
    simp [hFound, stored?, hValue]
  | some value =>
    -- either nothing is stored for the value and nothing is read, or the cell gives it back
    rcases hComplete.entry hSeparate hMem hValue with hNull | ⟨cell, hCell, hRead⟩
    · rw [Option.filter_some_neg (by simp [hNull])]
      refine .nothing ?_
      rw [hFound, stored?_of_encode hValue (Column.encode_of_isNull hNull)]
    · have hNull : value.isNull = false := Column.isNull_of_encode hCell
      rw [Option.filter_some_pos (by simp [hNull])]
      refine .cell ?_ hRead
      rw [hFound, stored?_of_encode hValue hCell]

end Storing

section Matching

/-- The attribute of a key column holds a text that starts as the column asks. -/
theorem Complete.find?_of_key (hComplete : schema.Complete values) (hSeparate : schema.Separate)
    (hRow : schema.encode values = .ok row) (hMem : column ∈ schema.keyColumns) :
    ∃ text, row.find? column.attributeName = some (.string text) ∧
      Text.startsWith text column.leadText = true := by
  obtain ⟨text, hValue, hFilled, hStarts⟩ := hComplete.keys column hMem
  refine ⟨text, ?_, hStarts⟩
  rw [hSeparate.find?_of_encode hRow (List.mem_append_left _ hMem),
    stored?_of_encode hValue (encode_string (hSeparate.keys column hMem) hFilled)]

/-- An attribute that no column is stored under is not in the row. -/
theorem find?_of_encode_eq_none (hRow : schema.encode values = .ok row) {name : String}
    (hName : ∀ column ∈ schema.fields, column.attributeName ≠ name) : row.find? name = none := by
  rw [find?_of_foldlM_encodeColumn_of_untouched hRow hName, NameMap.find?_empty]

theorem knows_of_mem_fields (hMem : column ∈ schema.fields) :
    schema.knows column.attributeName = true := by
  rcases List.mem_append.mp hMem with hKey | hOther
  · exact knows_of_mem_keyColumns hKey
  · exact knows_of_mem hOther

theorem knows_of_mem_names (hRow : schema.encode values = .ok row) {name : String}
    (hName : name ∈ row.names) : schema.knows name = true := by
  obtain ⟨cell, hFound⟩ := NameMap.exists_find?_of_mem_names hName
  by_contra hUnknown
  have hOther : ∀ column ∈ schema.fields, column.attributeName ≠ name := by
    rintro column hMem rfl
    exact hUnknown (knows_of_mem_fields hMem)
  rw [find?_of_encode_eq_none hRow hOther] at hFound
  cases hFound

theorem Complete.sortMatches (hComplete : schema.Complete values) (hSeparate : schema.Separate)
    (hRow : schema.encode values = .ok row) : schema.sortMatches row = true := by
  cases hSort : schema.sort with
  | some column =>
    exact (sortMatches_iff_of_sort hSort).mpr
      (hComplete.find?_of_key hSeparate hRow (mem_keyColumns_iff.mpr (Or.inr hSort)))
  | none =>
    refine (sortMatches_iff_of_sortless hSort).mpr fun sort hTable => ?_
    have hNone := find?_of_encode_eq_none hRow fun column hMem hSame =>
      hSeparate.sortless hSort column hMem (by rw [hTable, hSame])
    simp [stringOf?, hNone]

/-- The row of a record is of the kind. -/
theorem Complete.matchesRow (hComplete : schema.Complete values) (hSeparate : schema.Separate)
    (hRow : schema.encode values = .ok row) : schema.matchesRow row = true :=
  matchesRow_iff.mpr
    ⟨partitionMatches_iff.mpr
      (hComplete.find?_of_key hSeparate hRow (mem_keyColumns_iff.mpr (Or.inl rfl))),
    hComplete.sortMatches hSeparate hRow, fun _ => knows_of_mem_names hRow⟩

end Matching

section Reading

/-- A column whose name is not taken is read as it is. -/
theorem decodeUntaken_of_free (hFree : record.find? column.name = none) :
    decodeUntaken row record column = decodeColumn row record column := by
  unfold decodeUntaken NameMap.contains
  rw [hFree]
  rfl

/-- Reading a column whose name is not taken adds what it reads under the name. -/
theorem exists_decodeColumn_of_reads {entry : Option Value} (hReads : Reads row column entry)
    (hComputed : column.computed = false) (hFree : record.find? column.name = none) :
    ∃ next, decodeColumn row record column = .ok next ∧
      ∀ name, next.find? name = if column.name = name then entry else record.find? name := by
  unfold decodeColumn
  rw [if_neg (by simp [hComputed])]
  cases hReads with
  | nothing hNone =>
    rw [hNone]
    refine ⟨record, rfl, fun name => ?_⟩
    split
    · next hSame => rw [← hSame, hFree]
    · rfl
  | cell hCell hValue =>
    rw [hCell]
    refine ⟨_, bind_ok hValue _, fun name => ?_⟩
    rw [NameMap.find?_insert]

/-- A loop over columns whose names are distinct and not taken adds what they read.  Both
loops of the decoder are such loops. -/
theorem exists_foldlM_of_reads {step : Values → Column → Codec.Result Values}
    {entry : String → Option Value}
    (hStep : ∀ record column, record.find? column.name = none →
      step record column = decodeColumn row record column)
    (hNames : (columns.map Column.name).Nodup)
    (hReads : ∀ column ∈ columns, Reads row column (entry column.name))
    (hComputed : ∀ column ∈ columns, column.computed = false)
    (hFree : ∀ column ∈ columns, start.find? column.name = none) :
    ∃ record, columns.foldlM step start = .ok record ∧
      ∀ name, record.find? name =
        if name ∈ columns.map Column.name then entry name else start.find? name := by
  -- a step takes its own name only, so the names of the columns ahead stay free
  induction columns generalizing start with
  | nil => exact ⟨start, rfl, fun name => by simp⟩
  | cons column rest ih =>
    rw [List.map_cons, List.nodup_cons] at hNames
    rw [List.forall_mem_cons] at hReads hComputed hFree
    obtain ⟨next, hNext, hFound⟩ :=
      exists_decodeColumn_of_reads hReads.1 hComputed.1 hFree.1
    have hOthers : ∀ other ∈ rest, column.name ≠ other.name := fun other hMem hSame =>
      hNames.1 (hSame ▸ List.mem_map_of_mem hMem)
    have hRestFree : ∀ other ∈ rest, next.find? other.name = none := by
      intro other hMem
      rw [hFound, if_neg (hOthers other hMem), hFree.2 other hMem]
    obtain ⟨record, hRecord, hRest⟩ := ih hNames.2 hReads.2 hComputed.2 hRestFree
    refine ⟨record, ?_, fun name => ?_⟩
    · rw [List.foldlM_cons, hStep start column hFree.1, bind_ok hNext, hRecord]
    · rw [hRest, hFound]
      by_cases hSame : column.name = name
      · subst hSame
        simp [hNames.1]
      · simp [hSame, Ne.symm hSame]

/-- From the row of a record everything is read that was kept of it. -/
theorem Complete.exists_decodeMatched (hComplete : schema.Complete values)
    (hSeparate : schema.Separate) (hRow : schema.encode values = .ok row) :
    ∃ record, schema.decodeMatched row = .ok record ∧
      ∀ name, record.find? name = schema.kept? values name := by
  have hReads : ∀ column ∈ schema.fields, Reads row column (filled? values column.name) :=
    fun column hMem => hComplete.reads hSeparate hRow hMem
  have hNames := hSeparate.names
  unfold fields at hReads hNames
  rw [List.map_append, List.nodup_append'] at hNames
  obtain ⟨hKeyNames, hOtherNames, hApart⟩ := hNames
  obtain ⟨hKeyReads, hOtherReads⟩ := List.forall_mem_append.mp hReads
  obtain ⟨hKeyRead, hOtherRead⟩ := List.forall_mem_append.mp hSeparate.read
  have hEmpty : ∀ column ∈ schema.keyColumns, (NameMap.empty : Values).find? column.name = none :=
    fun _ _ => rfl
  obtain ⟨keys, hKeys, hKeysFound⟩ := exists_foldlM_of_reads (fun _ _ _ => rfl) hKeyNames
    hKeyReads hKeyRead hEmpty
  -- the names of the key columns are not those of other columns
  have hFree : ∀ column ∈ schema.allColumns, keys.find? column.name = none := by
    intro column hMem
    rw [hKeysFound, if_neg fun hKey => hApart hKey (List.mem_map_of_mem hMem),
      NameMap.find?_empty]
  obtain ⟨record, hRecord, hFound⟩ := exists_foldlM_of_reads
    (fun _ _ => decodeUntaken_of_free) hOtherNames hOtherReads hOtherRead hFree
  refine ⟨record, ?_, fun name => ?_⟩
  · unfold decodeMatched
    rw [bind_ok hKeys, hRecord]
  · unfold kept? fields
    rw [hFound, hKeysFound]
    by_cases hKey : name ∈ schema.keyColumns.map Column.name
    · simp [hKey]
    · by_cases hOther : name ∈ schema.allColumns.map Column.name <;> simp [hKey, hOther]

end Reading

/-- A complete record of a kind whose columns do not interfere can be stored.  Its row is of
the kind, and the record that is read from it has exactly the declared entries of the
record that are not null or empty. -/
theorem record_read_back (hSeparate : schema.Separate) (hComplete : schema.Complete values) :
    ∃ row record, schema.encode values = .ok row ∧ schema.matchesRow row = true ∧
      schema.decode row = .ok (some record) ∧
      ∀ name, record.find? name = schema.kept? values name := by
  obtain ⟨row, hRow⟩ := (exists_foldlM_encodeColumn_eq_ok_iff schema.fields .empty).mpr
    fun column hMem => hComplete.storable hSeparate hMem
  have hMatches := hComplete.matchesRow hSeparate hRow
  obtain ⟨record, hRecord, hFound⟩ := hComplete.exists_decodeMatched hSeparate hRow
  refine ⟨row, record, hRow, hMatches, ?_, hFound⟩
  unfold decode
  rw [if_pos hMatches, hRecord]
  rfl

/-- A kind of record with a renamed column. -/
def parcel : Schema where
  partition := .keyed "sender" .partition "from:"
  sort := some (.keyed "number" .sort "no:")
  columns := [.indexed "receiver" "g1" "", .plain "weight" .integer, .plain "note" .string]

/-- A parcel with an empty note, no known creation and an entry that is not declared. -/
def heavy : Values :=
  .ofList [("sender", .string "from:ada"), ("number", .string "no:7"),
    ("receiver", .string "bob"), ("weight", .integer 30), ("note", .string ""),
    ("created_at", .null), ("colour", .string "red")]

theorem separate_parcel : parcel.Separate where
  attributes := by decide
  names := by decide
  keys := by decide
  read := by decide
  sortless := nofun

theorem complete_heavy : parcel.Complete heavy where
  keys column hMem := by
    rcases mem_keyColumns_iff.mp hMem with rfl | hSort
    · exact ⟨"from:ada", rfl, by decide, by decide⟩
    · cases hSort
      exact ⟨"no:7", rfl, by decide, by decide⟩
  others column hMem value hValue := by
    have hColumn : column ∈ parcel.columns ++ commonColumns := hMem
    simp only [parcel, commonColumns, List.cons_append, List.nil_append, List.mem_cons,
      List.not_mem_nil, or_false] at hColumn
    rcases hColumn with rfl | rfl | rfl | rfl | rfl | rfl <;> cases hValue
    · exact Or.inr ⟨.string "bob", rfl, rfl⟩
    · exact Or.inr ⟨.number "30", rfl, rfl⟩
    · exact Or.inl rfl
    · exact Or.inl rfl

theorem record_read_back_of_parcel :
    parcel.Separate ∧ parcel.Complete heavy ∧
      ∃ row record, parcel.encode heavy = .ok row ∧ row.find? "g1" = some (.string "bob") ∧
        parcel.decode row = .ok (some record) ∧
        record.find? "receiver" = some (.string "bob") ∧
        record.find? "note" = none ∧ record.find? "colour" = none := by
  obtain ⟨row, record, hRow, -, hRecord, hFound⟩ := record_read_back separate_parcel complete_heavy
  refine ⟨separate_parcel, complete_heavy, row, record, hRow, ?_, hRecord, ?_, ?_, ?_⟩
  · cases hRow
    rfl
  · rw [hFound]
    rfl
  · rw [hFound]
    rfl
  · rw [hFound]
    rfl

end Schema

end SingleTable
