import SingleTable.Proofs.Schema.Matching
import SingleTable.Proofs.Table.Keyed

/-!
# Kinds without a sort column

Every row of a table with a sort attribute has a sort text, which is that of a string or
of a number.  A kind of record without a sort column is not meant to take rows that have
one, but it reads strings only.  So among the stored rows it takes exactly those with a
number under the sort attribute, provided that the rest of the row is as the kind asks.
-/

namespace SingleTable

open Outcome

namespace Schema

variable {schema : Schema} {row : Item} {sort : String}

/-- The row has a number under the sort attribute; its partition text starts as the kind
asks, and the kind knows all its attributes. -/
structure TakesNumbered (schema : Schema) (sort : String) (row : Item) : Prop where
  numbered : ∃ digits, row.find? sort = some (.number digits)
  lead : ∃ text, row.find? schema.partition.attributeName = some (.string text) ∧
    Text.startsWith text schema.partition.leadText = true
  known : ∀ name ∈ row.names, schema.knows name = true

/-- A row that is not of the kind has no record, and one of the kind has a record or
cannot be decoded. -/
theorem decode_eq_none_iff : schema.decode row = .ok none ↔ schema.matchesRow row = false := by
  unfold decode
  cases schema.matchesRow row with
  | false => simp
  | true => simp

/-- There are no records of the kind exactly where no row is of the kind. -/
theorem exists_no_records_iff {rows : List Item} :
    (∃ records, rows.mapM schema.decode = .ok records ∧ records.filterMap id = []) ↔
      ∀ row ∈ rows, schema.matchesRow row = false := by
  induction rows with
  | nil => simp
  | cons row rest ih =>
    rw [List.forall_mem_cons, ← ih, ← decode_eq_none_iff]
    simp only [List.mapM_cons, bind_eq_ok_iff, pure_eq_ok_iff]
    constructor
    · rintro ⟨_, ⟨record, hRow, others, hRest, rfl⟩, hNone⟩
      cases record with
      | some values => cases hNone
      | none => exact ⟨hRow, others, hRest, hNone⟩
    · rintro ⟨hRow, others, hRest, hNone⟩
      exact ⟨none :: others, ⟨none, hRow, others, hRest, rfl⟩, hNone⟩

end Schema

namespace Table

variable {table : Table} {schema : Schema} {row : Item} {sort : String}

theorem allRecords_eq_nil_iff :
    table.allRecords schema = .ok [] ↔ ∀ row ∈ table.items, schema.matchesRow row = false := by
  have hAll : table.items.filter (·.fits .empty) = table.items :=
    List.filter_eq_self.mpr fun row _ => row.fits_empty
  rw [← Schema.exists_no_records_iff]
  unfold allRecords findRecords
  rw [hAll, bind_eq_ok_iff]
  simp only [pure_eq_ok_iff]

/-- Every stored row has a string or a number under the sort attribute. -/
theorem Keyed.sort_cell (hKeyed : table.Keyed) (hSort : table.layout.sort = some sort)
    (hRow : row ∈ table.items) :
    ∃ text, text ≠ "" ∧
      (row.find? sort = some (.string text) ∨ row.find? sort = some (.number text)) := by
  obtain ⟨key, hKey, _⟩ := hKeyed.get?_primaryKey hRow
  rw [primaryKey_eq_ok_iff, Item.keyFor?_eq_some_iff_keyTexts] at hKey
  obtain ⟨text, hText⟩ := Option.isSome_iff_exists.mp (hKey.2.1 sort hSort)
  obtain ⟨cell, hCell, hPayload, hFilled⟩ := Item.keyText?_eq_some_iff.mp hText
  refine ⟨text, hFilled, ?_⟩
  cases cell with
  | string content =>
    cases hPayload
    exact Or.inl hCell
  | number digits =>
    cases hPayload
    exact Or.inr hCell
  | _ => cases hPayload

/-- Of the stored rows, a kind without a sort column takes those with a number there. -/
theorem Keyed.matchesRow_iff (hKeyed : table.Keyed) (hSort : table.layout.sort = some sort)
    (hSchema : schema.sort = none) (hTable : schema.tableSort = some sort)
    (hRow : row ∈ table.items) :
    schema.matchesRow row = true ↔ schema.TakesNumbered sort row := by
  have hNumbered : Schema.stringOf? row sort = none ↔
      ∃ digits, row.find? sort = some (.number digits) := by
    obtain ⟨text, _, hString | hNumber⟩ := hKeyed.sort_cell hSort hRow
    · rw [Schema.stringOf?_eq_some_iff.mpr hString]
      simp [hString]
    · simp [Schema.stringOf?, hNumber, Cell.string?]
  rw [Schema.matchesRow_iff, Schema.partitionMatches_iff,
    Schema.sortMatches_iff_of_sortless hSchema]
  simp only [hTable, Option.some.injEq, forall_eq', hNumbered]
  constructor
  · rintro ⟨hLead, hNumber, hKnown⟩
    exact ⟨hNumber, hLead, hKnown⟩
  · rintro ⟨hNumber, hLead, hKnown⟩
    exact ⟨hLead, hNumber, hKnown⟩

/-- After every history of a table with a sort attribute, each stored row has a string or a
number there that is not empty.  A kind without a sort column, bound to the table, takes
a stored row exactly if there is a number and the rest of the row is as the kind asks.
Only for such rows can it be the first kind that matches, and it has no records in the
table exactly if no stored row is one. -/
theorem sortless_kind_takes_numbered_rows {layout : Layout} {sort : String}
    (hSort : layout.sort = some sort) (writes : List Write) {schema : Schema}
    (hSchema : schema.sort = none) :
    let table := (empty layout).run writes
    let kind := schema.bind layout
    (∀ row ∈ table.items,
      (∃ text, text ≠ "" ∧
        (row.find? sort = some (.string text) ∨ row.find? sort = some (.number text))) ∧
      (kind.matchesRow row = true ↔ kind.TakesNumbered sort row) ∧
      ((∃ candidates, Schema.firstMatch? candidates row = some kind) ↔
        kind.TakesNumbered sort row)) ∧
    (table.allRecords kind = .ok [] ↔ ∀ row ∈ table.items, ¬kind.TakesNumbered sort row) := by
  intro table kind
  have hKeyed : table.Keyed := keyed_run layout writes
  have hLayout : table.layout.sort = some sort := by rw [layout_run, hSort]
  have hKind : kind.sort = none := by simp [kind, Schema.bind, hSchema]
  have hTakes : ∀ row ∈ table.items,
      (kind.matchesRow row = true ↔ kind.TakesNumbered sort row) :=
    fun row hRow => hKeyed.matchesRow_iff hLayout hKind hSort hRow
  constructor
  · intro row hRow
    refine ⟨hKeyed.sort_cell hLayout hRow, hTakes row hRow, ?_⟩
    rw [← hTakes row hRow]
    constructor
    · rintro ⟨candidates, hFirst⟩
      have hPicked := List.find?_some hFirst
      exact hPicked
    · intro hMatches
      exact ⟨[kind], by simp [Schema.firstMatch?, hMatches]⟩
  · rw [allRecords_eq_nil_iff]
    refine forall₂_congr fun row hRow => ?_
    rw [← hTakes row hRow, Bool.not_eq_true]

end Table

/-- A kind of record with a partition column only. -/
def Schema.visit : Schema where
  partition := .keyed "visitor" .partition "visit:"
  sort := none
  columns := []

namespace Table

/-- A row with a number under the sort attribute. -/
def numberedVisit : Item :=
  .ofList [("pk", .string "visit:a"), ("sk", .number "1")]

/-- A row with a string there. -/
def namedVisit : Item :=
  .ofList [("pk", .string "visit:a"), ("sk", .string "b")]

/-- The kind takes the row with the number and not the other one. -/
theorem sortless_kind_takes_numbered_rows_of_visits :
    let table := (empty {}).run [.addRow numberedVisit, .addRow namedVisit]
    let kind := Schema.visit.bind {}
    ((({} : Layout).sort = some "sk") ∧ Schema.visit.sort = none) ∧
      table.items = [numberedVisit, namedVisit] ∧
      kind.matchesRow numberedVisit = true ∧ kind.matchesRow namedVisit = false ∧
      table.allRecords kind ≠ .ok [] := by
  intro table kind
  have hItems : table.items = [numberedVisit, namedVisit] := rfl
  have hKind := @sortless_kind_takes_numbered_rows {} "sk" rfl
    [.addRow numberedVisit, .addRow namedVisit] Schema.visit rfl
  have hNumbered : kind.TakesNumbered "sk" numberedVisit :=
    ⟨⟨"1", rfl⟩, ⟨"visit:a", rfl, by decide⟩, by decide⟩
  have hNamed : ¬kind.TakesNumbered "sk" namedVisit := by
    rintro ⟨⟨digits, hDigits⟩, _, _⟩
    cases hDigits
  refine ⟨⟨rfl, rfl⟩, hItems, ?_, ?_, ?_⟩
  · exact (hKind.1 numberedVisit (by rw [hItems]; simp)).2.1.mpr hNumbered
  · rw [← Bool.not_eq_true, (hKind.1 namedVisit (by rw [hItems]; simp)).2.1]
    exact hNamed
  · rw [Ne, hKind.2]
    exact fun hNone => hNone numberedVisit (by rw [hItems]; simp) hNumbered

/-- A kind without a sort column has a record although every stored row has a sort text. -/
theorem numbered_row_taken_without_sort_column :
    ¬∀ (layout : Layout) (sort : String) (writes : List Write) (schema : Schema),
      layout.sort = some sort → schema.sort = none →
      (∀ row ∈ ((empty layout).run writes).items, (schema.bind layout).matchesRow row = false) ∧
        ((empty layout).run writes).allRecords (schema.bind layout) = .ok [] := by
  intro hAlways
  have hNone := (hAlways {} "sk" [.addRow numberedVisit] Schema.visit rfl rfl).1 numberedVisit
    (by decide)
  have hTaken : (Schema.visit.bind {}).matchesRow numberedVisit = true := by decide
  rw [hTaken] at hNone
  exact Bool.noConfusion hNone

end Table

end SingleTable
