import SingleTable.Schema

/-!
# Rows of a kind

When a row matches a schema.  Its partition text starts as the kind asks.  So does its
sort text if the kind has a sort column, and if not there is no string under the table's
sort attribute.  All attributes of the row are known to the kind.  A kind is found first in a
list if no other one of the list matches.
-/

namespace SingleTable.Schema

variable {schema : Schema} {row : Item} {column : Column}

theorem mem_keyColumns_iff :
    column ∈ schema.keyColumns ↔ column = schema.partition ∨ schema.sort = some column := by
  simp [keyColumns, Option.mem_toList]

theorem knows_of_mem (hMem : column ∈ schema.allColumns) :
    schema.knows column.attributeName = true := by
  unfold knows
  rw [Bool.or_eq_true]
  exact Or.inr (List.any_eq_true.mpr ⟨column, hMem, by simp⟩)

theorem knows_of_mem_keyColumns (hMem : column ∈ schema.keyColumns) :
    schema.knows column.attributeName = true := by
  unfold knows sortName?
  rcases mem_keyColumns_iff.mp hMem with rfl | hSort
  · simp
  · simp [hSort]

theorem stringOf?_eq_some_iff {name text : String} :
    stringOf? row name = some text ↔ row.find? name = some (.string text) := by
  unfold stringOf?
  rw [Option.bind_eq_some_iff]
  constructor
  · rintro ⟨cell, hCell, hString⟩
    cases cell with
    | string content =>
      cases hString
      exact hCell
    | _ => cases hString
  · exact fun hCell => ⟨_, hCell, rfl⟩

theorem partitionMatches_iff :
    schema.partitionMatches row = true ↔
      ∃ text, row.find? schema.partition.attributeName = some (.string text) ∧
        Text.startsWith text schema.partition.leadText = true := by
  simp only [← stringOf?_eq_some_iff]
  unfold partitionMatches
  cases stringOf? row schema.partition.attributeName <;> simp

/-- A kind with a sort column asks that its sort text starts as it should. -/
theorem sortMatches_iff_of_sort (hSort : schema.sort = some column) :
    schema.sortMatches row = true ↔
      ∃ text, row.find? column.attributeName = some (.string text) ∧
        Text.startsWith text column.leadText = true := by
  simp only [← stringOf?_eq_some_iff]
  unfold sortMatches sortName?
  rw [hSort]
  cases hString : stringOf? row column.attributeName <;> simp [hString]

/-- A kind without a sort column asks that there is no string under the table's sort
attribute. -/
theorem sortMatches_iff_of_sortless (hSort : schema.sort = none) :
    schema.sortMatches row = true ↔
      ∀ sort, schema.tableSort = some sort → stringOf? row sort = none := by
  unfold sortMatches sortName?
  rw [hSort]
  cases schema.tableSort with
  | none => simp
  | some sort => cases hString : stringOf? row sort <;> simp [hString]

theorem matchesRow_iff :
    schema.matchesRow row = true ↔
      schema.partitionMatches row = true ∧ schema.sortMatches row = true ∧
        ∀ name ∈ row.names, schema.knows name = true := by
  unfold matchesRow
  rw [Bool.and_eq_true, Bool.and_eq_true, List.all_eq_true, and_assoc]

/-- A record of a kind has a partition text that starts as the kind's does. -/
theorem startsWith_of_matchesRow {text : String} (hMatches : schema.matchesRow row = true)
    (hText : row.find? schema.partition.attributeName = some (.string text)) :
    Text.startsWith text schema.partition.leadText = true := by
  obtain ⟨found, hFound, hStarts⟩ := partitionMatches_iff.mp (matchesRow_iff.mp hMatches).1
  rw [hText, Option.some.injEq, Cell.string.injEq] at hFound
  rwa [hFound]

/-- The only kind that matches is found first in every list of kinds that has it. -/
theorem firstMatch?_eq_some_of_only {candidates : List Schema} (hMem : schema ∈ candidates)
    (hOnly : ∀ other ∈ candidates, other.matchesRow row = true ↔ other = schema) :
    firstMatch? candidates row = some schema := by
  unfold firstMatch?
  cases hFind : candidates.find? (·.matchesRow row) with
  | none =>
    have hNone := List.find?_eq_none.mp hFind schema hMem
    exact absurd ((hOnly schema hMem).mpr rfl) hNone
  | some found =>
    have hFound := (hOnly found (List.mem_of_find?_eq_some hFind)).mp
      (List.find?_eq_some_iff_append.mp hFind).1
    rw [hFound]

end SingleTable.Schema
