import SingleTable.Proofs.Codec.Stored

/-!
# Tags of what is stored

Whatever value a column stores, the cell has the tag of the column's type, or the tag of
a map if the column has children.
-/

namespace SingleTable

open Outcome

/-- The tag of the cells of a column. -/
def Column.tag (column : Column) : Tag :=
  if column.children.isEmpty then column.type.tag else .map

namespace Codec

variable {type : ColumnType} {value : Value} {cell : Cell}

theorem tag_of_encodeFlat (hCell : encodeFlat value type = .ok cell) :
    cell.tag = type.tag := by
  cases type with
  | boolean =>
    cases hCell
    rfl
  | timestamp =>
    cases value with
    | instant t =>
      cases hCell
      rfl
    | _ =>
      simp only [encodeFlat, map_eq_ok_iff] at hCell
      obtain ⟨_, _, rfl⟩ := hCell
      rfl
  | datetime =>
    cases value with
    | instant t =>
      cases hCell
      rfl
    | string text =>
      simp only [encodeFlat, bind_eq_ok_iff, pure_eq_ok_iff] at hCell
      obtain ⟨t, _, rfl⟩ := hCell
      rfl
    | _ => cases hCell
  | date =>
    cases value with
    | date day =>
      cases hCell
      rfl
    | instant t =>
      cases hCell
      rfl
    | _ => cases hCell
  | float | integer | bytes | string =>
    simp only [encodeFlat, map_eq_ok_iff] at hCell
    obtain ⟨_, _, rfl⟩ := hCell
    rfl
  | stringSet | integerSet | floatSet | binarySet =>
    simp only [encodeFlat, bind_eq_ok_iff, pure_eq_ok_iff] at hCell
    obtain ⟨_, _, _, _, rfl⟩ := hCell
    rfl
  | list | map => cases hCell

/-- No flat cell is a list or a map. -/
theorem flat_of_encodeFlat (hCell : encodeFlat value type = .ok cell) :
    (∀ cells, cell ≠ .list cells) ∧ ∀ entries, cell ≠ .map entries := by
  have hTag := tag_of_encodeFlat hCell
  constructor
  · rintro cells rfl
    cases type <;> cases hTag
    cases hCell
  · rintro entries rfl
    cases type <;> cases hTag
    cases hCell

theorem tag_of_encodeAs (hCell : encodeAs value type = .ok (some cell)) :
    cell.tag = type.tag := by
  cases storedAs_of_encodeAs hCell with
  | list hType _ =>
    rw [hType]
    rfl
  | map hType _ =>
    rw [hType]
    rfl
  | flat _ hFlat => exact tag_of_encodeFlat hFlat

/-- A column with children stores only maps, as a map of what its children store. -/
theorem exists_encodeChildren {column : Column} (hChildren : column.children ≠ [])
    (hCell : column.encode value = .ok (some cell)) :
    ∃ entries cells, value = .map entries ∧
      encodeChildren entries column.children = .ok cells ∧ cell = .map (Entries.ofList cells) := by
  obtain ⟨name, type, key, role, lead, computed, children⟩ := column
  unfold Column.encode at hCell
  cases children with
  | nil => exact absurd rfl hChildren
  | cons child others =>
    cases value with
    | map entries =>
      have hMap : (do return some (Cell.map (Entries.ofList
          (← encodeChildren entries (child :: others))))) =
            (.ok (some cell) : Result (Option Cell)) := by
        rw [← hCell, encode]
        rfl
      simp only [bind_eq_ok_iff, pure_eq_ok_iff, Option.some.injEq] at hMap
      obtain ⟨cells, hCells, rfl⟩ := hMap
      exact ⟨entries, cells, rfl, hCells, rfl⟩
    | _ =>
      rw [encode] at hCell
      · split at hCell <;> cases hCell
      · simp

theorem tag_of_encode {column : Column} (hCell : column.encode value = .ok (some cell)) :
    cell.tag = column.tag := by
  by_cases hChildren : column.children = []
  · obtain ⟨name, type, key, role, lead, computed, children⟩ := column
    cases hChildren
    unfold Column.encode at hCell
    rw [encode] at hCell
    exact tag_of_encodeAs hCell
  · obtain ⟨_, cells, _, _, rfl⟩ := exists_encodeChildren hChildren hCell
    simp [Column.tag, hChildren, Cell.tag]

end Codec

end SingleTable
