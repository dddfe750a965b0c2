import Mathlib.Data.List.Nodup
import SingleTable.Proofs.Codec.Stored
import SingleTable.Proofs.Expression.Application
import SingleTable.Proofs.Row.Key
import SingleTable.Schema

/-!
# Rows of records

What the row of a record holds under each attribute.  Columns are stored one after
another, so of several columns with one attribute the last one counts.
-/

namespace SingleTable.Schema

open Outcome

/-- Every entry of a record for a column can be stored. -/
def Storable (values : Values) (column : Column) : Prop :=
  ∀ value, values.find? column.name = some value → ∃ stored, column.encode value = .ok stored

/-- The cell that a record puts under an attribute by a column. -/
def stored? (values : Values) (name : String) (column : Column) : Option Cell :=
  if column.attributeName = name then do
    let value ← values.find? column.name
    (column.encode value).toOption.join
  else none

variable {values : Values} {column : Column} {columns : List Column} {row next : Item}

theorem stored?_of_ne {name : String} (hNe : column.attributeName ≠ name) :
    stored? values name column = none :=
  if_neg hNe

theorem stored?_of_encode {value : Value} {stored : Option Cell}
    (hValue : values.find? column.name = some value)
    (hStored : column.encode value = .ok stored) :
    stored? values column.attributeName column = stored := by
  simp [stored?, hValue, hStored, Except.toOption]

/-- A cell that a record puts under an attribute comes from an entry of the record. -/
theorem exists_encode_of_stored? {name : String} {cell : Cell}
    (hStored : stored? values name column = some cell) :
    ∃ value, values.find? column.name = some value ∧ column.encode value = .ok (some cell) := by
  unfold stored? at hStored
  split at hStored
  · simp only [Option.bind_eq_bind, Option.bind_eq_some_iff] at hStored
    obtain ⟨value, hValue, hJoin⟩ := hStored
    cases hEncode : column.encode value with
    | error error => simp [hEncode, Except.toOption] at hJoin
    | ok stored =>
      rw [hEncode] at hJoin
      have hCell : stored = some cell := hJoin
      exact ⟨value, hValue, hCell ▸ hEncode⟩
  · cases hStored

/-- What is stored by a column is not the empty string. -/
theorem isBlank_of_stored? {name : String} {cell : Cell}
    (hStored : stored? values name column = some cell) : cell.isBlank = false := by
  obtain ⟨_, _, hEncode⟩ := exists_encode_of_stored? hStored
  exact column.isBlank_of_encode hEncode

theorem find?_of_encodeColumn (hColumn : encodeColumn values row column = .ok next)
    (name : String) : next.find? name = (stored? values name column).or (row.find? name) := by
  unfold encodeColumn at hColumn
  cases hValue : values.find? column.name with
  | none =>
    rw [hValue] at hColumn
    cases hColumn
    simp [stored?, hValue]
  | some value =>
    rw [hValue] at hColumn
    simp only [bind_eq_ok_iff] at hColumn
    obtain ⟨stored, hStored, hNext⟩ := hColumn
    by_cases hName : column.attributeName = name
    · subst hName
      rw [stored?_of_encode hValue hStored]
      cases stored with
      | none =>
        cases hNext
        rfl
      | some cell =>
        cases hNext
        simp
    · rw [stored?_of_ne hName]
      cases stored with
      | none =>
        cases hNext
        rfl
      | some cell =>
        cases hNext
        simp [hName]

/-- What an attribute holds after several columns: what the last one stored there. -/
theorem find?_of_foldlM_encodeColumn (hRow : columns.foldlM (encodeColumn values) row = .ok next)
    (name : String) :
    next.find? name =
      (columns.reverse.findSome? (stored? values name)).or (row.find? name) :=
  @foldlM_writes _ _ _ _ _ (NameMap.find? · name) _ _ _ _
    (fun _ _ _ hStep => find?_of_encodeColumn hStep name) hRow

/-- An attribute that no column is stored under is as it was. -/
theorem find?_of_foldlM_encodeColumn_of_untouched {name : String}
    (hRow : columns.foldlM (encodeColumn values) row = .ok next)
    (hNames : ∀ column ∈ columns, column.attributeName ≠ name) :
    next.find? name = row.find? name := by
  have hNone : columns.reverse.findSome? (stored? values name) = none :=
    List.findSome?_eq_none_iff.mpr fun column hMem =>
      stored?_of_ne (hNames column (List.mem_reverse.mp hMem))
  rw [find?_of_foldlM_encodeColumn hRow, hNone, Option.none_or]

/-- An attribute that a single column is stored under holds what the column stores. -/
theorem find?_of_foldlM_encodeColumn_of_nodup
    (hRow : columns.foldlM (encodeColumn values) row = .ok next)
    (hNodup : (columns.map Column.attributeName).Nodup) (hMem : column ∈ columns) :
    next.find? column.attributeName =
      (stored? values column.attributeName column).or (row.find? column.attributeName) := by
  have hOnly : columns.reverse.findSome? (stored? values column.attributeName) =
      stored? values column.attributeName column := by
    refine findSome?_eq_of_only (List.mem_reverse.mpr hMem) fun other hOther hNe => ?_
    refine stored?_of_ne fun hSame => hNe ?_
    exact List.inj_on_of_nodup_map hNodup (List.mem_reverse.mp hOther) hMem hSame
  rw [find?_of_foldlM_encodeColumn hRow, hOnly]

theorem exists_encodeColumn_eq_ok_iff (row : Item) (column : Column) :
    (∃ next, encodeColumn values row column = .ok next) ↔ Storable values column := by
  unfold encodeColumn Storable
  cases values.find? column.name with
  | none => simp
  | some value =>
    cases hStored : column.encode value with
    | error error => simp [hStored]
    | ok stored => cases stored <;> simp [hStored]

/-- A record can be stored when each of its entries for a column can. -/
theorem exists_foldlM_encodeColumn_eq_ok_iff (columns : List Column) (row : Item) :
    (∃ next, columns.foldlM (encodeColumn values) row = .ok next) ↔
      ∀ column ∈ columns, Storable values column :=
  exists_foldlM_eq_ok_iff exists_encodeColumn_eq_ok_iff columns row

/-- An attribute that columns put key texts under has a key text. -/
theorem exists_keyText?_of_foldlM_encodeColumn {name : String}
    (hRow : columns.foldlM (encodeColumn values) row = .ok next)
    (hSome : ∃ column ∈ columns, column.attributeName = name)
    (hTexts : ∀ column ∈ columns, ∃ cell text,
      stored? values column.attributeName column = some cell ∧
        cell.text? = some text ∧ text ≠ "") :
    ∃ text, next.keyText? name = some text := by
  -- the cell may come from another column than the one at hand, but from one of them
  have hFound : ∃ column ∈ columns.reverse, (stored? values name column).isSome = true := by
    obtain ⟨column, hMem, rfl⟩ := hSome
    obtain ⟨cell, _, hCell, _⟩ := hTexts column hMem
    exact ⟨column, List.mem_reverse.mpr hMem, by simp [hCell]⟩
  obtain ⟨cell, hCell⟩ := Option.isSome_iff_exists.mp (List.findSome?_isSome_iff.mpr hFound)
  obtain ⟨column, hMem, hStored⟩ := List.exists_of_findSome?_eq_some hCell
  have hName : column.attributeName = name := by
    by_contra hOther
    rw [stored?_of_ne hOther] at hStored
    cases hStored
  subst hName
  obtain ⟨other, text, hOther, hText, hFilled⟩ := hTexts column (List.mem_reverse.mp hMem)
  rw [hStored, Option.some.injEq] at hOther
  subst hOther
  refine ⟨text, Item.keyText?_eq_some_iff.mpr ⟨cell, ?_, hText, hFilled⟩⟩
  rw [find?_of_foldlM_encodeColumn hRow, hCell]
  rfl

end SingleTable.Schema
