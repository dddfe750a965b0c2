import SingleTable.Codec.Encode
import SingleTable.Proofs.Outcome

/-!
# What is stored for a value

Nothing is stored exactly for null and the empty string, and what is stored is never
the empty string: the text of a number, a date or an instant always has a character.
-/

namespace SingleTable

open Outcome

namespace Number

theorem intDigits_ne_nil (i : Int) : intDigits i ≠ [] := by
  cases i with
  | ofNat n => exact Nat.toDigits_ne_nil
  | negSucc n => exact List.cons_ne_nil _ _

theorem intText_ne_empty (i : Int) : intText i ≠ "" := by
  unfold intText
  rw [Ne, String.ofList_eq_empty_iff]
  exact intDigits_ne_nil i

end Number

namespace DecimalLayout

theorem positional_ne_nil (d : DecimalDigits) : positional d ≠ [] := by
  unfold positional
  split
  · simp
  · simp only
    split <;> simp

theorem scientific_ne_nil (d : DecimalDigits) : scientific d ≠ [] := by
  simp [scientific]

theorem magnitude_ne_nil (layout : DecimalLayout) (size : Magnitude) :
    layout.magnitude size ≠ [] := by
  unfold magnitude
  split
  · decide
  · simp only
    split
    · exact positional_ne_nil _
    · exact scientific_ne_nil _

end DecimalLayout

theorem Double.text_ne_empty (x : Double) : x.text ≠ "" := by
  unfold text
  rw [Ne, String.ofList_eq_empty_iff]
  cases x with
  | nan => decide
  | infinite negative => cases negative <;> decide
  | finite negative size =>
    intro hNone
    exact plainLayout.magnitude_ne_nil size (List.append_eq_nil_iff.mp hNone).2

theorem Calendar.civilText_ne_nil (year : Int) (month day : Nat) :
    civilText year month day ≠ [] := by
  simp [civilText]

theorem Date.text_ne_empty (date : Date) : date.text ≠ "" := by
  unfold text
  rw [Ne, String.ofList_eq_empty_iff]
  exact Calendar.civilText_ne_nil _ _ _

theorem Instant.text_ne_empty (t : Instant) : t.text ≠ "" := by
  unfold text
  rw [Ne, String.ofList_eq_empty_iff]
  simp

namespace Codec

variable {type : ColumnType} {value : Value} {cell : Cell}

/-- The text of a value that is stored is not empty. -/
theorem plainText_ne_empty {text : String} (hText : plainText type value = .ok text)
    (hValue : value.isNull = false) : text ≠ "" := by
  cases value with
  | string content =>
    cases hText
    simpa using hValue
  | integer n =>
    cases hText
    exact Number.intText_ne_empty _
  | float x =>
    simp only [plainText, bind_eq_ok_iff, pure_eq_ok_iff] at hText
    obtain ⟨y, _, rfl⟩ := hText
    exact y.text_ne_empty
  | bool value =>
    cases hText
    cases value <;> decide
  | date day =>
    cases hText
    exact day.text_ne_empty
  | instant t =>
    cases hText
    exact t.text_ne_empty
  | _ => simp [plainText] at hText

/-- A flat cell is not the empty string. -/
theorem isBlank_of_encodeFlat (hCell : encodeFlat value type = .ok cell)
    (hValue : value.isNull = false) : cell.isBlank = false := by
  have hText : ∀ text : String, text ≠ "" → (Cell.string text).isBlank = false := by
    intro text hFilled
    simpa using hFilled
  cases type with
  | string =>
    simp only [encodeFlat, map_eq_ok_iff] at hCell
    obtain ⟨text, hPlain, rfl⟩ := hCell
    exact hText text (plainText_ne_empty hPlain hValue)
  | date =>
    cases value with
    | date day =>
      cases hCell
      exact hText _ day.text_ne_empty
    | instant t =>
      cases hCell
      refine hText _ ?_
      rw [Ne, String.ofList_eq_empty_iff]
      exact Calendar.civilText_ne_nil _ _ _
    | _ => simp [encodeFlat] at hCell
  | datetime =>
    cases value with
    | instant t =>
      cases hCell
      exact hText _ t.text_ne_empty
    | string text =>
      simp only [encodeFlat, bind_eq_ok_iff, pure_eq_ok_iff] at hCell
      obtain ⟨t, _, rfl⟩ := hCell
      exact hText _ t.text_ne_empty
    | _ => simp [encodeFlat] at hCell
  | boolean =>
    cases hCell
    rfl
  | timestamp =>
    cases value with
    | instant t =>
      cases hCell
      rfl
    | _ =>
      simp only [encodeFlat, map_eq_ok_iff] at hCell
      obtain ⟨_, _, rfl⟩ := hCell
      rfl
  | float | integer | bytes =>
    simp only [encodeFlat, map_eq_ok_iff] at hCell
    obtain ⟨_, _, rfl⟩ := hCell
    rfl
  | stringSet | integerSet | floatSet | binarySet =>
    simp only [encodeFlat, bind_eq_ok_iff, pure_eq_ok_iff] at hCell
    obtain ⟨_, _, _, _, rfl⟩ := hCell
    rfl
  | list | map => cases hCell

theorem encodeAs_list (items : List Value) :
    encodeAs (.list items) .list = (do return some (.list (← encodeItems items))) := rfl

theorem encodeAs_map (entries : List (String × Value)) :
    encodeAs (.map entries) .map = (do return some (.map (← encodeEntries entries))) := rfl

/-- Null and the empty string are not stored under any type. -/
theorem encodeAs_of_isNull (hNull : value.isNull = true) (type : ColumnType) :
    encodeAs value type = .ok none := by
  rw [encodeAs]
  · rw [if_pos hNull]
  · rintro items rfl
    cases hNull
  · rintro entries rfl
    cases hNull

/-- The cell of the first item, if it has one, stands in front of those of the others. -/
theorem encodeItems_cons (item : Value) (rest : List Value) :
    encodeItems (item :: rest) = (do
      let cell? ← encodeAs item (.ofValue item)
      let cells ← encodeItems rest
      return cell?.toList ++ cells) := by
  rw [encodeItems]
  cases encodeAs item (.ofValue item) with
  | error error => rfl
  | ok cell? => cases cell? <;> rfl

theorem encodeEntries_cons (name : String) (value : Value) (rest : List (String × Value)) :
    encodeEntries ((name, value) :: rest) = (do
      let cell? ← encodeAs value (.ofValue value)
      let entries ← encodeEntries rest
      return (cell?.map (Prod.mk name)).toList ++ entries) := by
  rw [encodeEntries]
  cases encodeAs value (.ofValue value) with
  | error error => rfl
  | ok cell? => cases cell? <;> rfl

/-- Nothing is stored for null, and something other than the empty string for any other
value. -/
def Fills (value : Value) (stored : Option Cell) : Prop :=
  if value.isNull then stored = none else ∃ cell, stored = some cell ∧ cell.isBlank = false

/-- How a value is stored under a type, without regard to declared children: not at all, as
a container of its own kind, or flat. -/
inductive StoredAs (type : ColumnType) : Value → Option Cell → Prop where
  | omitted {value : Value} (hNull : value.isNull = true) : StoredAs type value none
  | list {items : List Value} {cells : List Cell} (hType : type = .list)
    (hCells : encodeItems items = .ok cells) :
    StoredAs type (.list items) (some (.list cells))
  | map {entries : List (String × Value)} {cells : List (String × Cell)} (hType : type = .map)
    (hCells : encodeEntries entries = .ok cells) :
    StoredAs type (.map entries) (some (.map cells))
  | flat {value : Value} {cell : Cell} (hFilled : value.isNull = false)
    (hCell : encodeFlat value type = .ok cell) : StoredAs type value (some cell)

theorem storedAs_of_encodeFlat {stored : Option Cell} (hFilled : value.isNull = false)
    (hStored : (do return some (← encodeFlat value type)) = (.ok stored : Result (Option Cell))) :
    StoredAs type value stored := by
  simp only [bind_eq_ok_iff, pure_eq_ok_iff] at hStored
  obtain ⟨cell, hCell, rfl⟩ := hStored
  exact .flat hFilled hCell

theorem storedAs_of_encodeAs {stored : Option Cell} (hStored : encodeAs value type = .ok stored) :
    StoredAs type value stored := by
  have hScalar : ∀ value : Value, (if value.isNull then .ok none
      else do return some (← encodeFlat value type)) = (.ok stored : Result (Option Cell)) →
      StoredAs type value stored := by
    intro value hOk
    cases hNull : value.isNull with
    | true =>
      rw [hNull] at hOk
      cases hOk
      exact .omitted hNull
    | false =>
      rw [hNull] at hOk
      exact storedAs_of_encodeFlat hNull hOk
  -- lists and maps are stored as such only under their own types
  cases value with
  | list items =>
    rw [encodeAs] at hStored
    split at hStored
    · next hType =>
      simp only [bind_eq_ok_iff, pure_eq_ok_iff] at hStored
      obtain ⟨cells, hCells, rfl⟩ := hStored
      exact .list hType hCells
    · exact storedAs_of_encodeFlat rfl hStored
  | map entries =>
    rw [encodeAs] at hStored
    split at hStored
    · next hType =>
      simp only [bind_eq_ok_iff, pure_eq_ok_iff] at hStored
      obtain ⟨cells, hCells, rfl⟩ := hStored
      exact .map hType hCells
    · exact storedAs_of_encodeFlat rfl hStored
  | _ =>
    rw [encodeAs] at hStored
    · exact hScalar _ hStored
    · simp
    · simp

theorem fills_of_encodeAs {stored : Option Cell} (hStored : encodeAs value type = .ok stored) :
    Fills value stored := by
  unfold Fills
  cases storedAs_of_encodeAs hStored with
  | omitted hNull => rw [if_pos hNull]
  | list _ _ => exact ⟨_, rfl, rfl⟩
  | map _ _ => exact ⟨_, rfl, rfl⟩
  | flat hFilled hCell =>
    rw [if_neg (by simp [hFilled])]
    exact ⟨_, rfl, isBlank_of_encodeFlat hCell hFilled⟩

theorem fills_of_encode {column : Column} {stored : Option Cell}
    (hStored : column.encode value = .ok stored) : Fills value stored := by
  obtain ⟨name, type, key, role, lead, computed, children⟩ := column
  unfold Column.encode at hStored
  cases children with
  | nil =>
    rw [encode] at hStored
    exact fills_of_encodeAs hStored
  | cons child others =>
    cases hNull : value.isNull with
    | true =>
      rw [encode] at hStored
      · simp only [hNull, ↓reduceIte, Except.ok.injEq] at hStored
        simp [Fills, hNull, ← hStored]
      · rintro entries rfl
        cases hNull
    | false =>
      cases value with
      | map entries =>
        rw [encode] at hStored
        have hSome : (do return some (Cell.map (Entries.ofList
            (← encodeChildren entries (child :: others))))) =
              (.ok stored : Result (Option Cell)) := hStored
        simp only [bind_eq_ok_iff, pure_eq_ok_iff] at hSome
        obtain ⟨cells, _, rfl⟩ := hSome
        exact ⟨_, rfl, rfl⟩
      | _ => simp [encode, hNull] at hStored

end Codec

namespace Column

variable {column : Column} {value : Value}

/-- Nothing is stored exactly for null and the empty string. -/
theorem isNull_of_encode {stored : Option Cell} (hStored : column.encode value = .ok stored) :
    value.isNull = stored.isNone := by
  have hFills := Codec.fills_of_encode hStored
  unfold Codec.Fills at hFills
  split at hFills
  · next hNull => simp [hNull, hFills]
  · next hFilled =>
    obtain ⟨cell, rfl, _⟩ := hFills
    simpa using hFilled

/-- Null and the empty string can be stored by every column, as nothing. -/
theorem encode_of_isNull (hNull : value.isNull = true) : column.encode value = .ok none := by
  obtain ⟨name, type, key, role, lead, computed, children⟩ := column
  unfold Column.encode
  cases children with
  | nil => exact Codec.encodeAs_of_isNull hNull type
  | cons child others =>
    rw [Codec.encode]
    · rw [if_pos hNull]
    · rintro entries rfl
      cases hNull

/-- What is stored is not the empty string. -/
theorem isBlank_of_encode {cell : Cell} (hStored : column.encode value = .ok (some cell)) :
    cell.isBlank = false := by
  have hFills := Codec.fills_of_encode hStored
  unfold Codec.Fills at hFills
  split at hFills
  · cases hFills
  · obtain ⟨stored, hCell, hBlank⟩ := hFills
    cases hCell
    exact hBlank

end Column

end SingleTable
