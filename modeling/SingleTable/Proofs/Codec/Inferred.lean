import SingleTable.Proofs.Cell.Parts
import SingleTable.Proofs.Codec.RoundTrip
import SingleTable.Row.Basic

/-!
# Cells that can be read without a declared type

A cell is read by the type that it implies.  This fails exactly when some number in the
cell, at any depth, is not the text of a finite float, and then it fails on the first such
number.  The type of a number is chosen by its text as it stands, while white space around
it is ignored when it is read; as an integer is also a float and has no white space in it,
the chosen type always fits.
-/

namespace SingleTable

open Outcome Codec

namespace Codec

/-- Without the white space around it, the text is that of a finite float. -/
def isFloatText (text : String) : Bool :=
  (Double.ofText? (Text.trim text.toList)).any Double.isFinite

/-- Why a text cannot be read as a finite float, if it cannot. -/
def refusalOf? (text : String) : Option CodecError :=
  if isFloatText text then none else some (.invalidNumber text)

/-- Why the first of the texts that cannot be read as finite floats cannot. -/
def refusal? (texts : List String) : Option CodecError :=
  texts.findSome? refusalOf?

theorem refusal?_append (texts others : List String) :
    refusal? (texts ++ others) = (refusal? texts).or (refusal? others) :=
  List.findSome?_append

theorem refusal?_eq_none_iff {texts : List String} :
    refusal? texts = none ↔ ∀ text ∈ texts, isFloatText text = true := by
  simp [refusal?, refusalOf?]

theorem exists_of_refusal?_eq_some {texts : List String} {error : CodecError}
    (hRefusal : refusal? texts = some error) :
    ∃ text ∈ texts, isFloatText text = false ∧ error = .invalidNumber text := by
  obtain ⟨text, hMem, hError⟩ := List.exists_of_findSome?_eq_some hRefusal
  unfold refusalOf? at hError
  split at hError
  · cases hError
  · next hText =>
    cases hError
    exact ⟨text, hMem, by simpa using hText, rfl⟩

section Texts

variable {text : String} {texts : List String}

theorem failure?_readFloat (text : String) : failure? (readFloat text) = refusalOf? text := by
  unfold readFloat refusalOf? isFloatText
  cases Double.ofText? (Text.trim text.toList) with
  | none => rfl
  | some x => cases hFinite : x.isFinite <;> simp [Option.filter, hFinite, orError, failure?]

/-- The text of an integer is read as one, and is also that of a finite float. -/
theorem exists_readInteger_of_isIntegerText (hText : ColumnType.isIntegerText text = true) :
    (∃ n, readInteger text = .ok n) ∧ isFloatText text = true := by
  obtain ⟨n, hRead⟩ := Option.isSome_iff_exists.mp hText
  obtain ⟨i, hInt, _⟩ := Number.readInt?_of_readInt64? hRead
  have hTrim : Text.trim text.toList = text.toList :=
    Text.trim_eq_self (Number.isSpace_of_readInt? hInt)
  obtain ⟨x, hFloat, hFinite⟩ := Double.exists_ofText?_of_readInt64? hRead
  constructor
  · unfold readInteger
    rw [hTrim, hRead]
    exact ⟨n, rfl⟩
  · unfold isFloatText
    rw [hTrim, hFloat]
    exact hFinite

/-- Whichever of the two types a number implies, it is read exactly if it is a finite float. -/
theorem failure?_number (text : String) :
    failure? (decodeInferred (.number text)) = refusalOf? text := by
  show failure? (decodeFlat (.number text) (.ofCell (.number text))) = _
  rw [ColumnType.ofCell]
  split
  · next hText =>
    obtain ⟨⟨n, hRead⟩, hFloat⟩ := exists_readInteger_of_isIntegerText hText
    rw [decodeFlat, failure?_map, hRead, refusalOf?, if_pos hFloat]
    rfl
  · rw [decodeFlat, failure?_map, failure?_readFloat]

theorem failure?_numberSet (texts : List String) :
    failure? (decodeInferred (.numberSet texts)) = refusal? texts := by
  show failure? (decodeFlat (.numberSet texts) (.ofCell (.numberSet texts))) = _
  rw [ColumnType.ofCell]
  split
  · next hAll =>
    have hEach := fun text hMem =>
      exists_readInteger_of_isIntegerText (List.all_eq_true.mp hAll text hMem)
    have hFloats : refusal? texts = none :=
      refusal?_eq_none_iff.mpr fun text hMem => (hEach text hMem).2
    rw [decodeFlat, failure?_map, failure?_mapM, hFloats, List.findSome?_eq_none_iff]
    exact fun text hMem => failure?_eq_none_iff.mpr (hEach text hMem).1
  · rw [decodeFlat, failure?_map, failure?_mapM]
    simp only [failure?_readFloat]
    rfl

end Texts

mutual

/-- A cell is refused because of its first number that is not a finite float. -/
theorem failure?_decodeInferred : (cell : Cell) →
    failure? (decodeInferred cell) = refusal? cell.numbers
  | .string text => by
    show failure? (if (Cell.string text).isBlank then _ else _) = _
    split <;> rfl
  | .number text => by
    rw [failure?_number, Cell.numbers_number, refusal?, List.findSome?_singleton]
  | .numberSet texts => by rw [failure?_numberSet, Cell.numbers_numberSet]
  | .bool _ | .binary _ | .stringSet _ | .binarySet _ => rfl
  | .list cells => by
    rw [Cell.numbers_list, ← failure?_decodeItems cells]
    exact failure?_map (decodeItems cells) Value.list
  | .map entries => by
    rw [Cell.numbers_map, ← failure?_decodeEntries entries]
    exact failure?_map (decodeEntries entries) Value.map

theorem failure?_decodeItems : (cells : List Cell) →
    failure? (decodeItems cells) = refusal? (cells.flatMap Cell.numbers)
  | [] => rfl
  | cell :: rest => by
    rw [List.flatMap_cons, refusal?_append, ← failure?_decodeInferred cell,
      ← failure?_decodeItems rest]
    exact failure?_seq (decodeInferred cell) (decodeItems rest) List.cons

theorem failure?_decodeEntries : (entries : List (String × Cell)) →
    failure? (decodeEntries entries) = refusal? (entries.flatMap fun entry => entry.2.numbers)
  | [] => rfl
  | (name, cell) :: rest => by
    rw [List.flatMap_cons, refusal?_append, ← failure?_decodeInferred cell,
      ← failure?_decodeEntries rest]
    exact failure?_seq (decodeInferred cell) (decodeEntries rest)
      fun value values => (name, value) :: values

end

theorem failure?_traverse {α β ε : Type} (change : α → Except ε β) (map : NameMap α) :
    failure? (map.traverse change) =
      map.entries.findSome? fun entry => failure? (change entry.2) := by
  have hEntry : ∀ entry : String × α, failure? (do return (entry.1, ← change entry.2)) =
      failure? (change entry.2) := fun entry => failure?_map (change entry.2) (Prod.mk entry.1)
  have hMap := failure?_map (map.entries.mapM fun entry => do return (entry.1, ← change entry.2))
    NameMap.ofList
  refine hMap.trans ?_
  simp only [failure?_mapM, hEntry]

/-- The values of all attributes of a row are read exactly if no number in any of them is in
the way. -/
theorem exists_decode_iff (row : Item) :
    (∃ values, row.decode = .ok values) ↔
      ∀ name cell, row.find? name = some cell → ∀ text ∈ cell.numbers, isFloatText text = true := by
  unfold Item.decode
  rw [← failure?_eq_none_iff, failure?_traverse, List.findSome?_eq_none_iff]
  simp only [failure?_decodeInferred, refusal?_eq_none_iff]
  constructor
  · intro hEach name cell hCell
    exact hEach (name, cell) (row.ascending.mem_iff.mpr hCell)
  · intro hEach entry hMem
    exact hEach entry.1 entry.2 (row.ascending.mem_iff.mp hMem)

/-- Reading a cell by the type that it implies fails exactly if some number in it, at any
depth, is not that of a finite float, and then because of such a number.  So a row without a
schema is read exactly if every number in it, at any depth, is that of a finite float. -/
theorem inferred_reading_fails_for_numbers_only :
    (∀ cell, (∃ error, decodeInferred cell = .error error) ↔
      ∃ text ∈ cell.numbers, isFloatText text = false) ∧
    (∀ cell error, decodeInferred cell = .error error →
      ∃ text ∈ cell.numbers, isFloatText text = false ∧ error = .invalidNumber text) ∧
    ∀ row : Item, (∃ values, row.decode = .ok values) ↔
      ∀ name cell, row.find? name = some cell → ∀ text ∈ cell.numbers, isFloatText text = true := by
  have hRefused : ∀ cell error, decodeInferred cell = .error error →
      ∃ text ∈ cell.numbers, isFloatText text = false ∧ error = .invalidNumber text := by
    intro cell error hError
    rw [← failure?_eq_some_iff, failure?_decodeInferred] at hError
    exact exists_of_refusal?_eq_some hError
  refine ⟨fun cell => ⟨?_, ?_⟩, hRefused, exists_decode_iff⟩
  · rintro ⟨error, hError⟩
    obtain ⟨text, hMem, hText, _⟩ := hRefused cell error hError
    exact ⟨text, hMem, hText⟩
  · rintro ⟨text, hMem, hText⟩
    cases hResult : decodeInferred cell with
    | error error => exact ⟨error, rfl⟩
    | ok value =>
      have hNone := failure?_eq_none_iff.mpr ⟨value, hResult⟩
      rw [failure?_decodeInferred, refusal?_eq_none_iff] at hNone
      rw [hNone text hMem] at hText
      cases hText

/-- A list with a number that is fine, and a set of one that is not further inside. -/
def strayUnits : Cell :=
  .list [.number "+3", .map [("units", .numberSet ["4x"])]]

theorem inferred_reading_fails_for_numbers_only_of_strayUnits :
    decodeInferred strayUnits = .error (.invalidNumber "4x") ∧
      ∃ text ∈ strayUnits.numbers, isFloatText text = false ∧
        CodecError.invalidNumber "4x" = .invalidNumber text := by
  have hError : decodeInferred strayUnits = .error (.invalidNumber "4x") := rfl
  exact ⟨hError, inferred_reading_fails_for_numbers_only.2.1 _ _ hError⟩

end Codec

end SingleTable
