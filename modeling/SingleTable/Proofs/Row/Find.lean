import SingleTable.Expectation
import SingleTable.Proofs.Codec.FreeForm
import SingleTable.Proofs.Pattern.GlobRead
import SingleTable.Row.Basic

/-!
# Looking for strings

A row fits a string that is looked for if the attribute is a string that the glob matches.
An expectation that a value is like the glob asks the same of strings, but takes any other
value for the empty text.
-/

namespace SingleTable

namespace Codec

open Outcome

/-- What is not a string is read as something that is neither a string nor null. -/
theorem string?_of_decodeInferred {cell : Cell} {value : Value}
    (hDecode : decodeInferred cell = .ok value) (hCell : ∀ text, cell ≠ .string text) :
    value.string? = none ∧ Expectation.present value = some value := by
  unfold decodeInferred at hDecode
  cases cell with
  | string text => exact absurd rfl (hCell text)
  | number text =>
    rw [ColumnType.ofCell] at hDecode
    split at hDecode <;>
    · obtain ⟨_, _, rfl⟩ := map_eq_ok_iff.mp hDecode
      exact ⟨rfl, rfl⟩
  | numberSet texts =>
    rw [ColumnType.ofCell] at hDecode
    split at hDecode <;>
    · obtain ⟨_, _, rfl⟩ := map_eq_ok_iff.mp hDecode
      exact ⟨rfl, rfl⟩
  | list cells =>
    rw [ColumnType.ofCell, decodeAs, if_pos rfl] at hDecode
    obtain ⟨_, _, hValue⟩ := bind_eq_ok_iff.mp hDecode
    cases hValue
    exact ⟨rfl, rfl⟩
  | map entries =>
    rw [ColumnType.ofCell, decodeAs, if_pos rfl] at hDecode
    obtain ⟨_, _, hValue⟩ := bind_eq_ok_iff.mp hDecode
    cases hValue
    exact ⟨rfl, rfl⟩
  | bool _ | binary _ | stringSet _ | binarySet _ =>
    cases hDecode
    exact ⟨rfl, rfl⟩

end Codec

namespace Item

open Codec

/-- The one string that is looked for. -/
def needle (name glob : String) : Values :=
  .ofList [(name, .string glob)]

/-- The glob is one, and matches the text. -/
def globMatches (glob text : String) : Bool :=
  (Glob.compile? glob false).any (·.isMatch text.toList)

theorem cellFits_other {cell : Cell} (hCell : ∀ text, cell ≠ .string text) (value : Value) :
    cellFits cell value = match decodeInferred cell with
      | .ok found => found.same value
      | .error _ => false := by
  cases cell with
  | string text => exact absurd rfl (hCell text)
  | _ => rfl

/-- A string that is looked for is found in strings alone. -/
theorem cellFits_string_iff {cell : Cell} {glob : String} :
    cellFits cell (.string glob) = true ↔
      ∃ text, cell = .string text ∧ globMatches glob text = true := by
  by_cases hCell : ∃ text, cell = .string text
  · obtain ⟨text, rfl⟩ := hCell
    unfold cellFits globMatches
    cases hCompile : Glob.compile? glob false <;> simp [hCompile]
  · have hOther : ∀ text, cell ≠ .string text := fun text hEq => hCell ⟨text, hEq⟩
    refine iff_of_false ?_ fun ⟨text, hEq, _⟩ => hOther text hEq
    rw [cellFits_other hOther]
    split
    · next found hDecode =>
      have hNone := (string?_of_decodeInferred hDecode hOther).1
      cases found with
      | string text => cases hNone
      | _ => exact Bool.false_ne_true
    · exact Bool.false_ne_true

/-- A single string is found where the attribute is a string that its glob matches. -/
theorem fits_needle_iff {item : Item} {name glob : String} :
    item.fits (needle name glob) = true ↔
      ∃ text, item.find? name = some (.string text) ∧ globMatches glob text = true := by
  have hEntries : (needle name glob).entries = [(name, .string glob)] := rfl
  rw [fits, hEntries, List.all_cons, List.all_nil, Bool.and_true]
  cases hFind : item.find? name with
  | none => simp [hFind]
  | some cell => simp [hFind, cellFits_string_iff]

end Item

namespace Expectation

/-- A present value is like a glob if the glob matches its string, or the empty text. -/
theorem check_like_iff {glob : String} {value : Value} (hPresent : present value = some value) :
    (Expectation.like glob false false).check (some value) = .ok () ↔
      Item.globMatches glob (value.string?.getD "") = true := by
  rw [check, Option.bind_some, hPresent, checkPresent, checkLike]
  unfold Item.globMatches
  cases Glob.compile? glob false with
  | none => simp
  | some pattern => simp [require]

end Expectation

namespace Item

open Codec

theorem globMatches_iff {glob text : String} :
    globMatches glob text = true ↔ (Glob.compile? glob false).isSome = true ∧
      Glob.accepts false (Glob.ofText glob) text.toList = true := by
  unfold globMatches
  cases hCompile : Glob.compile? glob false with
  | none => simp
  | some pattern => simp [Glob.isMatch_of_pattern? (Glob.pattern?_of_compile? hCompile)]

/-- Only a glob of stars matches the empty text. -/
theorem globMatches_empty_iff {glob : String} :
    globMatches glob "" = true ↔
      (Glob.compile? glob false).isSome = true ∧ ∀ c ∈ glob.toList, c = '*' := by
  rw [globMatches_iff, ← Glob.read_anyRun_iff, ← Glob.accepts_nil_iff false]
  rfl

/-- An attribute that can be read is found by a string exactly if it is a string that is
like it.  It is like it without being found exactly if it is no string and the glob
consists of stars. -/
theorem find_and_like_differ_on_stars {item : Item} {name glob : String} {cell : Cell}
    {value : Value} (hFind : item.find? name = some cell) (hFilled : cell.isBlank = false)
    (hDecode : decodeInferred cell = .ok value) :
    (item.fits (needle name glob) = true ↔
      (Expectation.like glob false false).check (some value) = .ok () ∧
        value.string?.isSome = true) ∧
    (¬(item.fits (needle name glob) = true ↔
        (Expectation.like glob false false).check (some value) = .ok ()) ↔
      value.string? = none ∧ (Glob.compile? glob false).isSome = true ∧
        ∀ c ∈ glob.toList, c = '*') := by
  by_cases hCell : ∃ text, cell = .string text
  · -- a string is read as itself, and both sides try the glob on it
    obtain ⟨text, rfl⟩ := hCell
    obtain rfl : .string text = value := by
      have hText : text ≠ "" := by
        rintro rfl
        cases hFilled
      rw [decodeInferred_string hText] at hDecode
      cases hDecode
      rfl
    have hSame : item.fits (needle name glob) = true ↔
        (Expectation.like glob false false).check (some (.string text)) = .ok () := by
      rw [fits_needle_iff, Expectation.check_like_iff rfl, hFind]
      simp [Value.string?]
    simp [hSame, Value.string?]
  · -- any other value is never found, and the expectation takes it for the empty text
    have hOther : ∀ text, cell ≠ .string text := fun text hEq => hCell ⟨text, hEq⟩
    obtain ⟨hNone, hPresent⟩ := string?_of_decodeInferred hDecode hOther
    have hNotFound : ¬item.fits (needle name glob) = true := by
      rw [fits_needle_iff, hFind]
      rintro ⟨text, hEq, -⟩
      exact hOther text (Option.some.inj hEq)
    have hLike : (Expectation.like glob false false).check (some value) = .ok () ↔
        (Glob.compile? glob false).isSome = true ∧ ∀ c ∈ glob.toList, c = '*' := by
      rw [Expectation.check_like_iff hPresent, hNone]
      exact globMatches_empty_iff
    refine ⟨iff_of_false hNotFound (by simp [hNone]), ?_⟩
    rw [hLike, iff_false_left hNotFound, Classical.not_not, and_iff_right hNone]

/-- A string attribute, looked for with a glob. -/
theorem find_and_like_differ_on_stars_of_text :
    let item : Item := .ofList [("name", .string "first:a")]
    item.find? "name" = some (.string "first:a") ∧ (Cell.string "first:a").isBlank = false ∧
      decodeInferred (.string "first:a") = .ok (.string "first:a") ∧
      (item.fits (needle "name" "first:*") = true ↔
        (Expectation.like "first:*" false false).check (some (.string "first:a")) = .ok () ∧
          (Value.string "first:a").string?.isSome = true) :=
  ⟨rfl, rfl, rfl, (find_and_like_differ_on_stars rfl rfl rfl).1⟩

/-- A number is like a star, and is not found by it. -/
theorem number_like_star_not_found :
    decodeInferred (.number "3") = .ok (.integer 3) ∧
      Item.fits (.ofList [("n", .number "3")]) (needle "n" "*") = false ∧
      (Expectation.like "*" false false).check (some (.integer 3)) = .ok () := by
  refine ⟨rfl, rfl, (Expectation.check_like_iff rfl).mpr ?_⟩
  decide +kernel

end Item

end SingleTable
