import Mathlib.Data.List.TakeWhile
import SingleTable.Proofs.Pattern.PlainGlob

/-!
# Globs that are a single class

A class is read like a shell reads it, character by character and with a range where a
hyphen stands between two characters, as long as no two hyphens stand side by side in it
and no range starts at its first bracket.  Two hyphens behind the first character take away
from the class.
-/

namespace SingleTable.Glob

open Pattern Pattern.Bracket

/-- The ranges of a class as shells read it.  A character on its own is the range from it
to itself. -/
def ranges : List Char → List (Char × Char)
  | low :: '-' :: high :: rest => (low, high) :: ranges rest
  | c :: rest => (c, c) :: ranges rest
  | [] => []

/-- A shell has the character in the class. -/
def denotes (body : List Char) (c : Char) : Bool :=
  (ranges body).any fun range => range.1 ≤ c && c ≤ range.2

/-- No two hyphens stand side by side, and no range starts at the bracket that the class
starts with. -/
structure IsUndivided (body : List Char) : Prop where
  apart : ¬['-', '-'] <:+: body
  behindBracket : ∀ c rest, body ≠ ']' :: '-' :: c :: rest

/-- The item of a range. -/
def rangeItem (range : Char × Char) : ClassItem := .range range.1 range.2

theorem apart_of_append (first : List Char) {rest : List Char}
    (hApart : ¬['-', '-'] <:+: first ++ rest) : ¬['-', '-'] <:+: rest :=
  fun hInfix => hApart (hInfix.trans (List.suffix_append first rest).isInfix)

/-- Where no two hyphens stand side by side, the items are the ranges. -/
theorem ofText_eq_ranges {text : List Char} (hApart : ¬['-', '-'] <:+: text) :
    ClassItem.ofText text = (ranges text).map rangeItem := by
  fun_induction ClassItem.ofText text with
  | case1 rest ih => exact absurd (List.prefix_append ['-', '-'] rest).isInfix hApart
  | case2 c rest hNot ih =>
    exact absurd (List.prefix_append ['-', '-'] rest).isInfix
      (apart_of_append [c] hApart)
  | case3 low high rest hNot hNotHigh ih =>
    rw [ranges, ih (apart_of_append [low, '-', high] hApart)]
    rfl
  | case4 c rest hNot hNotThen hNotRange ih =>
    rw [ranges, ih (apart_of_append [c] hApart)]
    · rfl
    · exact hNotRange
  | case5 => rfl

/-- An undivided class is read like shells read it. -/
theorem ofBody_eq_ranges {body : List Char} (hUndivided : IsUndivided body) :
    ClassItem.ofBody body = (ranges body).map rangeItem := by
  rcases body with _ | ⟨first, rest⟩
  · rfl
  have hRest := ofText_eq_ranges (apart_of_append [first] hUndivided.apart)
  -- a bracket or hyphen at the start is an item on its own in both readings
  have hSingle : (first = ']' ∨ first = '-') → ∀ lead, lead = [first] →
      lead.map ClassItem.single ++ ClassItem.ofText ((first :: rest).drop lead.length) =
        (ranges (first :: rest)).map rangeItem := by
    rintro hFirst lead rfl
    have hRanges : ranges (first :: rest) = (first, first) :: ranges rest := by
      rw [ranges]
      rintro high more rfl
      rcases hFirst with rfl | rfl
      · exact hUndivided.behindBracket high more rfl
      · exact hUndivided.apart (List.prefix_append ['-', '-'] (high :: more)).isInfix
    rw [hRanges]
    exact congrArg (rangeItem (first, first) :: ·) hRest
  rw [ClassItem.ofBody]
  by_cases hBracket : first = ']'
  · exact hSingle (Or.inl hBracket) _ (by simp [ClassItem.lead, hBracket])
  by_cases hHyphen : first = '-'
  · refine hSingle (Or.inr hHyphen) _ ?_
    subst hHyphen
    cases rest with
    | nil => rfl
    | cons second rest =>
      have hNot : second ≠ '-' := by
        rintro rfl
        exact hUndivided.apart (List.prefix_append ['-', '-'] rest).isInfix
      simp [ClassItem.lead, hNot]
  · have hLead : ClassItem.lead (first :: rest) = [] := by
      simp [ClassItem.lead, hBracket, hHyphen]
    rw [hLead]
    exact ofText_eq_ranges hUndivided.apart

/-- The glob text of a class. -/
def classGlob (negated : Bool) (body : List Char) : String :=
  String.ofList ('[' :: (negation negated ++ body ++ [']']))

theorem ofText_classGlob {negated : Bool} {body : List Char} (hBody : IsBody negated body) :
    ofText (classGlob negated body) = [.oneOf negated body] := by
  rw [ofText, classGlob, String.toList_ofList, read_class hBody]
  rfl

/-- A class with a set takes the characters that its items denote, or the others. -/
theorem accepts_class {negated : Bool} {body : List Char} (hBody : IsBody negated body)
    {nested : Nested CharSet}
    (hItems : ofItems? (flags false) negated (ClassItem.ofBody body) = some nested) (c : Char) :
    accepts false [.oneOf negated body] [c] =
      (ClassItem.denote (ClassItem.ofBody body) c != negated) := by
  rw [← contains_of_ofItems? rfl hItems c]
  simp [accepts, classSet?_eq hBody, hItems]

/-- What the items of an undivided class denote is what shells have in it. -/
theorem denote_eq_denotes {body : List Char} (hUndivided : IsUndivided body) (c : Char) :
    ClassItem.denote (ClassItem.ofBody body) c = denotes body c := by
  rw [ofBody_eq_ranges hUndivided, ClassItem.denote, denotes]
  have hAll : ∀ item ∈ (ranges body).map rangeItem, decide (item ≠ .without) = true := by
    intro item hMem
    obtain ⟨range, -, rfl⟩ := List.mem_map.mp hMem
    rfl
  rw [List.takeWhile_eq_self_iff.mpr hAll, List.dropWhile_eq_nil_iff.mpr hAll, List.any_map]
  exact Bool.and_true _

/-- A class that has a regular expression has only ranges that run forwards, and takes the
characters that its items denote, or the others if it is negated.  An undivided class whose
ranges run forwards has one, and takes the characters that shells have in it, or the others. -/
theorem class_glob_matches_its_items (negated : Bool) (body : List Char)
    (hBody : IsBody negated body) :
    (∀ pattern, compile? (classGlob negated body) false = some pattern →
      (∀ item ∈ ClassItem.ofBody body, item.IsOrdered) ∧
        ∀ c, pattern.isMatch [c] = (ClassItem.denote (ClassItem.ofBody body) c != negated)) ∧
    (IsUndivided body → (∀ range ∈ ranges body, range.1 ≤ range.2) →
      ∃ expression,
        Expression.ofText? (expressionOf (classGlob negated body) false) = some expression ∧
        (expression.pattern.size ≤ maxSize →
          compile? (classGlob negated body) false = some expression.pattern) ∧
        ∀ c, expression.pattern.isMatch [c] = (denotes body c != negated)) := by
  have hGlob := ofText_classGlob hBody
  have hSound : ∀ part ∈ ofText (classGlob negated body), part.IsSound :=
    fun part hMem => isSound_of_mem_read hMem
  constructor
  · -- an expression that compiles has come from a set of the class
    intro pattern hCompile
    have hPattern := pattern?_of_compile? hCompile
    have hMatch := isMatch_of_pattern? hPattern
    rw [pattern?_eq hSound, hGlob] at hPattern
    obtain ⟨nested, hItems⟩ : ∃ nested,
        ofItems? (flags false) negated (ClassItem.ofBody body) = some nested := by
      refine Option.ne_none_iff_exists'.mp fun hNone => ?_
      simp [Part.nested?, hNone] at hPattern
    refine ⟨(isSome_ofItems?_iff rfl).mp (Option.isSome_of_eq_some hItems), fun c => ?_⟩
    rw [hMatch, hGlob, accepts_class hBody hItems]
  · -- ranges alone are not nested, so that the expression can be read
    intro hUndivided hOrdered
    have hItems := ofBody_eq_ranges hUndivided
    obtain ⟨nested, hNested⟩ : ∃ nested,
        ofItems? (flags false) negated (ClassItem.ofBody body) = some nested := by
      refine Option.isSome_iff_exists.mp ((isSome_ofItems?_iff rfl).mpr ?_)
      rw [hItems]
      exact List.forall_mem_map.mpr hOrdered
    have hDepth : nested.depth ≤ 2 := by
      refine depth_of_ofItems?_le hNested ?_
      rw [hItems]
      simp [rangeItem]
    obtain ⟨expression, hText⟩ : ∃ expression,
        Expression.ofText? (expressionOf (classGlob negated body) false) = some expression := by
      refine exists_ofText? hSound fun part hMem => ?_
      rw [hGlob] at hMem
      rw [List.mem_singleton.mp hMem]
      exact ⟨⟨.one nested.value, nested.depth⟩, by rw [Part.nested?, hNested]; rfl, hDepth⟩
    refine ⟨expression, hText, compile?_of_ofText? hText, fun c => ?_⟩
    rw [isMatch_of_pattern? (pattern?_of_ofText? hSound hText), hGlob,
      accepts_class hBody hNested, denote_eq_denotes hUndivided]

/-- A negated class with a range and characters that regular expressions have operators of. -/
theorem class_glob_matches_its_items_of_operators :
    IsBody true ['a', '-', 'f', '&', '&', '[', '-'] ∧
      ∃ expression,
        Expression.ofText?
            (expressionOf (classGlob true ['a', '-', 'f', '&', '&', '[', '-']) false) =
          some expression ∧
        ∀ c, expression.pattern.isMatch [c] =
          (denotes ['a', '-', 'f', '&', '&', '[', '-'] c != true) := by
  have hBody : IsBody true ['a', '-', 'f', '&', '&', '[', '-'] := ⟨by decide, by decide, nofun⟩
  have hUndivided : IsUndivided ['a', '-', 'f', '&', '&', '[', '-'] := ⟨by decide, nofun⟩
  obtain ⟨expression, hText, -, hMatch⟩ :=
    (class_glob_matches_its_items true _ hBody).2 hUndivided (by decide)
  exact ⟨hBody, expression, hText, hMatch⟩

/-- The range that ends at a hyphen is lost: shells have the comma between `+` and `-`, and
the class does not take it. -/
theorem comma_lost_before_hyphens :
    IsBody false ['+', '-', '-'] ∧ (∀ range ∈ ranges ['+', '-', '-'], range.1 ≤ range.2) ∧
      denotes ['+', '-', '-'] ',' = true ∧
      ∃ pattern, compile? (classGlob false ['+', '-', '-']) false = some pattern ∧
        pattern.isMatch [','] = false := by
  refine ⟨⟨by decide, by decide, fun _ => by decide⟩, by decide, by decide, ?_⟩
  have hSome : ((compile? (classGlob false ['+', '-', '-']) false).any
      (!·.isMatch [','])) = true := by decide +kernel
  obtain ⟨pattern, hCompile, hMatch⟩ := (Option.any_eq_true _ _).mp hSome
  exact ⟨pattern, hCompile, by simpa using hMatch⟩

end SingleTable.Glob
