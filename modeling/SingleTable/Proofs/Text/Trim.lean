import Mathlib.Data.List.TakeWhile
import SingleTable.Text.Space

/-!
# Trimming of text

White space is taken away up to the first and from the last other character, so a text
without white space at its ends is left as it is.
-/

namespace SingleTable

namespace Text

variable {text before after rest : List Char}

/-- The text has no white space at its ends. -/
structure Solid (text : List Char) : Prop where
  filled : text ≠ []
  first : ∀ c ∈ text.head?, isSpace c = false
  last : ∀ c ∈ text.getLast?, isSpace c = false

theorem trimStart_of_head? (hFirst : ∀ c ∈ text.head?, isSpace c = false) :
    trimStart text = text := by
  cases text with
  | nil => rfl
  | cons c text => exact trimStart_cons_of_not_isSpace (hFirst c rfl) text

theorem trimStart_append (hBefore : ∀ c ∈ before, isSpace c = true) :
    trimStart (before ++ rest) = trimStart rest :=
  List.dropWhile_append_of_pos hBefore

theorem trimEnd_append (hAfter : ∀ c ∈ after, isSpace c = true) :
    trimEnd (text ++ after) = trimEnd text := by
  unfold trimEnd
  rw [List.reverse_append, List.dropWhile_append_of_pos]
  intro c hMem
  exact hAfter c (List.mem_reverse.mp hMem)

theorem trimEnd_of_getLast? (hLast : ∀ c ∈ text.getLast?, isSpace c = false) :
    trimEnd text = text := by
  have hReverse : trimStart text.reverse = text.reverse :=
    trimStart_of_head? (by rwa [List.head?_reverse])
  unfold trimStart at hReverse
  unfold trimEnd
  rw [hReverse, List.reverse_reverse]

theorem Solid.singleton {c : Char} (hSolid : isSpace c = false) : Solid [c] where
  filled := by simp
  first := by
    rintro d hHead
    cases hHead
    exact hSolid
  last := by
    rintro d hLast
    cases hLast
    exact hSolid

theorem Solid.append {other : List Char} (hText : Solid text) (middle : List Char)
    (hOther : Solid other) : Solid (text ++ (middle ++ other)) where
  filled := by simp [hText.filled]
  first := by
    obtain ⟨c, tail, rfl⟩ := List.exists_cons_of_ne_nil hText.filled
    exact hText.first
  last := by
    have hLast : (text ++ (middle ++ other)).getLast? = other.getLast? := by
      obtain ⟨c, tail, rfl⟩ := List.exists_cons_of_ne_nil hOther.filled
      rw [← List.append_assoc, List.getLast?_append, List.getLast?_cons]
      rfl
    rw [hLast]
    exact hOther.last

/-- White space around a text is trimmed, but no more of it. -/
theorem Solid.trim_append (hText : Solid text) (hBefore : ∀ c ∈ before, isSpace c = true)
    (hAfter : ∀ c ∈ after, isSpace c = true) : trim (before ++ (text ++ after)) = text := by
  have hFirst : ∀ c ∈ (text ++ after).head?, isSpace c = false := by
    obtain ⟨d, tail, rfl⟩ := List.exists_cons_of_ne_nil hText.filled
    exact hText.first
  unfold trim
  rw [trimStart_append hBefore, trimStart_of_head? hFirst, trimEnd_append hAfter,
    trimEnd_of_getLast? hText.last]

/-- A text without white space is left as it is. -/
theorem trim_eq_self (hText : ∀ c ∈ text, isSpace c = false) : trim text = text := by
  have hStart : trimStart text = text :=
    trimStart_of_head? fun c hHead => hText c (List.mem_of_mem_head? hHead)
  unfold trim
  rw [hStart]
  exact trimEnd_of_getLast? fun c hLast => hText c (List.mem_of_getLast? hLast)

/-- Only white space is trimmed. -/
theorem exists_append_trim (text : List Char) :
    ∃ before after, text = before ++ (trim text ++ after) ∧
      (∀ c ∈ before, isSpace c = true) ∧ ∀ c ∈ after, isSpace c = true := by
  have hStart : text = text.takeWhile isSpace ++ trimStart text :=
    List.takeWhile_append_dropWhile.symm
  have hEnd : trimStart text =
      trim text ++ ((trimStart text).reverse.takeWhile isSpace).reverse := by
    unfold trim trimEnd
    rw [← List.reverse_append, List.takeWhile_append_dropWhile, List.reverse_reverse]
  refine ⟨text.takeWhile isSpace, ((trimStart text).reverse.takeWhile isSpace).reverse, ?_, ?_, ?_⟩
  · rw [← hEnd]
    exact hStart
  · exact fun c hMem => List.mem_takeWhile_imp hMem
  · exact fun c hMem => List.mem_takeWhile_imp (List.mem_reverse.mp hMem)

/-- What is left of a text has no white space at its ends. -/
theorem solid_trim (hFilled : trim text ≠ []) : Solid (trim text) where
  filled := hFilled
  first := by
    obtain ⟨c, tail, hTrim⟩ := List.exists_cons_of_ne_nil hFilled
    have hLead : trim text <+: trimStart text := by
      unfold trim trimEnd
      rw [← List.reverse_suffix, List.reverse_reverse]
      exact List.dropWhile_suffix isSpace
    rw [hTrim] at hLead ⊢
    obtain ⟨after, hStart⟩ := hLead
    have hHead := List.head?_dropWhile_not isSpace text
    rw [show text.dropWhile isSpace = c :: (tail ++ after) from hStart.symm] at hHead
    rintro d ⟨⟩
    simpa using hHead
  last := by
    intro c hLast
    unfold trim trimEnd at hLast
    rw [List.getLast?_reverse] at hLast
    have hHead := List.head?_dropWhile_not isSpace (trimStart text).reverse
    rw [Option.mem_def.mp hLast] at hHead
    simpa using hHead

/-- Nothing is left exactly of white space. -/
theorem trim_eq_nil_iff : trim text = [] ↔ ∀ c ∈ text, isSpace c = true := by
  constructor
  · intro hTrim
    obtain ⟨before, after, hText, hBefore, hAfter⟩ := exists_append_trim text
    rw [hText, hTrim, List.nil_append]
    exact List.forall_mem_append.mpr ⟨hBefore, hAfter⟩
  · intro hText
    have hStart : trimStart text = [] := List.dropWhile_eq_nil_iff.mpr hText
    unfold trim
    rw [hStart]
    rfl

end Text

end SingleTable
