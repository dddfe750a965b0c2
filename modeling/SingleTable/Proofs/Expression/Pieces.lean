import SingleTable.Expression.Update
import SingleTable.Proofs.Text.Trim

/-!
# Readers on written text

What the readers of expressions do on a text that is put together from its tokens:
runs stop where the next token begins, marks are found with white space around them,
and the pieces of a text are read one after another.
-/

namespace SingleTable

namespace Expression

open Text

variable {before after rest : List Char}

/-- A run ends where the next token begins. -/
theorem run?_append {stops : Char → Bool} {run : List Char} (hFilled : run ≠ [])
    (hRun : ∀ c ∈ run, stops c = false) (hRest : ∀ c ∈ rest.head?, stops c = true) :
    run? stops (run ++ rest) = some (run, rest) := by
  have hInside : ∀ c ∈ run, (!stops c) = true := by
    intro c hMem
    simp [hRun c hMem]
  have hOutside : rest.takeWhile (!stops ·) = [] ∧ rest.dropWhile (!stops ·) = rest := by
    cases rest with
    | nil => exact ⟨rfl, rfl⟩
    | cons c rest => simp [hRest c rfl]
  unfold run?
  rw [List.takeWhile_append_of_pos hInside, List.dropWhile_append_of_pos hInside,
    hOutside.1, hOutside.2, List.append_nil]
  simp [hFilled]

/-- What stops at white space and at a sign stops at the sign with white space before it. -/
theorem head?_append_cons {stops : Char → Bool} {sign : Char}
    (hSpace : ∀ c, isSpace c = true → stops c = true) (hSign : stops sign = true)
    (hBefore : ∀ c ∈ before, isSpace c = true) :
    ∀ c ∈ (before ++ sign :: rest).head?, stops c = true := by
  intro c hHead
  cases before with
  | nil =>
    cases hHead
    exact hSign
  | cons d before =>
    cases hHead
    exact hSpace c (hBefore c List.mem_cons_self)

/-- A mark is found with white space around it. -/
theorem mark?_append {sign : Char} (hBefore : ∀ c ∈ before, isSpace c = true)
    (hSign : isSpace sign = false) (hAfter : ∀ c ∈ after, isSpace c = true)
    (hRest : ∀ c ∈ rest.head?, isSpace c = false) :
    mark? [sign] (before ++ sign :: (after ++ rest)) = some rest := by
  unfold mark?
  rw [trimStart_append hBefore, trimStart_cons_of_not_isSpace hSign]
  have hLiteral : literal? [sign] (sign :: (after ++ rest)) = some (after ++ rest) :=
    literal?_append [sign] (after ++ rest)
  rw [hLiteral, Option.map_some, trimStart_append hAfter, trimStart_of_head? hRest]

section Failing

variable {stops : Char → Bool} {text : List Char} {first : Char} {start : List Char}

theorem run?_eq_some {run : List Char} (hRun : run? stops text = some (run, rest)) :
    rest = text.dropWhile (!stops ·) := by
  unfold run? at hRun
  grind

theorem run?_eq_none_of_head? (hText : ∀ c ∈ text.head?, stops c = true) :
    run? stops text = none := by
  cases text with
  | nil => rfl
  | cons c text => simp [run?, hText c rfl]

theorem literal?_eq_none_of_head? (hText : ∀ c ∈ text.head?, (c == first) = false) :
    literal? (first :: start) text = none := by
  cases text with
  | nil => rfl
  | cons c text => exact if_neg (Ne.symm (ne_of_beq_false (hText c rfl)))

/-- A mark is not found where something else comes behind white space. -/
theorem mark?_eq_none_of_head? (hText : ∀ c ∈ (trimStart text).head?, (c == first) = false) :
    mark? (first :: start) text = none := by
  rw [mark?, literal?_eq_none_of_head? hText, Option.map_none]

/-- A word is not found where something else comes behind white space. -/
theorem word?_eq_none_of_head? (hText : ∀ c ∈ (trimStart text).head?, (c == first) = false) :
    word? (first :: start) text = none := by
  unfold word? space?
  split
  · rw [Option.bind_eq_bind, Option.bind_some, literal?_eq_none_of_head? hText]
    rfl
  · rfl

/-- A mark is not found where another sign stands. -/
theorem mark?_append_of_ne {sign other : Char} (hBefore : ∀ c ∈ before, isSpace c = true)
    (hOther : isSpace other = false) (hNe : sign ≠ other) :
    mark? [sign] (before ++ other :: rest) = none := by
  refine mark?_eq_none_of_head? ?_
  rw [trimStart_append hBefore, trimStart_cons_of_not_isSpace hOther]
  rintro _ ⟨⟩
  exact beq_eq_false_iff_ne.mpr hNe.symm

end Failing

section Pieces

variable {α : Type} {read : Reader α} {text : List Char}

theorem piecesFrom_append (read : Reader α) (skipped rest : List Char) :
    piecesFrom read skipped.length (skipped ++ rest) = pieces read rest := by
  induction skipped with
  | nil => rfl
  | cons c skipped ih => exact ih

/-- The first piece of a text, and then those of what is left. -/
theorem pieces_append {piece : α} (hFilled : text ≠ [])
    (hRead : read (text ++ rest) = some (piece, rest)) :
    pieces read (text ++ rest) = piece :: pieces read rest := by
  cases text with
  | nil => exact absurd rfl hFilled
  | cons c text =>
    rw [List.cons_append] at hRead ⊢
    have hLength : (text ++ rest).length - rest.length = text.length := by
      rw [List.length_append, Nat.add_sub_cancel]
    rw [pieces, piecesFrom, hRead]
    simp only [hLength]
    rw [piecesFrom_append]

/-- A text is passed over if no piece starts in it. -/
theorem pieces_append_of_eq_none
    (hNone : ∀ c ∈ text, ∀ left, read (c :: left) = none) :
    pieces read (text ++ rest) = pieces read rest := by
  induction text with
  | nil => rfl
  | cons c text ih =>
    rw [List.cons_append, pieces_cons_of_eq_none (hNone c List.mem_cons_self _)]
    exact ih fun d hMem => hNone d (List.mem_cons_of_mem c hMem)

end Pieces

end Expression

namespace UpdateStep

variable {text : List Char}

theorem splitCommas_of_not_mem (hText : ',' ∉ text) : splitCommas text = [text] := by
  induction text with
  | nil => rfl
  | cons c text ih =>
    rw [List.mem_cons, not_or] at hText
    rw [splitCommas, if_neg (Ne.symm hText.1), ih hText.2]

theorem splitCommas_append (hText : ',' ∉ text) (rest : List Char) :
    splitCommas (text ++ ',' :: rest) = text :: splitCommas rest := by
  induction text with
  | nil => simp [splitCommas]
  | cons c text ih =>
    rw [List.mem_cons, not_or] at hText
    rw [List.cons_append, splitCommas, if_neg (Ne.symm hText.1), ih hText.2]

end UpdateStep

end SingleTable
