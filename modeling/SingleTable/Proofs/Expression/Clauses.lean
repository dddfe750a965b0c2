import SingleTable.Expression.Clause

/-!
# Cutting expressions at their keywords

A text in which no keyword stands as a whole word is part of one clause, whatever
comes before and after it, provided that no word runs across its ends.  From this
the clauses of a written expression are found one after another: a keyword, then the
text up to the next keyword.
-/

namespace SingleTable.Expression

open Text

/-- A word character comes before what follows a text. -/
def wordAfter (inWord : Bool) (text : List Char) : Bool :=
  text.foldl (fun _ c => isWord c) inWord

@[simp]
theorem wordAfter_cons (inWord : Bool) (c : Char) (text : List Char) :
    wordAfter inWord (c :: text) = wordAfter (isWord c) text := rfl

theorem wordAfter_append (inWord : Bool) (text rest : List Char) :
    wordAfter inWord (text ++ rest) = wordAfter (wordAfter inWord text) rest := by
  simp [wordAfter]

theorem wordAfter_of_isWord {text : List Char} (hText : ∀ c ∈ text, isWord c = true) :
    wordAfter true text = true := by
  induction text with
  | nil => rfl
  | cons c text ih =>
    rw [wordAfter_cons, hText c List.mem_cons_self]
    exact ih fun d hMem => hText d (List.mem_cons_of_mem c hMem)

namespace Keyword

/-- Every keyword consists of word characters. -/
theorem isWord_of_mem_text {keyword : Keyword} {c : Char} (hMem : c ∈ keyword.text.toList) :
    isWord c = true := by
  have hAll : keyword.text.toList.all isWord = true := by cases keyword <;> decide
  exact List.all_eq_true.mp hAll c hMem

theorem text_ne_nil (keyword : Keyword) : keyword.text.toList ≠ [] := by
  cases keyword <;> decide

@[simp]
theorem endsWord_nil : endsWord [] = true := rfl

@[simp]
theorem endsWord_cons (c : Char) (text : List Char) : endsWord (c :: text) = !isWord c := rfl

theorem endsWord_append_of_ne_nil {text rest : List Char} (hText : text ≠ []) :
    endsWord (text ++ rest) = endsWord text := by
  cases text with
  | nil => exact absurd rfl hText
  | cons c text => rfl

/-- A keyword is the first word of a text. -/
theorem exists_of_startOf?_eq_some {keyword : Keyword} {text : List Char}
    (hStart : startOf? text = some keyword) :
    ∃ rest, text = keyword.text.toList ++ rest ∧ endsWord rest = true := by
  have hFound := List.find?_some hStart
  cases hRest : literal? keyword.text.toList text with
  | none => simp [hRest] at hFound
  | some rest =>
    rw [hRest] at hFound
    exact ⟨rest, literal?_eq_some_iff.mp hRest, hFound⟩

theorem startOf?_append (keyword : Keyword) {rest : List Char} (hRest : endsWord rest = true) :
    startOf? (keyword.text.toList ++ rest) = some keyword := by
  cases keyword <;> simp [startOf?, all, text, literal?, hRest]

theorem startOf?_eq_none_iff {text : List Char} :
    startOf? text = none ↔
      ∀ (keyword : Keyword) (rest : List Char),
        text = keyword.text.toList ++ rest → endsWord rest = false := by
  constructor
  · rintro hNone keyword rest rfl
    cases hRest : endsWord rest with
    | false => rfl
    | true =>
      rw [startOf?_append keyword hRest] at hNone
      exact absurd hNone (by simp)
  · intro hNever
    cases hStart : startOf? text with
    | none => rfl
    | some keyword =>
      obtain ⟨rest, hText, hEnds⟩ := exists_of_startOf?_eq_some hStart
      rw [hNever keyword rest hText] at hEnds
      exact absurd hEnds (by simp)

/-- Where no word runs across the end of a text, what follows it does not matter. -/
theorem startOf?_append_eq_none {text rest : List Char} (hNone : startOf? text = none)
    (hApart : wordAfter true text = false ∨ endsWord rest = true) :
    startOf? (text ++ rest) = none := by
  rw [startOf?_eq_none_iff] at hNone ⊢
  intro keyword left hSplit
  rcases List.append_eq_append_iff.mp hSplit with
    ⟨middle, hKeyword, hRest⟩ | ⟨middle, hBefore, hLeft⟩
  · -- the keyword ends behind the text, so the text is all words and a word runs on
    have hWords : ∀ c ∈ text ++ middle, isWord c = true := by
      intro c hMem
      rw [← hKeyword] at hMem
      exact isWord_of_mem_text hMem
    have hAfter : wordAfter true text = true :=
      wordAfter_of_isWord fun c hMem => hWords c (List.mem_append_left middle hMem)
    rcases hApart with hOutside | hEnds
    · rw [hAfter] at hOutside
      exact absurd hOutside (by simp)
    · cases middle with
      | nil =>
        have hShort := hNone keyword [] (by simpa using hKeyword.symm)
        exact absurd hShort (by simp)
      | cons c middle =>
        have hWord := hWords c (by simp)
        rw [hRest, List.cons_append, endsWord_cons, hWord] at hEnds
        exact absurd hEnds (by simp)
  · -- the keyword ends within the text, where it is no whole word
    have hEnds := hNone keyword middle hBefore
    have hMiddle : middle ≠ [] := by
      rintro rfl
      exact absurd hEnds (by simp)
    rw [hLeft, endsWord_append_of_ne_nil hMiddle, hEnds]

/-- A word that is not a keyword is no start of a clause. -/
theorem startOf?_eq_none_of_free {word rest : List Char} (hWord : ∀ c ∈ word, isWord c = true)
    (hFree : ∀ keyword : Keyword, word ≠ keyword.text.toList) (hRest : endsWord rest = true) :
    startOf? (word ++ rest) = none := by
  rw [startOf?_eq_none_iff]
  intro keyword left hSplit
  rcases List.append_eq_append_iff.mp hSplit with
    ⟨middle, hKeyword, hMiddle⟩ | ⟨middle, hLong, hLeft⟩
  · cases middle with
    | nil => exact absurd (by simpa using hKeyword.symm) (hFree keyword)
    | cons c middle =>
      have hInside : isWord c = true := @isWord_of_mem_text keyword c (by simp [hKeyword])
      rw [hMiddle, List.cons_append, endsWord_cons, hInside] at hRest
      exact absurd hRest (by simp)
  · -- the word is longer than the keyword, so the keyword does not end a word
    cases middle with
    | nil => exact absurd (by simpa using hLong) (hFree keyword)
    | cons c middle =>
      have hInside : isWord c = true := hWord c (by simp [hLong])
      rw [hLeft, List.cons_append, endsWord_cons, hInside]
      rfl

/-- Every clause starts with a word character. -/
theorem startOf?_of_endsWord {text : List Char} (hText : endsWord text = true) :
    startOf? text = none :=
  @startOf?_eq_none_of_free [] text (by simp) (fun keyword => keyword.text_ne_nil.symm) hText

end Keyword

open Keyword

/-- No keyword stands in a text as a whole word. -/
def quiet : Bool → List Char → Bool
  | _, [] => true
  | inWord, c :: rest => (inWord || (startOf? (c :: rest)).isNone) && quiet (isWord c) rest

/-- Outside of words it does not matter whether a word comes before. -/
theorem quiet_of_endsWord {rest : List Char} (hRest : endsWord rest = true) (inWord : Bool) :
    quiet inWord rest = quiet false rest := by
  cases rest with
  | nil => rfl
  | cons c rest => simp [quiet, startOf?_of_endsWord hRest]

theorem quiet_cons_of_not_isWord {c : Char} (hMark : isWord c = false) (inWord : Bool)
    (rest : List Char) : quiet inWord (c :: rest) = quiet false rest := by
  have hNone : startOf? (c :: rest) = none := startOf?_of_endsWord (by simp [hMark])
  simp [quiet, hNone, hMark]

/-- A text of marks and white space is passed over. -/
theorem quiet_append_of_marks {marks : List Char} (hMarks : ∀ c ∈ marks, isWord c = false)
    (rest : List Char) : quiet false (marks ++ rest) = quiet false rest := by
  induction marks with
  | nil => rfl
  | cons c marks ih =>
    rw [List.cons_append, quiet_cons_of_not_isWord (hMarks c List.mem_cons_self)]
    exact ih fun d hMem => hMarks d (List.mem_cons_of_mem c hMem)

/-- A word that is not a keyword is passed over. -/
theorem quiet_append_of_free {word rest : List Char} (hWord : ∀ c ∈ word, isWord c = true)
    (hFree : ∀ keyword : Keyword, word ≠ keyword.text.toList) (hRest : endsWord rest = true)
    (inWord : Bool) : quiet inWord (word ++ rest) = quiet false rest := by
  -- within the word nothing is looked for, so only its first character counts
  have hInside : ∀ tail : List Char, (∀ c ∈ tail, isWord c = true) →
      quiet true (tail ++ rest) = quiet false rest := by
    intro tail hTail
    induction tail with
    | nil => exact quiet_of_endsWord hRest true
    | cons c tail ih =>
      rw [List.cons_append, quiet, hTail c List.mem_cons_self]
      simpa using ih fun d hMem => hTail d (List.mem_cons_of_mem c hMem)
  cases word with
  | nil => exact quiet_of_endsWord hRest inWord
  | cons c tail =>
    have hNone : startOf? (c :: (tail ++ rest)) = none :=
      startOf?_eq_none_of_free hWord hFree hRest
    rw [List.cons_append, quiet, hNone, hWord c List.mem_cons_self]
    simpa using hInside tail fun d hMem => hWord d (List.mem_cons_of_mem c hMem)

namespace Clause

variable {keyword : Keyword} {body text rest : List Char}

theorem split_cons_of_eq_none {inWord : Bool} {c : Char}
    (hNone : (if inWord then none else startOf? (c :: rest)) = none) :
    split 0 inWord (c :: rest) =
      (c :: (split 0 (isWord c) rest).1, (split 0 (isWord c) rest).2) := by
  rw [split]
  simp [hNone]

/-- Outside of words it does not matter whether a word comes before. -/
theorem split_of_endsWord (hRest : endsWord rest = true) (inWord : Bool) :
    split 0 inWord rest = split 0 false rest := by
  cases rest with
  | nil => rfl
  | cons c rest =>
    have hNone := startOf?_of_endsWord hRest
    rw [split_cons_of_eq_none (by simp [hNone]), split_cons_of_eq_none (by simp [hNone])]

/-- A quiet text belongs to the clause that it stands in. -/
theorem split_append {inWord : Bool} (hText : quiet inWord text = true)
    (hApart : wordAfter inWord text = false ∨ endsWord rest = true) :
    split 0 inWord (text ++ rest) =
      (text ++ (split 0 (wordAfter inWord text) rest).1,
        (split 0 (wordAfter inWord text) rest).2) := by
  -- the split goes on with the word that the character before belongs to
  induction text generalizing inWord with
  | nil => rfl
  | cons c text ih =>
    rw [quiet, Bool.and_eq_true] at hText
    have hNone : (if inWord then none else startOf? (c :: (text ++ rest))) = none := by
      cases inWord with
      | true => rfl
      | false =>
        have hAlone : startOf? (c :: text) = none := by simpa using hText.1
        exact startOf?_append_eq_none hAlone hApart
    rw [List.cons_append, split_cons_of_eq_none hNone, ih hText.2 hApart]
    rfl

/-- A keyword begins a clause. -/
theorem split_keyword (keyword : Keyword) (hRest : endsWord rest = true) :
    split 0 false (keyword.text.toList ++ rest) =
      ([], ⟨keyword, (split 0 false rest).1⟩ :: (split 0 false rest).2) := by
  have hStart := startOf?_append keyword hRest
  -- the rest of the keyword is skipped unread
  have hSkip : ∀ (skipped : List Char) (inWord : Bool), (∀ c ∈ skipped, isWord c = true) →
      split skipped.length inWord (skipped ++ rest) = split 0 false rest := by
    intro skipped inWord hSkipped
    induction skipped generalizing inWord with
    | nil => exact split_of_endsWord hRest inWord
    | cons c skipped ih => exact ih _ fun d hMem => hSkipped d (List.mem_cons_of_mem c hMem)
  obtain ⟨c, tail, hText⟩ := List.exists_cons_of_ne_nil keyword.text_ne_nil
  have hTail : ∀ d ∈ tail, isWord d = true := by
    intro d hMem
    exact @isWord_of_mem_text keyword d (by simp [hText, hMem])
  have hLength : keyword.text.length - 1 = tail.length := by
    rw [← String.length_toList, hText]
    rfl
  rw [hText] at hStart ⊢
  rw [List.cons_append] at hStart ⊢
  rw [split]
  simp [hStart, hLength, hSkip tail _ hTail]

/-- A keyword with a quiet text behind it is a clause. -/
theorem split_clause (hBody : endsWord (body ++ rest) = true) (hQuiet : quiet false body = true)
    (hApart : wordAfter false body = false ∨ endsWord rest = true) :
    split 0 false (keyword.text.toList ++ (body ++ rest)) =
      ([], ⟨keyword, body ++ (split 0 false rest).1⟩ :: (split 0 false rest).2) := by
  have hSame : split 0 (wordAfter false body) rest = split 0 false rest := by
    rcases hApart with hOutside | hEnds
    · rw [hOutside]
    · exact split_of_endsWord hEnds _
  rw [split_keyword keyword hBody, split_append hQuiet hApart, hSame]

/-- A clause as it is printed. -/
def printed (clause : Clause) : List Char :=
  clause.keyword.text.toList ++ clause.body

/-- Clauses can be printed one after another: no keyword stands inside of one, and no
word runs from one into the next. -/
def Separate : List Clause → Prop
  | [] => True
  | clause :: rest =>
    (endsWord clause.body = true ∧ quiet false clause.body = true) ∧
      (rest = [] ∨ wordAfter true clause.body = false) ∧ Separate rest

/-- Printed clauses are found again. -/
theorem ofText_flatMap_printed {clauses : List Clause} (hSeparate : Separate clauses) :
    ofText (clauses.flatMap printed) = clauses := by
  have hSplit : split 0 false (clauses.flatMap printed) = ([], clauses) := by
    induction clauses with
    | nil => rfl
    | cons clause rest ih =>
      obtain ⟨⟨hStart, hQuiet⟩, hNext, hRest⟩ := hSeparate
      have hText : (clause :: rest).flatMap printed =
          clause.keyword.text.toList ++ (clause.body ++ rest.flatMap printed) := by
        simp [printed]
      rw [hText]
      rcases hNext with rfl | hAfter
      · -- behind the last clause there is nothing, so its body may end in a word
        rw [split_clause (by simpa using hStart) hQuiet (Or.inr rfl)]
        simp [split]
      · have hFilled : clause.body ≠ [] := by
          intro hNil
          rw [hNil] at hAfter
          exact Bool.noConfusion hAfter
        have hOutside : wordAfter false clause.body = false := by
          obtain ⟨c, tail, hBody⟩ := List.exists_cons_of_ne_nil hFilled
          rw [hBody] at hAfter ⊢
          exact hAfter
        rw [split_clause (by rwa [endsWord_append_of_ne_nil hFilled]) hQuiet (Or.inl hOutside),
          ih hRest, List.append_nil]
  unfold ofText
  rw [hSplit]

end Clause

end SingleTable.Expression
