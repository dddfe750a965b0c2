import SingleTable.Proofs.Expression.Clauses
import SingleTable.Proofs.Text.Trim

/-!
# Where clauses stand

The clauses of a text are found by cutting it from left to right.  Said by places: the
clause of a keyword begins behind the first place where the keyword stands as a whole word,
and goes on to the next place where any keyword does, or to the end of the text (`Found`).
No keyword stands in the body of a clause, read on its own: it was cut out where no word
runs across its ends, so the text that it has lost makes no difference.
-/

namespace SingleTable.Expression

open Text Keyword

/-- A keyword stands at a place of a text, with no word character before it or behind it. -/
def StandsAt (keyword : Keyword) (text : List Char) (place : Nat) : Prop :=
  ∃ before after, before.length = place ∧ text = before ++ (keyword.text.toList ++ after) ∧
    wordAfter false before = false ∧ endsWord after = true

/-- The first place at which a keyword stands. -/
structure FirstAt (keyword : Keyword) (text : List Char) (place : Nat) : Prop where
  stands : StandsAt keyword text place
  first : ∀ earlier < place, ¬StandsAt keyword text earlier

/-- The next place at which any keyword stands, or the end of the text. -/
structure EndsAt (text : List Char) (start stop : Nat) : Prop where
  start_le : start ≤ stop
  le_length : stop ≤ text.length
  free : ∀ place, start ≤ place → place < stop → ∀ keyword, ¬StandsAt keyword text place
  reached : stop = text.length ∨ ∃ keyword, StandsAt keyword text stop

/-- The part of a text from one place up to another. -/
def slice (text : List Char) (start stop : Nat) : List Char :=
  (text.drop start).take (stop - start)

section Slices

variable {before text rest : List Char}

theorem slice_append : slice (before ++ (text ++ rest)) before.length (before ++ text).length =
    text := by
  unfold slice
  rw [List.drop_left, List.length_append, Nat.add_sub_cancel_left, List.take_left]

theorem slice_append_all : slice (before ++ text) before.length (before ++ text).length =
    text := by
  have hSlice := @slice_append before text []
  rwa [List.append_nil] at hSlice

end Slices

section Places

variable {keyword other : Keyword} {before text rest : List Char} {place : Nat}

theorem wordAfter_append_singleton (c : Char) :
    wordAfter false (before ++ [c]) = isWord c := by
  rw [wordAfter_append]
  rfl

/-- Where no word runs across its end, the first word of a text is that of the text alone. -/
theorem startOf?_append_of_apart
    (hApart : wordAfter true text = false ∨ endsWord rest = true) :
    startOf? (text ++ rest) = startOf? text := by
  cases hStart : startOf? text with
  | none => exact startOf?_append_eq_none hStart hApart
  | some keyword =>
    obtain ⟨left, rfl, hLeft⟩ := exists_of_startOf?_eq_some hStart
    rw [List.append_assoc]
    refine startOf?_append keyword ?_
    cases left with
    | cons c left => exact hLeft
    | nil =>
      -- the keyword is the whole text, so a word would run on
      rcases hApart with hOutside | hRest
      · rw [List.append_nil, wordAfter_of_isWord fun c => isWord_of_mem_text] at hOutside
        exact absurd hOutside (by simp)
      · exact hRest

/-- A keyword stands behind a text if no word comes before and it is the first word there. -/
theorem standsAt_append_iff : StandsAt keyword (before ++ rest) before.length ↔
    wordAfter false before = false ∧ startOf? rest = some keyword := by
  constructor
  · rintro ⟨front, after, hLength, hText, hFront, hAfter⟩
    obtain ⟨rfl, rfl⟩ := List.append_inj hText.symm hLength
    exact ⟨hFront, startOf?_append keyword hAfter⟩
  · rintro ⟨hBefore, hStart⟩
    obtain ⟨after, rfl, hAfter⟩ := exists_of_startOf?_eq_some hStart
    exact ⟨before, after, rfl, rfl, hBefore, hAfter⟩

/-- Two keywords do not stand at one place. -/
theorem StandsAt.eq (hKeyword : StandsAt keyword text place) (hOther : StandsAt other text place) :
    keyword = other := by
  obtain ⟨before, after, rfl, rfl, hBefore, hAfter⟩ := hKeyword
  have hStart := (standsAt_append_iff.mp hOther).2
  rw [startOf?_append keyword hAfter] at hStart
  exact Option.some.inj hStart

/-- A keyword lies within its text. -/
theorem StandsAt.le_length (hStands : StandsAt keyword text place) :
    place + keyword.text.length ≤ text.length := by
  obtain ⟨before, after, rfl, rfl, -, -⟩ := hStands
  simp only [List.length_append, String.length_toList]
  omega

theorem StandsAt.lt_length (hStands : StandsAt keyword text place) : place < text.length := by
  have hFilled : 0 < keyword.text.length := by cases keyword <;> decide
  have hBound := hStands.le_length
  omega

/-- No keyword stands in a quiet part of a text that no word runs out of. -/
theorem not_standsAt_of_quiet (hQuiet : quiet (wordAfter false before) text = true)
    (hApart : wordAfter (wordAfter false before) text = false ∨ endsWord rest = true)
    (hFrom : before.length ≤ place) (hBelow : place < (before ++ text).length) :
    ¬StandsAt keyword (before ++ (text ++ rest)) place := by
  -- the part is passed over character by character, each going over to what comes before
  induction text generalizing before with
  | nil =>
    rw [List.append_nil] at hBelow
    omega
  | cons c text ih =>
    rw [quiet, Bool.and_eq_true] at hQuiet
    by_cases hHere : place = before.length
    · subst hHere
      rw [standsAt_append_iff]
      rintro ⟨hBefore, hStart⟩
      have hAlone : startOf? (c :: text ++ rest) = startOf? (c :: text) :=
        startOf?_append_of_apart hApart
      rw [hAlone] at hStart
      simp [hBefore, hStart] at hQuiet
    · have hNext : before ++ (c :: text ++ rest) = before ++ [c] ++ (text ++ rest) := by simp
      rw [hNext]
      refine ih ?_ ?_ ?_ ?_
      · rw [wordAfter_append_singleton]
        exact hQuiet.2
      · rw [wordAfter_append_singleton]
        exact hApart
      · rw [List.length_append, List.length_singleton]
        omega
      · rwa [List.append_assoc]

/-- No keyword stands within a word or right behind it. -/
theorem not_standsAt_of_isWord (hText : ∀ c ∈ text, isWord c = true)
    (hFrom : before.length < place) (hBelow : place ≤ (before ++ text).length) :
    ¬StandsAt keyword (before ++ (text ++ rest)) place := by
  rintro ⟨front, after, rfl, hSplit, hFront, -⟩
  -- what comes before the place ends in a part of the word
  have hTaken : front = before ++ text.take (front.length - before.length) := by
    have hBoth := congrArg (List.take front.length) hSplit
    rw [List.take_left, ← List.append_assoc, List.take_append_of_le_length hBelow,
      List.take_append, List.take_of_length_le (Nat.le_of_lt hFrom)] at hBoth
    exact hBoth.symm
  have hSome : text.take (front.length - before.length) ≠ [] := by
    intro hNone
    rw [hNone, List.append_nil] at hTaken
    rw [hTaken] at hFrom
    exact Nat.lt_irrefl _ hFrom
  obtain ⟨c, tail, hTail⟩ := List.exists_cons_of_ne_nil hSome
  have hWord : ∀ d ∈ c :: tail, isWord d = true := fun d hMem =>
    hText d (List.mem_of_mem_take (hTail ▸ hMem))
  rw [hTaken, hTail, wordAfter_append, wordAfter_cons, hWord c List.mem_cons_self,
    wordAfter_of_isWord fun d hMem => hWord d (List.mem_cons_of_mem c hMem)] at hFront
  exact absurd hFront (by simp)

/-- No keyword stands in a quiet text at the end of another one. -/
theorem not_standsAt_of_quiet_end (hQuiet : quiet (wordAfter false before) text = true)
    (hFrom : before.length ≤ place) : ¬StandsAt keyword (before ++ text) place := by
  intro hStands
  have hNone := @not_standsAt_of_quiet keyword before text [] place hQuiet (Or.inr rfl) hFrom
    hStands.lt_length
  rw [List.append_nil] at hNone
  exact hNone hStands

/-- A keyword stands behind a part of a text that no word runs out of. -/
theorem standsAt_of_apart (hApart : wordAfter (wordAfter false before) text = false)
    (hRest : endsWord rest = true) :
    StandsAt keyword (before ++ (text ++ (keyword.text.toList ++ rest)))
      (before ++ text).length := by
  rw [← List.append_assoc, standsAt_append_iff, wordAfter_append]
  exact ⟨hApart, startOf?_append keyword hRest⟩

/-- Up to the end of another keyword behind a quiet part, a keyword does not stand. -/
theorem not_standsAt_up_to (hQuiet : quiet (wordAfter false before) text = true)
    (hApart : wordAfter (wordAfter false before) text = false) (hRest : endsWord rest = true)
    (hDiffer : other ≠ keyword) (hFrom : before.length ≤ place)
    (hBelow : place < (before ++ text ++ other.text.toList).length) :
    ¬StandsAt keyword (before ++ (text ++ (other.text.toList ++ rest))) place := by
  rcases Nat.lt_trichotomy place (before ++ text).length with hBefore | rfl | hInside
  · exact not_standsAt_of_quiet hQuiet (Or.inl hApart) hFrom hBefore
  · exact fun hStands => hDiffer ((standsAt_of_apart hApart hRest).eq hStands)
  · -- the other keyword is passed over as a whole
    rw [← List.append_assoc]
    exact not_standsAt_of_isWord (fun c => isWord_of_mem_text) hInside (Nat.le_of_lt hBelow)

/-- What is cut off a quiet text outside of words leaves a quiet text. -/
theorem quiet_of_quiet_append {inWord : Bool} (hRest : endsWord rest = true)
    (hQuiet : quiet inWord (text ++ rest) = true) : quiet inWord text = true := by
  induction text generalizing inWord with
  | nil => rfl
  | cons c text ih =>
    rw [List.cons_append, quiet, Bool.and_eq_true] at hQuiet
    rw [quiet, Bool.and_eq_true]
    refine ⟨?_, ih hQuiet.2⟩
    rw [← List.cons_append, startOf?_append_of_apart (Or.inr hRest)] at hQuiet
    exact hQuiet.1

/-- A keyword has only one first place. -/
theorem FirstAt.eq {later : Nat} (hPlace : FirstAt keyword text place)
    (hLater : FirstAt keyword text later) : place = later := by
  rcases Nat.lt_trichotomy place later with hBelow | hSame | hAbove
  · exact absurd hPlace.stands (hLater.first place hBelow)
  · exact hSame
  · exact absurd hLater.stands (hPlace.first later hAbove)

theorem EndsAt.le {start stop later : Nat} (hStop : EndsAt text start stop)
    (hLater : EndsAt text start later) : stop ≤ later := by
  rcases hLater.reached with hEnd | ⟨keyword, hStands⟩
  · rw [hEnd]
    exact hStop.le_length
  · by_contra hBelow
    exact hStop.free later hLater.start_le (Nat.lt_of_not_le hBelow) keyword hStands

end Places

namespace Clause

variable {keyword : Keyword} {before text : List Char} {place start stop : Nat}

/-- A text is quiet and not cut, or it is cut at its first keyword. -/
theorem split_cases (inWord : Bool) (text : List Char) :
    (quiet inWord text = true ∧ split 0 inWord text = (text, [])) ∨
      ∃ lead keyword rest, text = lead ++ (keyword.text.toList ++ rest) ∧
        quiet inWord lead = true ∧ wordAfter inWord lead = false ∧ endsWord rest = true ∧
        split 0 inWord text =
          (lead, ⟨keyword, (split 0 false rest).1⟩ :: (split 0 false rest).2) := by
  induction text generalizing inWord with
  | nil => exact Or.inl ⟨rfl, rfl⟩
  | cons c text ih =>
    cases hHere : (if inWord then none else startOf? (c :: text)) with
    | none =>
      rw [split_cons_of_eq_none hHere]
      rcases ih (isWord c) with ⟨hQuiet, hSplit⟩ |
        ⟨lead, keyword, rest, rfl, hQuiet, hApart, hRest, hSplit⟩
      · refine Or.inl ⟨?_, by rw [hSplit]⟩
        rw [quiet, hQuiet, Bool.and_true]
        cases inWord with
        | true => rfl
        | false => simpa using hHere
      · refine Or.inr ⟨c :: lead, keyword, rest, rfl, ?_, hApart, hRest, by rw [hSplit]⟩
        rw [quiet, hQuiet, Bool.and_true]
        cases inWord with
        | true => rfl
        | false =>
          have hAlone : startOf? (c :: lead ++ (keyword.text.toList ++ rest)) =
              startOf? (c :: lead) := startOf?_append_of_apart (Or.inl hApart)
          simpa [← hAlone] using hHere
    | some keyword =>
      cases inWord with
      | true => exact absurd hHere (by simp)
      | false =>
        obtain ⟨rest, hText, hRest⟩ :=
          exists_of_startOf?_eq_some (show startOf? (c :: text) = some keyword from hHere)
        rw [hText]
        exact Or.inr ⟨[], keyword, rest, rfl, rfl, rfl, hRest, split_keyword keyword hRest⟩

/-- What comes before the first keyword is quiet. -/
theorem quiet_split (inWord : Bool) (text : List Char) :
    quiet inWord (split 0 inWord text).1 = true := by
  rcases split_cases inWord text with ⟨hQuiet, hSplit⟩ | ⟨lead, _, _, _, hQuiet, _, _, hSplit⟩
  · rw [hSplit]
    exact hQuiet
  · rw [hSplit]
    exact hQuiet

/-- What comes before the first keyword goes up to the place where the keyword stands. -/
theorem exists_endsAt (before text : List Char) :
    ∃ stop, EndsAt (before ++ text) before.length stop ∧
      (split 0 (wordAfter false before) text).1 = slice (before ++ text) before.length stop := by
  rcases split_cases (wordAfter false before) text with ⟨hQuiet, hSplit⟩ |
    ⟨lead, keyword, rest, rfl, hQuiet, hApart, hRest, hSplit⟩
  · refine ⟨(before ++ text).length, ⟨by simp, le_refl _, ?_, Or.inl rfl⟩, ?_⟩
    · exact fun place hFrom _ keyword => not_standsAt_of_quiet_end hQuiet hFrom
    · rw [hSplit, slice_append_all]
  · refine ⟨(before ++ lead).length, ⟨by simp, by simp, ?_, Or.inr ⟨keyword, ?_⟩⟩, ?_⟩
    · exact fun place hFrom hBelow keyword =>
        not_standsAt_of_quiet hQuiet (Or.inl hApart) hFrom hBelow
    · exact standsAt_of_apart hApart hRest
    · rw [hSplit, slice_append]

/-- What is found of a keyword from a place on: no place at which it stands, or the clause
behind the first such place. -/
inductive Found (keyword : Keyword) (text : List Char) (start : Nat) : Option Clause → Prop
  | absent (hNever : ∀ place, start ≤ place → ¬StandsAt keyword text place) :
      Found keyword text start none
  | present {clause : Clause} {place stop : Nat} (hFrom : start ≤ place)
      (hStands : StandsAt keyword text place)
      (hFirst : ∀ earlier, start ≤ earlier → earlier < place → ¬StandsAt keyword text earlier)
      (hEnds : EndsAt text (place + keyword.text.length) stop)
      (hBody : clause.body = slice text (place + keyword.text.length) stop)
      (hQuiet : quiet false clause.body = true) : Found keyword text start (some clause)

/-- Where a keyword does not stand it may be looked for further on. -/
theorem Found.of_skipped {next : Nat} {found : Option Clause}
    (hFound : Found keyword text next found) (hNext : start ≤ next)
    (hSkipped : ∀ place, start ≤ place → place < next → ¬StandsAt keyword text place) :
    Found keyword text start found := by
  cases hFound with
  | absent hNever =>
    refine .absent fun place hFrom => ?_
    rcases Nat.lt_or_ge place next with hBelow | hBeyond
    · exact hSkipped place hFrom hBelow
    · exact hNever place hBeyond
  | present hFrom hStands hFirst hEnds hBody hQuiet =>
    refine .present (Nat.le_trans hNext hFrom) hStands (fun earlier hEarlier hBefore => ?_)
      hEnds hBody hQuiet
    rcases Nat.lt_or_ge earlier next with hBelow | hBeyond
    · exact hSkipped earlier hEarlier hBelow
    · exact hFirst earlier hBeyond hBefore

/-- The first clause with a keyword is the one behind the first place where the keyword
stands. -/
theorem found_split (keyword : Keyword) (before text : List Char) :
    Found keyword (before ++ text) before.length
      ((split 0 (wordAfter false before) text).2.find? fun clause =>
        clause.keyword == keyword) := by
  -- on the number of characters that are left, as the text is cut keyword by keyword
  induction hLength : text.length using Nat.strongRecOn generalizing before text with
  | ind length ih =>
    rcases split_cases (wordAfter false before) text with ⟨hQuiet, hSplit⟩ |
      ⟨lead, first, rest, rfl, hQuiet, hApart, hRest, hSplit⟩
    · rw [hSplit]
      exact .absent fun place hFrom => not_standsAt_of_quiet_end hQuiet hFrom
    · rw [hSplit]
      have hText : before ++ (lead ++ (first.text.toList ++ rest)) =
          before ++ lead ++ first.text.toList ++ rest := by simp
      have hBehind : split 0 (wordAfter false (before ++ lead ++ first.text.toList)) rest =
          split 0 false rest := split_of_endsWord hRest _
      by_cases hSame : first = keyword
      · subst hSame
        rw [List.find?_cons_of_pos (by simp)]
        obtain ⟨stop, hEnds, hBody⟩ := exists_endsAt (before ++ lead ++ first.text.toList) rest
        have hPlace : (before ++ lead ++ first.text.toList).length =
            (before ++ lead).length + first.text.length := by
          rw [List.length_append, String.length_toList]
        rw [hBehind, ← hText, hPlace] at hBody
        rw [← hText, hPlace] at hEnds
        exact .present (by simp) (standsAt_of_apart hApart hRest)
          (fun _ hFrom hBelow => not_standsAt_of_quiet hQuiet (Or.inl hApart) hFrom hBelow)
          hEnds hBody (quiet_split false rest)
      · rw [List.find?_cons_of_neg (by simpa using hSame)]
        have hShorter : rest.length < length := by
          have hFilled := List.length_pos_iff.mpr first.text_ne_nil
          simp only [List.length_append] at hLength
          omega
        have hFound := ih rest.length hShorter (before ++ lead ++ first.text.toList) rest rfl
        rw [hBehind, ← hText] at hFound
        exact hFound.of_skipped (by simp) fun place hFrom hBelow =>
          not_standsAt_up_to hQuiet hApart hRest hSame hFrom hBelow

/-- A keyword never stands as a word and has no clause, or it has the clause that goes from
behind its first place to the next place of a keyword. -/
theorem find?_cases (keyword : Keyword) (text : List Char) :
    ((∀ place, ¬StandsAt keyword text place) ∧
        (ofText text).find? (fun clause => clause.keyword == keyword) = none) ∨
      ∃ clause place stop, (ofText text).find? (fun clause => clause.keyword == keyword) =
          some clause ∧
        FirstAt keyword text place ∧ EndsAt text (place + keyword.text.length) stop ∧
        clause.body = slice text (place + keyword.text.length) stop ∧
        quiet false clause.body = true := by
  have hFound : Found keyword text 0 ((ofText text).find? fun clause =>
      clause.keyword == keyword) := found_split keyword [] text
  generalize (ofText text).find? _ = found at hFound
  cases hFound with
  | absent hNever => exact Or.inl ⟨fun place => hNever place (Nat.zero_le place), rfl⟩
  | @present clause place stop hFrom hStands hFirst hEnds hBody hQuiet =>
    have hPlace : FirstAt keyword text place :=
      ⟨hStands, fun earlier => hFirst earlier (Nat.zero_le earlier)⟩
    exact Or.inr ⟨clause, place, stop, rfl, hPlace, hEnds, hBody, hQuiet⟩

/-- The text without white space around it, if there is any more to it. -/
def filled? (text : List Char) : Option (List Char) :=
  if (trim text).isEmpty then none else some (trim text)

theorem filled?_eq_none_iff : filled? text = none ↔ ∀ c ∈ text, isSpace c = true := by
  rw [← trim_eq_nil_iff, ← List.isEmpty_iff]
  unfold filled?
  split
  · next hEmpty => exact iff_of_true rfl hEmpty
  · next hFilled => exact iff_of_false (by simp) hFilled

theorem filled?_eq_some_iff {body : List Char} :
    filled? text = some body ↔ trim text = body ∧ body ≠ [] := by
  unfold filled?
  split
  · next hEmpty =>
    refine iff_of_false (by simp) ?_
    rintro ⟨rfl, hFilled⟩
    exact hFilled (List.isEmpty_iff.mp hEmpty)
  · next hFilled =>
    rw [Option.some.injEq]
    refine ⟨?_, And.left⟩
    rintro rfl
    exact ⟨rfl, mt List.isEmpty_iff.mpr hFilled⟩

theorem body?_eq_bind (keyword : Keyword) (text : List Char) :
    body? keyword text = ((ofText text).find? fun clause => clause.keyword == keyword).bind
      fun clause => filled? clause.body := rfl

/-- A keyword that never stands as a word has no clause. -/
theorem body?_eq_none_of_never (hNever : ∀ place, ¬StandsAt keyword text place) :
    body? keyword text = none := by
  rw [body?_eq_bind]
  rcases find?_cases keyword text with ⟨-, hNone⟩ | ⟨_, place, _, -, hPlace, -⟩
  · rw [hNone]
    rfl
  · exact absurd hPlace.stands (hNever place)

theorem never_or_exists_firstAt (keyword : Keyword) (text : List Char) :
    (∀ place, ¬StandsAt keyword text place) ∨ ∃ place, FirstAt keyword text place := by
  rcases find?_cases keyword text with ⟨hNever, -⟩ | ⟨_, place, _, -, hPlace, -⟩
  · exact Or.inl hNever
  · exact Or.inr ⟨place, hPlace⟩

/-- The clause of a keyword goes from behind its first place to the next place of a keyword,
without the white space around it. -/
theorem exists_body?_eq_slice (hPlace : FirstAt keyword text place) :
    ∃ stop, EndsAt text (place + keyword.text.length) stop ∧
      body? keyword text = filled? (slice text (place + keyword.text.length) stop) := by
  rw [body?_eq_bind]
  rcases find?_cases keyword text with ⟨hNever, -⟩ |
    ⟨clause, other, stop, hClause, hOther, hEnds, hBody, -⟩
  · exact absurd hPlace.stands (hNever place)
  · obtain rfl := hPlace.eq hOther
    exact ⟨stop, hEnds, by rw [hClause, Option.bind_some, hBody]⟩

/-- No keyword stands in the body of a clause. -/
theorem quiet_of_body? {body : List Char} (hBody : body? keyword text = some body) :
    quiet false body = true := by
  rw [body?_eq_bind] at hBody
  rcases find?_cases keyword text with ⟨-, hNone⟩ | ⟨clause, _, _, hClause, -, -, -, hQuiet⟩
  · rw [hNone] at hBody
    cases hBody
  · rw [hClause, Option.bind_some] at hBody
    obtain ⟨rfl, -⟩ := filled?_eq_some_iff.mp hBody
    obtain ⟨before, after, hText, hBefore, hAfter⟩ := exists_append_trim clause.body
    have hMarks : ∀ c ∈ before, isWord c = false := fun c hMem =>
      isWord_eq_false_of_isSpace (hBefore c hMem)
    have hEnds : endsWord after = true := by
      cases after with
      | nil => rfl
      | cons c after => simp [isWord_eq_false_of_isSpace (hAfter c List.mem_cons_self)]
    rw [hText, quiet_append_of_marks hMarks] at hQuiet
    exact quiet_of_quiet_append hEnds hQuiet

/-- A clause that is found stands behind the first place of its keyword, with only white space
in between. -/
theorem exists_append_body {body : List Char} (hBody : body? keyword text = some body) :
    ∃ before gap after, text = before ++ (keyword.text.toList ++ (gap ++ (body ++ after))) ∧
      FirstAt keyword text before.length ∧ ∀ c ∈ gap, isSpace c = true := by
  rcases never_or_exists_firstAt keyword text with hNever | ⟨place, hPlace⟩
  · rw [body?_eq_none_of_never hNever] at hBody
    exact absurd hBody (by simp)
  · obtain ⟨stop, -, hSlice⟩ := exists_body?_eq_slice hPlace
    rw [hBody] at hSlice
    obtain ⟨hTrim, -⟩ := filled?_eq_some_iff.mp hSlice.symm
    obtain ⟨before, after, rfl, hText, -, -⟩ := hPlace.stands
    -- the slice is the beginning of what comes behind the keyword
    have hTaken : slice text (before.length + keyword.text.length) stop =
        after.take (stop - (before.length + keyword.text.length)) := by
      unfold slice
      rw [hText, ← List.append_assoc, ← String.length_toList, ← List.length_append, List.drop_left]
    generalize stop - (before.length + keyword.text.length) = taken at hTaken
    obtain ⟨gap, left, hAround, hGap, -⟩ := exists_append_trim (after.take taken)
    rw [← hTaken, hTrim, hTaken] at hAround
    refine ⟨before, gap, left ++ after.drop taken, ?_, hPlace, hGap⟩
    have hAfter : after = gap ++ (body ++ (left ++ after.drop taken)) :=
      calc after = after.take taken ++ after.drop taken := (List.take_append_drop ..).symm
        _ = gap ++ (body ++ left) ++ after.drop taken := by rw [← hAround]
        _ = gap ++ (body ++ (left ++ after.drop taken)) := by simp
    rw [← hAfter]
    exact hText

/-- There is no clause where the keyword never stands, or where only white space comes behind
its first place. -/
theorem body?_eq_none_iff : body? keyword text = none ↔
    (∀ place, ¬StandsAt keyword text place) ∨
      ∃ place stop, FirstAt keyword text place ∧
        EndsAt text (place + keyword.text.length) stop ∧
        ∀ c ∈ slice text (place + keyword.text.length) stop, isSpace c = true := by
  rcases never_or_exists_firstAt keyword text with hNever | ⟨place, hPlace⟩
  · exact iff_of_true (body?_eq_none_of_never hNever) (Or.inl hNever)
  · obtain ⟨stop, hStop, hSlice⟩ := exists_body?_eq_slice hPlace
    rw [hSlice, filled?_eq_none_iff]
    constructor
    · exact fun hBlank => Or.inr ⟨place, stop, hPlace, hStop, hBlank⟩
    · rintro (hNever | ⟨other, otherStop, hOther, hOtherStop, hBlank⟩)
      · exact absurd hPlace.stands (hNever place)
      · obtain rfl := hPlace.eq hOther
        rwa [Nat.le_antisymm (hStop.le hOtherStop) (hOtherStop.le hStop)]

end Clause

/-- Nothing of other clauses bleeds into a clause, whatever the text.  The clause of a keyword
is a part of the text behind the first place where the keyword stands as a whole word, with
only white space in between; it is not empty, has no white space at its ends, and no keyword
stands in it, so that read on its own it has no clause of any keyword.  There is no such
clause exactly if the keyword never stands as a whole word, or if nothing but white space
comes between its first place and the next keyword or the end.  The bounds between which the
text is cut are in order and lie within the text. -/
theorem clause_never_bleeds (keyword : Keyword) (text : List Char) :
    (∀ body, Clause.body? keyword text = some body →
      (∃ before gap after, text = before ++ (keyword.text.toList ++ (gap ++ (body ++ after))) ∧
        FirstAt keyword text before.length ∧ ∀ c ∈ gap, isSpace c = true) ∧
      Solid body ∧
      ∀ other, (∀ place, ¬StandsAt other body place) ∧ Clause.body? other body = none) ∧
    (Clause.body? keyword text = none ↔
      (∀ place, ¬StandsAt keyword text place) ∨
        ∃ place stop, FirstAt keyword text place ∧
          EndsAt text (place + keyword.text.length) stop ∧
          ∀ c ∈ slice text (place + keyword.text.length) stop, isSpace c = true) ∧
    ∀ place, FirstAt keyword text place →
      ∃ stop, EndsAt text (place + keyword.text.length) stop ∧
        Clause.body? keyword text =
          Clause.filled? (slice text (place + keyword.text.length) stop) := by
  refine ⟨fun body hBody => ⟨Clause.exists_append_body hBody, ?_, fun other => ?_⟩,
    Clause.body?_eq_none_iff, fun place => Clause.exists_body?_eq_slice⟩
  · obtain ⟨clause, -, hClause⟩ := Option.bind_eq_some_iff.mp hBody
    obtain ⟨rfl, hFilled⟩ := Clause.filled?_eq_some_iff.mp hClause
    exact solid_trim hFilled
  · have hNever : ∀ place, ¬StandsAt other body place := fun place =>
      @not_standsAt_of_quiet_end other [] body place (Clause.quiet_of_body? hBody)
        (Nat.zero_le place)
    exact ⟨hNever, Clause.body?_eq_none_of_never hNever⟩

-- Placeholders and longer words are no keywords, and of two clauses the first one counts.
example : Clause.body? .set "SETx SET \t#ADDRESS = :a SET #b = :b".toList =
    some "#ADDRESS = :a".toList := by decide

end SingleTable.Expression
