import SingleTable.Proofs.Expression.Clauses
import SingleTable.Proofs.Expression.Pieces

/-!
# Reading printed assignments

An assignment is printed from placeholders and signs, with any white space between
them.  A placeholder is a sign and a word that is not a keyword.  The reader of plain
assignments gives the step of a plain one and passes over a conditional one, and the
reader of conditional assignments does it the other way round.  Neither finds anything
that begins inside of an assignment.
-/

namespace SingleTable.Expression

open Text

/-- A word that can stand behind the sign of a placeholder. -/
structure Word where
  chars : List Char
  filled : chars ≠ []
  word : ∀ c ∈ chars, isWord c = true
  free : ∀ keyword : Keyword, chars ≠ keyword.text.toList

/-- White space, or nothing. -/
structure Gap where
  chars : List Char
  space : ∀ c ∈ chars, isSpace c = true

/-- No white space. -/
def Gap.nothing : Gap := ⟨[], by simp⟩

/-- A single blank. -/
def Gap.blank : Gap := ⟨[' '], by simp⟩

@[simp]
theorem Gap.chars_nothing : Gap.nothing.chars = [] := rfl

@[simp]
theorem Gap.chars_blank : Gap.blank.chars = [' '] := rfl

/-- The call behind the sign of a conditional assignment. -/
structure Guard where
  beforeOpen : Gap
  afterOpen : Gap
  other : Word
  beforeComma : Gap
  afterComma : Gap
  value : Word
  beforeClose : Gap

/-- What an assignment sets its attribute to. -/
inductive Source where
  | plain (value : Word)
  | guarded (guard : Guard)

/-- An assignment as it is printed. -/
structure Element where
  name : Word
  beforeSign : Gap
  afterSign : Gap
  source : Source

namespace Word

variable (word : Word)

theorem ne_of_mem {c mark : Char} (hMem : c ∈ word.chars) (hMark : isWord mark = false) :
    c ≠ mark := by
  rintro rfl
  rw [word.word c hMem] at hMark
  exact Bool.noConfusion hMark

theorem isSpace_of_mem {c : Char} (hMem : c ∈ word.chars) : isSpace c = false :=
  isSpace_eq_false_of_isWord (word.word c hMem)

end Word

theorem Gap.isWord_of_mem (gap : Gap) {c : Char} (hMem : c ∈ gap.chars) : isWord c = false :=
  isWord_eq_false_of_isSpace (gap.space c hMem)

/-- The name of the function of conditional assignments. -/
def guardName : List Char := "if_not_exists".toList

namespace Guard

/-- The call up to the placeholder of the attribute that it asks for. -/
def opening (guard : Guard) : List Char :=
  guardName ++ (guard.beforeOpen.chars ++ '(' :: guard.afterOpen.chars)

/-- The call behind the sign of that placeholder. -/
def closing (guard : Guard) : List Char :=
  guard.other.chars ++ (guard.beforeComma.chars ++ ',' :: (guard.afterComma.chars ++
    ':' :: (guard.value.chars ++ (guard.beforeClose.chars ++ [')']))))

end Guard

/-- The source as it is printed. -/
def Source.text : Source → List Char
  | .plain value => ':' :: value.chars
  | .guarded guard => guard.opening ++ '#' :: guard.closing

/-- The assignment behind the sign of its placeholder, up to its source. -/
def Element.opening (element : Element) : List Char :=
  element.name.chars ++ (element.beforeSign.chars ++ '=' :: element.afterSign.chars)

/-- The assignment as it is printed. -/
def Element.text (element : Element) : List Char :=
  '#' :: (element.opening ++ element.source.text)

/-- The step that the assignment stands for. -/
def Element.step (element : Element) : UpdateStep :=
  let name := UpdateStep.placeholder '#' element.name.chars
  match element.source with
  | .plain value => .set name (UpdateStep.placeholder ':' value.chars)
  | .guarded guard =>
    .setIfAbsent name (UpdateStep.placeholder '#' guard.other.chars)
      (UpdateStep.placeholder ':' guard.value.chars)

/-- A removal as it is printed. -/
def removalText (name : Word) : List Char :=
  '#' :: name.chars

/-- The step that a removal stands for. -/
def removal (name : Word) : UpdateStep :=
  .remove (UpdateStep.placeholder '#' name.chars)

/-- The text begins with a comma or white space, or it is empty. -/
def Breaks (text : List Char) : Prop :=
  ∀ c ∈ text.head?, c = ',' ∨ isSpace c = true

section Reading

variable {stops : Char → Bool} {marks : List Char} {rest : List Char}

/-- A run that stops at white space and marks reads a word. -/
theorem run?_word (word : Word) (hStops : ∀ c, stops c = true ↔ isSpace c = true ∨ c ∈ marks)
    (hMarks : ∀ mark ∈ marks, isWord mark = false)
    (hRest : ∀ c ∈ rest.head?, isSpace c = true ∨ c ∈ marks) :
    run? stops (word.chars ++ rest) = some (word.chars, rest) := by
  refine run?_append word.filled ?_ fun c hHead => (hStops c).mpr (hRest c hHead)
  intro c hMem
  cases hStop : stops c with
  | false => rfl
  | true =>
    rcases (hStops c).mp hStop with hSpace | hMark
    · rw [word.isSpace_of_mem hMem] at hSpace
      exact Bool.noConfusion hSpace
    · exact absurd rfl (word.ne_of_mem hMem (hMarks c hMark))

/-- A run that stops at white space and marks reads a word up to the next sign. -/
theorem run?_word_gap (word : Word) (gap : Gap) {sign : Char}
    (hStops : ∀ c, stops c = true ↔ isSpace c = true ∨ c ∈ marks)
    (hMarks : ∀ mark ∈ marks, isWord mark = false) (hSign : sign ∈ marks) (left : List Char) :
    run? stops (word.chars ++ (gap.chars ++ sign :: left)) =
      some (word.chars, gap.chars ++ sign :: left) := by
  refine run?_word word hStops hMarks fun c hHead => ?_
  refine (hStops c).mp ?_
  have hSpace : ∀ d, isSpace d = true → stops d = true := fun d hD => (hStops d).mpr (Or.inl hD)
  exact head?_append_cons hSpace ((hStops sign).mpr (Or.inr hSign)) gap.space c hHead

/-- A mark is found between gaps. -/
theorem mark?_gap (before after : Gap) {sign first : Char} (hSign : isSpace sign = false)
    (hFirst : isSpace first = false) (left : List Char) :
    mark? [sign] (before.chars ++ sign :: (after.chars ++ first :: left)) =
      some (first :: left) := by
  refine mark?_append before.space hSign after.space ?_
  rintro c hHead
  cases hHead
  exact hFirst

/-- The sign of a conditional assignment is found before the name of the function. -/
theorem Gap.mark?_guardName (before after : Gap) (left : List Char) :
    mark? ['='] (before.chars ++ '=' :: (after.chars ++ (guardName ++ left))) =
      some (guardName ++ left) :=
  @mark?_gap before after '=' 'i' (by decide) (by decide) _

/-- The name of an assignment is read up to its sign. -/
theorem run?_setName (name : Word) (gap : Gap) {sign : Char} (hSign : sign ∈ [',', '(', '='])
    (left : List Char) :
    run? (fun c => c == ',' || isSpace c || c == '(' || c == '=')
        (name.chars ++ (gap.chars ++ sign :: left)) =
      some (name.chars, gap.chars ++ sign :: left) :=
  run?_word_gap name gap (by grind) (by simp [isWord, isAsciiWord]) hSign left

/-- The name of a conditional assignment is read up to its sign. -/
theorem run?_guardedName (name : Word) (gap : Gap) {sign : Char} (hSign : sign ∈ [',', '='])
    (left : List Char) :
    run? (fun c => c == ',' || isSpace c || c == '=')
        (name.chars ++ (gap.chars ++ sign :: left)) =
      some (name.chars, gap.chars ++ sign :: left) :=
  run?_word_gap name gap (by grind) (by simp [isWord, isAsciiWord]) hSign left

variable {element : Element} {guard : Guard} {value : Word}

/-- A plain assignment is read as its step. -/
theorem readSet_of_plain (hSource : element.source = .plain value) (hRest : Breaks rest) :
    UpdateStep.readSet (element.text ++ rest) = some (element.step, rest) := by
  obtain ⟨name, before, after, source⟩ := element
  cases hSource
  have hName := @run?_setName name before '=' (by decide)
  have hSign := @mark?_gap before after '=' ':' (by decide) (by decide)
  have hValue : run? (fun c => isSpace c || c == ',' || c == '(') (value.chars ++ rest) =
      some (value.chars, rest) :=
    @run?_word _ [',', '('] _ value (by grind) (by simp [isWord, isAsciiWord]) fun c hHead =>
      (hRest c hHead).symm.imp_right (by rintro rfl; decide)
  simp only [Element.text, Element.opening, Source.text, List.cons_append, List.append_assoc,
    UpdateStep.readSet, literal?, Option.bind_eq_bind, Option.bind_some, ↓reduceIte, hName,
    hSign, hValue]
  rfl

/-- A conditional assignment is not read as a plain one. -/
theorem readSet_of_guarded (hSource : element.source = .guarded guard) :
    UpdateStep.readSet (element.text ++ rest) = none := by
  obtain ⟨name, before, after, source⟩ := element
  cases hSource
  have hName := @run?_setName name before '=' (by decide)
  have hSign := before.mark?_guardName after
  simp only [Element.text, Element.opening, Source.text, Guard.opening, List.cons_append,
    List.append_assoc, UpdateStep.readSet, literal?, Option.bind_eq_bind, Option.bind_some,
    ↓reduceIte, hName, hSign]
  -- what is left to look for is a colon, where the name of the function stands
  rfl

/-- The placeholder that a conditional assignment asks for is not read. -/
theorem readSet_of_closing :
    UpdateStep.readSet ('#' :: (guard.closing ++ rest)) = none := by
  have hName := @run?_setName guard.other guard.beforeComma ',' (by decide)
  have hNone : ∀ left, mark? ['='] (guard.beforeComma.chars ++ ',' :: left) = none :=
    fun left => mark?_append_of_ne guard.beforeComma.space (by decide) (by decide)
  simp only [Guard.closing, List.cons_append, List.append_assoc, UpdateStep.readSet,
    literal?, Option.bind_eq_bind, Option.bind_some, ↓reduceIte, hName, hNone]
  rfl

/-- A plain assignment is not read as a conditional one. -/
theorem readSetIfAbsent_of_plain (hSource : element.source = .plain value) :
    UpdateStep.readSetIfAbsent (element.text ++ rest) = none := by
  obtain ⟨name, before, after, source⟩ := element
  cases hSource
  have hName := @run?_guardedName name before '=' (by decide)
  have hSign := @mark?_gap before after '=' ':' (by decide) (by decide)
  simp only [Element.text, Element.opening, Source.text, List.cons_append, List.append_assoc,
    UpdateStep.readSetIfAbsent, literal?, Option.bind_eq_bind, Option.bind_some, ↓reduceIte,
    hName, hSign]
  rfl

/-- A conditional assignment is read as its step. -/
theorem readSetIfAbsent_of_guarded (hSource : element.source = .guarded guard) :
    UpdateStep.readSetIfAbsent (element.text ++ rest) = some (element.step, rest) := by
  obtain ⟨name, before, after, source⟩ := element
  cases hSource
  obtain ⟨beforeOpen, afterOpen, other, beforeComma, afterComma, value, beforeClose⟩ := guard
  have hName := @run?_guardedName name before '=' (by decide)
  have hSign := before.mark?_guardName after
  have hGuard : ∀ left, literal? "if_not_exists".toList (guardName ++ left) = some left :=
    literal?_append guardName
  have hOpen := @mark?_gap beforeOpen afterOpen '(' '#' (by decide) (by decide)
  have hOther := @run?_word_gap (fun c => isSpace c || c == ',') [','] other beforeComma ','
    (by grind) (by simp [isWord, isAsciiWord]) (by decide)
  have hComma := @mark?_gap beforeComma afterComma ',' ':' (by decide) (by decide)
  have hValue := @run?_word_gap (fun c => isSpace c || c == ')') [')'] value beforeClose ')'
    (by grind) (by simp [isWord, isAsciiWord]) (by decide)
  have hClose : trimStart (beforeClose.chars ++ ')' :: rest) = ')' :: rest := by
    rw [trimStart_append beforeClose.space, trimStart_cons_of_not_isSpace (by decide)]
  simp only [Element.text, Element.opening, Source.text, Guard.opening, Guard.closing,
    List.cons_append, List.append_assoc, List.nil_append, UpdateStep.readSetIfAbsent,
    Option.bind_eq_bind, hName, hSign, hGuard, hOpen, hOther, hComma, hValue, hClose, literal?,
    Option.bind_some, ↓reduceIte]
  rfl

end Reading

theorem readSet_of_ne {c : Char} (hNe : c ≠ '#') (left : List Char) :
    UpdateStep.readSet (c :: left) = none := by
  simp [UpdateStep.readSet, literal?, Ne.symm hNe]

theorem readSetIfAbsent_of_ne {c : Char} (hNe : c ≠ '#') (left : List Char) :
    UpdateStep.readSetIfAbsent (c :: left) = none := by
  simp [UpdateStep.readSetIfAbsent, literal?, Ne.symm hNe]

namespace Element

/-- The assignment has no condition. -/
def isPlain (element : Element) : Bool :=
  match element.source with
  | .plain _ => true
  | .guarded _ => false

end Element

section NumberSign

/-! A number sign stands only before the placeholders of attributes. -/

theorem Gap.ne_of_mem (gap : Gap) {c : Char} (hMem : c ∈ gap.chars) : c ≠ '#' := by
  rintro rfl
  exact absurd (gap.space '#' hMem) (by decide)

theorem Word.ne_numberSign (word : Word) {c : Char} (hMem : c ∈ word.chars) : c ≠ '#' :=
  word.ne_of_mem hMem (by decide)

theorem Element.ne_of_mem_opening (element : Element) {c : Char}
    (hMem : c ∈ element.opening) : c ≠ '#' := by
  unfold opening at hMem
  simp only [List.mem_append, List.mem_cons] at hMem
  rcases hMem with hName | hBefore | rfl | hAfter
  · exact element.name.ne_numberSign hName
  · exact element.beforeSign.ne_of_mem hBefore
  · decide
  · exact element.afterSign.ne_of_mem hAfter

theorem Guard.ne_of_mem_opening (guard : Guard) {c : Char} (hMem : c ∈ guard.opening) :
    c ≠ '#' := by
  unfold opening at hMem
  simp only [List.mem_append, List.mem_cons] at hMem
  rcases hMem with hName | hBefore | rfl | hAfter
  · rintro rfl
    exact absurd hName (by decide)
  · exact guard.beforeOpen.ne_of_mem hBefore
  · decide
  · exact guard.afterOpen.ne_of_mem hAfter

theorem Guard.ne_of_mem_closing (guard : Guard) {c : Char} (hMem : c ∈ guard.closing) :
    c ≠ '#' := by
  unfold closing at hMem
  simp only [List.mem_append, List.mem_cons, List.not_mem_nil, or_false] at hMem
  rcases hMem with hOther | hBefore | rfl | hAfter | rfl | hValue | hClose | rfl
  · exact guard.other.ne_numberSign hOther
  · exact guard.beforeComma.ne_of_mem hBefore
  · decide
  · exact guard.afterComma.ne_of_mem hAfter
  · decide
  · exact guard.value.ne_numberSign hValue
  · exact guard.beforeClose.ne_of_mem hClose
  · decide

end NumberSign

section Assignments

variable {rest : List Char}

/-- Of the assignments only the plain ones are read as such. -/
theorem pieces_readSet (element : Element) (hRest : Breaks rest) :
    pieces UpdateStep.readSet (element.text ++ rest) =
      (if element.isPlain then [element.step] else []) ++ pieces UpdateStep.readSet rest := by
  cases hSource : element.source with
  | plain value =>
    rw [pieces_append (by simp [Element.text]) (readSet_of_plain hSource hRest)]
    simp [Element.isPlain, hSource]
  | guarded guard =>
    have hFirst := @readSet_of_guarded rest element guard hSource
    have hText : element.text ++ rest =
        '#' :: ((element.opening ++ guard.opening) ++ '#' :: (guard.closing ++ rest)) := by
      simp [Element.text, hSource, Source.text]
    rw [hText] at hFirst ⊢
    -- a piece could begin at the two number signs only, and does not at either
    rw [pieces_cons_of_eq_none hFirst, pieces_append_of_eq_none, pieces_cons_of_eq_none,
      pieces_append_of_eq_none]
    · simp [Element.isPlain, hSource]
    · intro c hMem left
      exact readSet_of_ne (guard.ne_of_mem_closing hMem) left
    · exact readSet_of_closing
    · intro c hMem left
      rcases List.mem_append.mp hMem with hName | hCall
      · exact readSet_of_ne (element.ne_of_mem_opening hName) left
      · exact readSet_of_ne (guard.ne_of_mem_opening hCall) left

/-- Of the assignments only the conditional ones are read as such. -/
theorem pieces_readSetIfAbsent (element : Element) (rest : List Char) :
    pieces UpdateStep.readSetIfAbsent (element.text ++ rest) =
      (if !element.isPlain then [element.step] else []) ++
        pieces UpdateStep.readSetIfAbsent rest := by
  cases hSource : element.source with
  | plain value =>
    have hFirst := @readSetIfAbsent_of_plain rest element value hSource
    have hText : element.text ++ rest =
        '#' :: ((element.opening ++ ':' :: value.chars) ++ rest) := by
      simp [Element.text, hSource, Source.text]
    rw [hText] at hFirst ⊢
    rw [pieces_cons_of_eq_none hFirst, pieces_append_of_eq_none]
    · simp [Element.isPlain, hSource]
    · intro c hMem left
      refine readSetIfAbsent_of_ne ?_ left
      rw [List.mem_append, List.mem_cons] at hMem
      rcases hMem with hName | rfl | hValue
      · exact element.ne_of_mem_opening hName
      · decide
      · exact value.ne_numberSign hValue
  | guarded guard =>
    rw [pieces_append (by simp [Element.text]) (readSetIfAbsent_of_guarded hSource)]
    simp [Element.isPlain, hSource]

end Assignments

theorem Word.solid (word : Word) : Solid word.chars where
  filled := word.filled
  first _ hHead := word.isSpace_of_mem (List.mem_of_head? hHead)
  last _ hLast := word.isSpace_of_mem (List.mem_of_getLast? hLast)

theorem solid_removalText (name : Word) : Solid (removalText name) :=
  (Solid.singleton (by decide)).append [] name.solid

theorem Element.solid_text (element : Element) : Solid element.text := by
  have hSource : Solid element.source.text := by
    cases element.source with
    | plain value => exact (Solid.singleton (by decide)).append [] value.solid
    | guarded guard =>
      have hGuardName : Solid guardName :=
        ⟨by decide, by rintro _ ⟨⟩; decide, by rintro _ ⟨⟩; decide⟩
      have hText : (Source.guarded guard).text = guardName ++ ((guard.beforeOpen.chars ++
          '(' :: (guard.afterOpen.chars ++ '#' :: (guard.other.chars ++
            (guard.beforeComma.chars ++ ',' :: (guard.afterComma.chars ++
              ':' :: (guard.value.chars ++ guard.beforeClose.chars)))))) ++ [')']) := by
        simp [Source.text, Guard.opening, Guard.closing]
      rw [hText]
      exact hGuardName.append _ (Solid.singleton (by decide))
  exact (Solid.singleton (by decide)).append element.opening hSource

/-- The name of the function as a word. -/
def guardWord : Word where
  chars := guardName
  filled := by decide
  word := List.all_eq_true.mp (by decide)
  free keyword := by cases keyword <;> decide

section Clauses

variable {rest : List Char}

theorem Gap.endsWord_append (gap : Gap) {sign : Char} (hSign : isWord sign = false)
    (rest : List Char) : Keyword.endsWord (gap.chars ++ sign :: rest) = true := by
  cases hChars : gap.chars with
  | nil => simp [hSign]
  | cons c chars => simp [gap.isWord_of_mem (c := c) (by simp [hChars])]

theorem quiet_gap (gap : Gap) {sign : Char} (hSign : isWord sign = false) (rest : List Char) :
    quiet false (gap.chars ++ sign :: rest) = quiet false rest := by
  rw [quiet_append_of_marks fun c => gap.isWord_of_mem, quiet_cons_of_not_isWord hSign]

theorem quiet_word (word : Word) (hRest : Keyword.endsWord rest = true) :
    quiet false (word.chars ++ rest) = quiet false rest :=
  quiet_append_of_free word.word word.free hRest false

theorem quiet_removalText (name : Word) (hRest : Keyword.endsWord rest = true) :
    quiet false (removalText name ++ rest) = quiet false rest := by
  rw [removalText, List.cons_append, quiet_cons_of_not_isWord (by decide), quiet_word name hRest]

theorem Source.quiet_text (source : Source) (hRest : Keyword.endsWord rest = true) :
    quiet false (source.text ++ rest) = quiet false rest := by
  cases source with
  | plain value =>
    rw [text, List.cons_append, quiet_cons_of_not_isWord (by decide), quiet_word value hRest]
  | guarded guard =>
    have hText : (guarded guard).text ++ rest = guardWord.chars ++ (guard.beforeOpen.chars ++
        '(' :: (guard.afterOpen.chars ++ '#' :: (guard.other.chars ++ (guard.beforeComma.chars ++
          ',' :: (guard.afterComma.chars ++ ':' :: (guard.value.chars ++
            (guard.beforeClose.chars ++ ')' :: rest))))))) := by
      simp [text, Guard.opening, Guard.closing, guardWord]
    rw [hText, quiet_word _ (guard.beforeOpen.endsWord_append (by decide) _),
      quiet_gap _ (by decide), quiet_gap _ (by decide),
      quiet_word _ (guard.beforeComma.endsWord_append (by decide) _),
      quiet_gap _ (by decide), quiet_gap _ (by decide),
      quiet_word _ (guard.beforeClose.endsWord_append (by decide) _), quiet_gap _ (by decide)]

theorem Element.quiet_text (element : Element) (hRest : Keyword.endsWord rest = true) :
    quiet false (element.text ++ rest) = quiet false rest := by
  have hText : element.text ++ rest = '#' :: (element.name.chars ++ (element.beforeSign.chars ++
      '=' :: (element.afterSign.chars ++ (element.source.text ++ rest)))) := by
    simp [text, opening]
  rw [hText, quiet_cons_of_not_isWord (by decide),
    quiet_word _ (element.beforeSign.endsWord_append (by decide) _), quiet_gap _ (by decide),
    quiet_append_of_marks fun c => element.afterSign.isWord_of_mem,
    element.source.quiet_text hRest]

end Clauses

end SingleTable.Expression
