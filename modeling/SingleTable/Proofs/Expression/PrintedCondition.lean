import SingleTable.Expression.Condition
import SingleTable.Proofs.Expression.Printed

/-!
# Reading printed conditions

A condition is printed from placeholders, the bare words and signs of its kind, and white
space.  A placeholder here is a sign and any word behind it.  Each kind of conditions has
its reader, which gives back what was printed as long as the text ends there or white
space follows.
-/

namespace SingleTable

open Text

namespace Expression

/-- A character of a placeholder: the sign of a name or of a value, or part of a word. -/
def isInk (c : Char) : Bool :=
  isWord c || c == '#' || c == ':'

theorem isSpace_of_isInk {c : Char} (hInk : isInk c = true) : isSpace c = false := by
  unfold isInk at hInk
  rw [Bool.or_eq_true, Bool.or_eq_true, beq_iff_eq, beq_iff_eq] at hInk
  rcases hInk with (hWord | rfl) | rfl
  · exact isSpace_eq_false_of_isWord hWord
  · decide
  · decide

theorem ne_of_isInk {c : Char} (hInk : isInk c = true) (mark : Char)
    (hMark : isInk mark = false) : c ≠ mark := by
  rintro rfl
  rw [hInk] at hMark
  exact Bool.noConfusion hMark

/-- A placeholder as it is printed. -/
structure Placeholder where
  sign : Char
  word : List Char
  signed : sign = '#' ∨ sign = ':'
  inWord : ∀ c ∈ word, isWord c = true

/-- White space, at least one character of it. -/
structure Blank extends Gap where
  filled : chars ≠ []

/-- The text is at its end or goes on with white space. -/
def Apart (text : List Char) : Prop :=
  ∀ c ∈ text.head?, isSpace c = true

namespace Placeholder

variable (placeholder : Placeholder)

/-- The placeholder as it is printed. -/
def chars : List Char :=
  placeholder.sign :: placeholder.word

/-- The placeholder as a condition keeps it. -/
def text : String :=
  String.ofList placeholder.chars

theorem isInk_of_mem {c : Char} (hMem : c ∈ placeholder.chars) : isInk c = true := by
  rcases List.mem_cons.mp hMem with rfl | hWord
  · rcases placeholder.signed with hSign | hSign <;> rw [hSign] <;> decide
  · simp [isInk, placeholder.inWord c hWord]

theorem isSpace_sign : isSpace placeholder.sign = false :=
  isSpace_of_isInk (placeholder.isInk_of_mem List.mem_cons_self)

/-- A run that no placeholder stops reads a placeholder up to what stops it. -/
theorem run?_chars_append {stops : Char → Bool} {rest : List Char}
    (hInk : ∀ c, isInk c = true → stops c = false) (hRest : ∀ c ∈ rest.head?, stops c = true) :
    run? stops (placeholder.chars ++ rest) = some (placeholder.chars, rest) :=
  run?_append (List.cons_ne_nil _ _) (fun c hMem => hInk c (placeholder.isInk_of_mem hMem)) hRest

/-- A run that stops at white space and at a sign reads a placeholder up to the sign. -/
theorem run?_chars_gap {stops : Char → Bool} (gap : Gap) {sign : Char}
    (hInk : ∀ c, isInk c = true → stops c = false) (hSpace : ∀ c, isSpace c = true → stops c = true)
    (hSign : stops sign = true) (left : List Char) :
    run? stops (placeholder.chars ++ (gap.chars ++ sign :: left)) =
      some (placeholder.chars, gap.chars ++ sign :: left) :=
  placeholder.run?_chars_append hInk (head?_append_cons hSpace hSign gap.space)

/-- White space in front of a placeholder is passed over. -/
theorem trimStart_gap_append (gap : Gap) (rest : List Char) :
    trimStart (gap.chars ++ (placeholder.chars ++ rest)) = placeholder.chars ++ rest := by
  rw [trimStart_append gap.space]
  exact trimStart_cons_of_not_isSpace placeholder.isSpace_sign _

/-- A mark is found between gaps with a placeholder behind them. -/
theorem mark?_append (before after : Gap) {sign : Char} (hSign : isSpace sign = false)
    (rest : List Char) :
    mark? [sign] (before.chars ++ sign :: (after.chars ++ (placeholder.chars ++ rest))) =
      some (placeholder.chars ++ rest) :=
  mark?_gap before after hSign placeholder.isSpace_sign _

end Placeholder

namespace Blank

variable (blank : Blank)

theorem apart_append (rest : List Char) : Apart (blank.chars ++ rest) := by
  obtain ⟨c, chars, hChars⟩ := List.exists_cons_of_ne_nil blank.filled
  rw [hChars]
  rintro _ ⟨⟩
  exact blank.space c (by simp [hChars])

theorem space?_append {rest : List Char} (hRest : ∀ c ∈ rest.head?, isSpace c = false) :
    space? (blank.chars ++ rest) = some rest := by
  obtain ⟨c, chars, hChars⟩ := List.exists_cons_of_ne_nil blank.filled
  have hFirst : isSpace c = true := blank.space c (by simp [hChars])
  have hTrim : trimStart (blank.chars ++ rest) = rest := by
    rw [trimStart_append blank.space, trimStart_of_head? hRest]
  rw [hChars, List.cons_append] at hTrim ⊢
  simp [space?, hFirst, hTrim]

/-- A word is found between white space with a placeholder behind it. -/
theorem word?_append (before after : Blank) {word : List Char}
    (hFilled : word ≠ []) (hWord : ∀ c ∈ word.head?, isSpace c = false) (next : Placeholder)
    (rest : List Char) :
    word? word (before.chars ++ (word ++ (after.chars ++ (next.chars ++ rest)))) =
      some (next.chars ++ rest) := by
  obtain ⟨c, chars, rfl⟩ := List.exists_cons_of_ne_nil hFilled
  have hBefore : space? (before.chars ++ (c :: chars ++ (after.chars ++ (next.chars ++ rest)))) =
      some (c :: chars ++ (after.chars ++ (next.chars ++ rest))) :=
    before.space?_append hWord
  have hAfter : space? (after.chars ++ (next.chars ++ rest)) = some (next.chars ++ rest) := by
    refine after.space?_append ?_
    rintro _ ⟨⟩
    exact next.isSpace_sign
  simp only [word?, hBefore, Option.bind_eq_bind, Option.bind_some, literal?_append, hAfter]

end Blank

end Expression

namespace Condition

open Expression

/-- The signs that compare with one value. -/
inductive Comparator where
  | equal
  | less
  | atMost
  | greater
  | atLeast

/-- The operator that the sign stands for. -/
def Comparator.operator : Comparator → Operator
  | .equal => .equal
  | .less => .less
  | .atMost => .atMost
  | .greater => .greater
  | .atLeast => .atLeast

/-- The sign as it is printed. -/
def Comparator.symbol (comparator : Comparator) : List Char :=
  comparator.operator.text.toList

/-- What kinds of conditions there are, one for each reader. -/
inductive Kind where
  | range
  | comparison
  | call
deriving DecidableEq

/-- A condition as it is printed. -/
inductive Conjunct where
  | range (name : Placeholder) (beforeBetween afterBetween : Blank) (low : Placeholder)
      (beforeAnd afterAnd : Blank) (high : Placeholder)
  | comparison (name : Placeholder) (before : Gap) (comparator : Comparator) (after : Gap)
      (value : Placeholder)
  | call (beforeOpen afterOpen : Gap) (name : Placeholder) (beforeComma afterComma : Gap)
      (value : Placeholder) (beforeClose : Gap)

/-- A part of a printed condition. -/
inductive Token where
  | placeholder (placeholder : Placeholder)
  | gap (gap : Gap)
  | bare (chars : List Char)

/-- The part as it is printed. -/
def Token.chars : Token → List Char
  | .placeholder shown => shown.chars
  | .gap space => space.chars
  | .bare chars => chars

namespace Conjunct

/-- The kind of the condition. -/
def kind : Conjunct → Kind
  | .range .. => .range
  | .comparison .. => .comparison
  | .call .. => .call

/-- The parts of the condition in order. -/
def tokens : Conjunct → List Token
  | .range name beforeBetween afterBetween low beforeAnd afterAnd high =>
    [.placeholder name, .gap beforeBetween.toGap, .bare "BETWEEN".toList,
      .gap afterBetween.toGap, .placeholder low, .gap beforeAnd.toGap, .bare "AND".toList,
      .gap afterAnd.toGap, .placeholder high]
  | .comparison name before comparator after value =>
    [.placeholder name, .gap before, .bare comparator.symbol, .gap after, .placeholder value]
  | .call beforeOpen afterOpen name beforeComma afterComma value beforeClose =>
    [.bare Operator.beginsWith.text.toList, .gap beforeOpen, .bare ['('], .gap afterOpen,
      .placeholder name, .gap beforeComma, .bare [','], .gap afterComma, .placeholder value,
      .gap beforeClose, .bare [')']]

/-- The condition as it is printed. -/
def chars (conjunct : Conjunct) : List Char :=
  conjunct.tokens.flatMap Token.chars

/-- The condition as it stands in an expression. -/
def text (conjunct : Conjunct) : String :=
  String.ofList conjunct.chars

/-- The condition that is meant. -/
def condition : Conjunct → Condition
  | .range name _ _ low _ _ high => ⟨.between, name.text, .range low.text high.text⟩
  | .comparison name _ comparator _ value =>
    ⟨comparator.operator, name.text, .single value.text⟩
  | .call _ _ name _ _ value _ => ⟨.beginsWith, name.text, .single value.text⟩

/-- The condition with its operator as a word. -/
def written (conjunct : Conjunct) : Written :=
  ⟨conjunct.condition.name, conjunct.condition.operator.text, conjunct.condition.operand⟩

end Conjunct

/-- The reader of a kind of conditions. -/
def Kind.read : Kind → Reader Written
  | .range => readRange
  | .comparison => readComparison
  | .call => readCall

/-- What ends the run of characters that the reader begins with. -/
def Kind.stops : Kind → Char → Bool
  | .range, c => endsBound c
  | .comparison, c => endsValue c || isSymbol c
  | .call, c => isSpace c || c == ',' || c == '('

theorem isSpace_of_isSymbol {c : Char} (hSymbol : isSymbol c = true) : isSpace c = false := by
  unfold isSymbol at hSymbol
  rw [Bool.or_eq_true, Bool.or_eq_true, beq_iff_eq, beq_iff_eq, beq_iff_eq] at hSymbol
  rcases hSymbol with (rfl | rfl) | rfl <;> decide

theorem Comparator.isSymbol_of_mem (comparator : Comparator) :
    ∀ c ∈ comparator.symbol, isSymbol c = true := by
  cases comparator <;> exact List.all_eq_true.mp (by decide)

section Ink

/-! No run of a reader stops in a placeholder. -/

variable {c : Char}

theorem isSymbol_of_isInk (hInk : isInk c = true) : isSymbol c = false := by
  unfold isSymbol
  simp [ne_of_isInk hInk '<' (by decide), ne_of_isInk hInk '>' (by decide),
    ne_of_isInk hInk '=' (by decide)]

theorem endsBound_of_isInk (hInk : isInk c = true) : endsBound c = false := by
  unfold endsBound
  simp [isSpace_of_isInk hInk, ne_of_isInk hInk ',' (by decide)]

theorem endsValue_of_isInk (hInk : isInk c = true) : endsValue c = false := by
  unfold endsValue
  simp [isSpace_of_isInk hInk, ne_of_isInk hInk ',' (by decide),
    ne_of_isInk hInk '(' (by decide), ne_of_isInk hInk ')' (by decide)]

theorem Kind.stops_of_isInk (kind : Kind) (hInk : isInk c = true) : kind.stops c = false := by
  cases kind with
  | range => exact endsBound_of_isInk hInk
  | comparison => simp [stops, endsValue_of_isInk hInk, isSymbol_of_isInk hInk]
  | call =>
    simp [stops, isSpace_of_isInk hInk, ne_of_isInk hInk ',' (by decide),
      ne_of_isInk hInk '(' (by decide)]

end Ink

section Reading

variable {rest : List Char}

/-- A range is read up to what follows it. -/
theorem readRange_append (name low high : Placeholder)
    (beforeBetween afterBetween beforeAnd afterAnd : Blank) (hRest : Apart rest) :
    readRange (name.chars ++ (beforeBetween.chars ++ ("BETWEEN".toList ++ (afterBetween.chars ++
        (low.chars ++ (beforeAnd.chars ++ ("AND".toList ++ (afterAnd.chars ++
          (high.chars ++ rest))))))))) =
      some (⟨name.text, Operator.between.text, .range low.text high.text⟩, rest) := by
  have hBound : ∀ (bound : Placeholder) {left : List Char}, Apart left →
      run? endsBound (bound.chars ++ left) = some (bound.chars, left) := by
    intro bound left hLeft
    refine bound.run?_chars_append (fun c => endsBound_of_isInk) fun c hHead => ?_
    simp [endsBound, hLeft c hHead]
  have hName := fun left => hBound name (beforeBetween.apart_append left)
  have hLow := fun left => hBound low (beforeAnd.apart_append left)
  have hHigh := hBound high hRest
  have hBetween := @Blank.word?_append beforeBetween afterBetween "BETWEEN".toList
    (by decide) (by rintro c ⟨⟩; decide) low
  have hAnd := @Blank.word?_append beforeAnd afterAnd "AND".toList
    (by decide) (by rintro c ⟨⟩; decide) high
  simp only [readRange, Option.bind_eq_bind, Option.bind_some, hName, hBetween, hLow, hAnd, hHigh]
  rfl

/-- A comparison is read up to what follows it. -/
theorem readComparison_append (name value : Placeholder) (before after : Gap)
    (comparator : Comparator) (hRest : Apart rest) :
    readComparison (name.chars ++ (before.chars ++ (comparator.symbol ++ (after.chars ++
        (value.chars ++ rest))))) =
      some (⟨name.text, comparator.operator.text, .single value.text⟩, rest) := by
  obtain ⟨first, others, hSymbol⟩ : ∃ first others, comparator.symbol = first :: others := by
    cases comparator <;> exact ⟨_, _, rfl⟩
  have hFirst : isSymbol first = true :=
    comparator.isSymbol_of_mem first (by simp [hSymbol])
  have hName : ∀ left, run? (fun c => endsValue c || isSymbol c)
      (name.chars ++ (before.chars ++ (comparator.symbol ++ left))) =
        some (name.chars, before.chars ++ (comparator.symbol ++ left)) := by
    intro left
    rw [hSymbol]
    refine name.run?_chars_gap before (fun c => Kind.comparison.stops_of_isInk) ?_ ?_ _
    · intro c hSpace
      simp [Kind.stops, endsValue, hSpace]
    · simp [Kind.stops, hFirst]
  have hBefore : ∀ left, trimStart (before.chars ++ (comparator.symbol ++ left)) =
      comparator.symbol ++ left := by
    intro left
    rw [trimStart_append before.space, hSymbol]
    exact trimStart_cons_of_not_isSpace (isSpace_of_isSymbol hFirst) _
  have hSign : run? (!isSymbol ·)
      (comparator.symbol ++ (after.chars ++ (value.chars ++ rest))) =
        some (comparator.symbol, after.chars ++ (value.chars ++ rest)) := by
    refine run?_append (by simp [hSymbol]) ?_ ?_
    · intro c hMem
      simp [comparator.isSymbol_of_mem c hMem]
    · refine head?_append_cons (fun c hSpace => ?_) ?_ after.space
      · cases hBad : isSymbol c with
        | false => rfl
        | true => simp [isSpace_of_isSymbol hBad] at hSpace
      · simp [isSymbol_of_isInk (value.isInk_of_mem List.mem_cons_self)]
  have hValue : run? endsValue (value.chars ++ rest) = some (value.chars, rest) := by
    refine value.run?_chars_append (fun c => endsValue_of_isInk) fun c hHead => ?_
    simp [endsValue, hRest c hHead]
  have hText : String.ofList comparator.symbol = comparator.operator.text :=
    String.ofList_toList
  simp only [readComparison, Option.bind_eq_bind, Option.bind_some, hName, hBefore, hSign,
    value.trimStart_gap_append, hValue, hText]
  rfl

/-- A call is read up to what follows it. -/
theorem readCall_append (name value : Placeholder)
    (beforeOpen afterOpen beforeComma afterComma beforeClose : Gap) :
    readCall (Operator.beginsWith.text.toList ++ (beforeOpen.chars ++ '(' :: (afterOpen.chars ++
        (name.chars ++ (beforeComma.chars ++ ',' :: (afterComma.chars ++ (value.chars ++
          (beforeClose.chars ++ ')' :: rest)))))))) =
      some (⟨name.text, Operator.beginsWith.text, .single value.text⟩, rest) := by
  have hFunction : ∀ left, run? (fun c => isSpace c || c == ',' || c == '(')
      (Operator.beginsWith.text.toList ++ (beforeOpen.chars ++ '(' :: left)) =
        some (Operator.beginsWith.text.toList, beforeOpen.chars ++ '(' :: left) := by
    intro left
    refine run?_append (by decide) (fun c hMem => ?_) ?_
    · have hInk : isInk c = true := List.all_eq_true.mp (by decide) c hMem
      exact Kind.call.stops_of_isInk hInk
    · exact head?_append_cons (fun c hSpace => by simp [hSpace]) (by simp) beforeOpen.space
  have hName : ∀ left, run? (fun c => isSpace c || c == ',')
      (name.chars ++ (beforeComma.chars ++ ',' :: left)) =
        some (name.chars, beforeComma.chars ++ ',' :: left) :=
    name.run?_chars_gap beforeComma
      (fun c hInk => by simp [isSpace_of_isInk hInk, ne_of_isInk hInk ',' (by decide)])
      (fun c hSpace => by simp [hSpace]) (by simp)
  have hValue : ∀ left, run? (fun c => isSpace c || c == ')')
      (value.chars ++ (beforeClose.chars ++ ')' :: left)) =
        some (value.chars, beforeClose.chars ++ ')' :: left) :=
    value.run?_chars_gap beforeClose
      (fun c hInk => by simp [isSpace_of_isInk hInk, ne_of_isInk hInk ')' (by decide)])
      (fun c hSpace => by simp [hSpace]) (by simp)
  have hOpen := @Placeholder.mark?_append name beforeOpen afterOpen '(' (by decide)
  have hComma := @Placeholder.mark?_append value beforeComma afterComma ',' (by decide)
  have hClose : trimStart (beforeClose.chars ++ ')' :: rest) = ')' :: rest := by
    rw [trimStart_append beforeClose.space, trimStart_cons_of_not_isSpace (by decide)]
  simp only [readCall, Option.bind_eq_bind, Option.bind_some, hFunction, hOpen, hName, hComma,
    hValue, hClose, literal?, ↓reduceIte]
  rfl

/-- A printed condition is read by the reader of its kind. -/
theorem Conjunct.read_chars_append (conjunct : Conjunct) (hRest : Apart rest) :
    conjunct.kind.read (conjunct.chars ++ rest) = some (conjunct.written, rest) := by
  cases conjunct with
  | range name beforeBetween afterBetween low beforeAnd afterAnd high =>
    simp only [chars, tokens, List.flatMap_cons, List.flatMap_nil, Token.chars, List.append_assoc,
      List.nil_append]
    exact readRange_append name low high beforeBetween afterBetween beforeAnd afterAnd hRest
  | comparison name before comparator after value =>
    simp only [chars, tokens, List.flatMap_cons, List.flatMap_nil, Token.chars, List.append_assoc,
      List.nil_append]
    exact readComparison_append name value before after comparator hRest
  | call beforeOpen afterOpen name beforeComma afterComma value beforeClose =>
    simp only [chars, tokens, List.flatMap_cons, List.flatMap_nil, Token.chars, List.append_assoc,
      List.cons_append, List.nil_append]
    exact readCall_append name value beforeOpen afterOpen beforeComma afterComma beforeClose

end Reading

end Condition

end SingleTable
