import SingleTable.Proofs.Expression.PrintedCondition
import SingleTable.Proofs.Outcome

/-!
# Reading printed conditions back

Every reader of conditions begins with a run of characters and goes on with a mark behind
white space: a sign of a comparison, the parenthesis of a call or the first letter of
`BETWEEN`.  Conditions of other kinds have no such mark where the reader could look for
it, so it passes over them and over what joins them.  A conjunction of printed conditions
is therefore read as its ranges, its comparisons and its calls, each in the order of the
text.
-/

namespace SingleTable

open Text Outcome

namespace Condition

open Expression

/-- The characters that the reader looks for behind its first run. -/
def Kind.marks : Kind → Char → Bool
  | .range, c => c == 'B'
  | .comparison, c => isSymbol c
  | .call, c => c == '('

namespace Kind

variable {kind : Kind} {text : List Char} {c : Char}

theorem marks_of_isSpace (kind : Kind) (hSpace : isSpace c = true) : kind.marks c = false := by
  cases hMark : kind.marks c with
  | false => rfl
  | true =>
    have hSolid : isSpace c = false := by
      cases kind with
      | range =>
        rw [beq_iff_eq.mp hMark]
        decide
      | comparison => exact isSpace_of_isSymbol hMark
      | call =>
        rw [beq_iff_eq.mp hMark]
        decide
    rw [hSpace] at hSolid
    exact Bool.noConfusion hSolid

theorem stops_of_isSpace (kind : Kind) (hSpace : isSpace c = true) : kind.stops c = true := by
  cases kind <;> simp [stops, endsBound, endsValue, hSpace]

/-- No mark comes first in the text, white space left out. -/
def Unmarked (kind : Kind) (text : List Char) : Prop :=
  ∀ c ∈ (trimStart text).head?, kind.marks c = false

/-- Nothing is read where no mark stands behind the first run. -/
theorem read_eq_none (hText : kind.Unmarked (text.dropWhile (!kind.stops ·))) :
    kind.read text = none := by
  cases kind with
  | range =>
    show readRange text = none
    cases hRun : run? endsBound text with
    | none => simp only [readRange, hRun, Option.bind_eq_bind, Option.bind_none]
    | some found =>
      obtain ⟨name, rest⟩ := found
      have hWord : word? "BETWEEN".toList rest = none := by
        rw [run?_eq_some hRun]
        exact word?_eq_none_of_head? hText
      simp only [readRange, hRun, hWord, Option.bind_eq_bind, Option.bind_some, Option.bind_none]
  | comparison =>
    show readComparison text = none
    cases hRun : run? (fun c => endsValue c || isSymbol c) text with
    | none => simp only [readComparison, hRun, Option.bind_eq_bind, Option.bind_none]
    | some found =>
      obtain ⟨name, rest⟩ := found
      have hSymbol : run? (!isSymbol ·) (trimStart rest) = none := by
        rw [run?_eq_some hRun]
        exact run?_eq_none_of_head? fun c hHead => congrArg (!·) (hText c hHead)
      simp only [readComparison, hRun, hSymbol, Option.bind_eq_bind, Option.bind_some,
        Option.bind_none]
  | call =>
    show readCall text = none
    cases hRun : run? (fun c => isSpace c || c == ',' || c == '(') text with
    | none => simp only [readCall, hRun, Option.bind_eq_bind, Option.bind_none]
    | some found =>
      obtain ⟨name, rest⟩ := found
      have hOpen : mark? ['('] rest = none := by
        rw [run?_eq_some hRun]
        exact mark?_eq_none_of_head? hText
      simp only [readCall, hRun, hOpen, Option.bind_eq_bind, Option.bind_some, Option.bind_none]

/-- No mark stands for a sign of a placeholder. -/
theorem unmarked_placeholder (kind : Kind) (placeholder : Placeholder) (rest : List Char) :
    kind.Unmarked (placeholder.chars ++ rest) := by
  unfold Unmarked Placeholder.chars
  rw [List.cons_append, trimStart_cons_of_not_isSpace placeholder.isSpace_sign]
  rintro _ ⟨⟩
  rcases placeholder.signed with hSign | hSign <;> rw [hSign] <;> cases kind <;> decide

/-- The pieces of the text are those found, and none of them is at its start.  As no mark
comes first either, none that starts in front of the text can reach into it. -/
structure Passes (kind : Kind) (found : List Written) (text : List Char) : Prop where
  ahead : kind.Unmarked text
  behind : kind.Unmarked (text.dropWhile (!kind.stops ·))
  pieces : pieces kind.read text = found

namespace Passes

variable {found : List Written}

theorem nil (kind : Kind) : kind.Passes [] [] where
  ahead := by rintro c ⟨⟩
  behind := by rintro c ⟨⟩
  pieces := rfl

theorem of_unmarked (hMark : kind.marks c = false) (hAhead : kind.Unmarked text)
    (hBehind : kind.stops c = false → kind.Unmarked (text.dropWhile (!kind.stops ·)))
    (hPieces : Expression.pieces kind.read text = found) : kind.Passes found (c :: text) := by
  have hFirst : kind.Unmarked (c :: text) := by
    cases hSpace : isSpace c with
    | true =>
      unfold Unmarked
      rwa [trimStart_cons_of_isSpace hSpace]
    | false =>
      unfold Unmarked
      rw [trimStart_cons_of_not_isSpace hSpace]
      rintro _ ⟨⟩
      exact hMark
  have hRun : kind.Unmarked ((c :: text).dropWhile (!kind.stops ·)) := by
    cases hStop : kind.stops c with
    | true => rwa [List.dropWhile_cons_of_neg (by simp [hStop])]
    | false =>
      rw [List.dropWhile_cons_of_pos (by simp [hStop])]
      exact hBehind hStop
  exact ⟨hFirst, hRun, (pieces_cons_of_eq_none (read_eq_none hRun)).trans hPieces⟩

/-- White space parts a text from whatever stands in front of it. -/
theorem of_space (hSpace : isSpace c = true) (hAhead : kind.Unmarked text)
    (hPieces : Expression.pieces kind.read text = found) : kind.Passes found (c :: text) := by
  refine of_unmarked (kind.marks_of_isSpace hSpace) hAhead (fun hStop => ?_) hPieces
  rw [kind.stops_of_isSpace hSpace] at hStop
  exact Bool.noConfusion hStop

theorem append {chars : List Char} (hChars : ∀ c ∈ chars, kind.marks c = false)
    (hText : kind.Passes found text) : kind.Passes found (chars ++ text) := by
  induction chars with
  | nil => exact hText
  | cons c chars ih =>
    obtain ⟨hMark, hRest⟩ := List.forall_mem_cons.mp hChars
    have hTail := ih hRest
    exact of_unmarked hMark hTail.ahead (fun _ => hTail.behind) hTail.pieces

theorem append_gap (gap : Gap) (hText : kind.Passes found text) :
    kind.Passes found (gap.chars ++ text) :=
  hText.append fun c hMem => kind.marks_of_isSpace (gap.space c hMem)

/-- A placeholder belongs to the run that ends behind it, whatever its characters are. -/
theorem append_placeholder (placeholder : Placeholder) (hText : kind.Passes found text) :
    kind.Passes found (placeholder.chars ++ text) := by
  -- the characters may be marks, so what counts is the end of the run that they are in
  have hRun : ∀ chars : List Char, (∀ c ∈ chars, isInk c = true) →
      kind.Unmarked ((chars ++ text).dropWhile (!kind.stops ·)) := by
    intro chars hInk
    rw [List.dropWhile_append_of_pos fun c hMem => by simp [kind.stops_of_isInk (hInk c hMem)]]
    exact hText.behind
  have hPieces : ∀ chars : List Char, (∀ c ∈ chars, isInk c = true) →
      Expression.pieces kind.read (chars ++ text) = found := by
    intro chars hInk
    induction chars with
    | nil => exact hText.pieces
    | cons c chars ih =>
      have hNone : kind.read (c :: (chars ++ text)) = none := read_eq_none (hRun _ hInk)
      rw [List.cons_append, pieces_cons_of_eq_none hNone]
      exact ih fun d hMem => hInk d (List.mem_cons_of_mem c hMem)
  have hInk : ∀ c ∈ placeholder.chars, isInk c = true := fun c => placeholder.isInk_of_mem
  exact ⟨kind.unmarked_placeholder placeholder text, hRun _ hInk, hPieces _ hInk⟩

end Passes

end Kind

/-- No bare word or sign of the part has a mark of the kind. -/
def Token.unmarked (kind : Kind) : Token → Bool
  | .bare chars => chars.all (!kind.marks ·)
  | _ => true

/-- Parts of a condition are passed over if none of their bare words has a mark. -/
theorem Kind.Passes.append_tokens {kind : Kind} {found : List Written} {text : List Char}
    {tokens : List Token} (hTokens : tokens.all (·.unmarked kind) = true)
    (hText : kind.Passes found text) : kind.Passes found (tokens.flatMap Token.chars ++ text) := by
  induction tokens with
  | nil => exact hText
  | cons token tokens ih =>
    rw [List.all_cons, Bool.and_eq_true] at hTokens
    obtain ⟨hToken, hRest⟩ := hTokens
    rw [List.flatMap_cons, List.append_assoc]
    cases token with
    | placeholder shown => exact (ih hRest).append_placeholder shown
    | gap space => exact (ih hRest).append_gap space
    | bare chars =>
      refine (ih hRest).append fun c hMem => ?_
      simpa using List.all_eq_true.mp hToken c hMem

namespace Conjunct

variable {kind : Kind} {found : List Written} {rest : List Char}

/-- A condition has only marks of its own kind. -/
theorem unmarked_tokens (conjunct : Conjunct) (hKind : conjunct.kind ≠ kind) :
    conjunct.tokens.all (·.unmarked kind) = true := by
  cases conjunct with
  | range =>
    cases kind with
    | range => exact absurd rfl hKind
    | comparison => rfl
    | call => rfl
  | comparison _ _ comparator =>
    cases kind with
    | comparison => exact absurd rfl hKind
    | range => cases comparator <;> rfl
    | call => cases comparator <;> rfl
  | call =>
    cases kind with
    | call => exact absurd rfl hKind
    | range => rfl
    | comparison => rfl

/-- A condition begins with a placeholder or with the name of a function. -/
theorem unmarked_chars_append (conjunct : Conjunct) (kind : Kind) (rest : List Char) :
    kind.Unmarked (conjunct.chars ++ rest) := by
  cases conjunct with
  | range name =>
    unfold chars tokens
    rw [List.flatMap_cons, List.append_assoc]
    exact kind.unmarked_placeholder name _
  | comparison name =>
    unfold chars tokens
    rw [List.flatMap_cons, List.append_assoc]
    exact kind.unmarked_placeholder name _
  | call =>
    rintro _ ⟨⟩
    cases kind <;> decide

/-- The reader of a kind finds the condition if it is of that kind. -/
theorem pieces_chars_append (conjunct : Conjunct) (hRest : kind.Passes found rest)
    (hApart : Apart rest) :
    pieces kind.read (conjunct.chars ++ rest) =
      (if conjunct.kind = kind then [conjunct.written] else []) ++ found := by
  by_cases hKind : conjunct.kind = kind
  · subst hKind
    have hFilled : conjunct.chars ≠ [] := by
      cases conjunct <;> exact List.cons_ne_nil _ _
    rw [pieces_append hFilled (conjunct.read_chars_append hApart), hRest.pieces, if_pos rfl]
    rfl
  · rw [if_neg hKind]
    exact (hRest.append_tokens (conjunct.unmarked_tokens hKind)).pieces

/-- The word that joins conditions, with the blank in front of it. -/
def joint : List Char :=
  [' ', 'A', 'N', 'D']

/-- What stands behind the first one of several conditions. -/
def following : List Conjunct → List Char
  | [] => []
  | next :: rest => joint ++ ' ' :: (next.chars ++ following rest)

theorem apart_following (conjuncts : List Conjunct) : Apart (following conjuncts) := by
  cases conjuncts <;> rintro _ ⟨⟩
  decide

/-- The conditions of a kind, with their operators as words. -/
def writtenOf (kind : Kind) (conjuncts : List Conjunct) : List Written :=
  (conjuncts.filter (·.kind = kind)).map written

theorem writtenOf_cons (kind : Kind) (first : Conjunct) (rest : List Conjunct) :
    writtenOf kind (first :: rest) =
      (if first.kind = kind then [first.written] else []) ++ writtenOf kind rest := by
  by_cases hKind : first.kind = kind <;> simp [writtenOf, hKind]

theorem passes_following (kind : Kind) (conjuncts : List Conjunct) :
    kind.Passes (writtenOf kind conjuncts) (following conjuncts) := by
  induction conjuncts with
  | nil => exact Kind.Passes.nil kind
  | cons next rest ih =>
    have hNext := next.pieces_chars_append ih (apart_following rest)
    rw [← writtenOf_cons] at hNext
    -- the blank behind the joining word keeps that word apart from the next condition
    have hBlank : kind.Passes (writtenOf kind (next :: rest))
        (' ' :: (next.chars ++ following rest)) :=
      Kind.Passes.of_space isSpace_blank (next.unmarked_chars_append kind _) hNext
    have hMarks : joint.all (!kind.marks ·) = true := by cases kind <;> decide
    refine hBlank.append fun c hMem => ?_
    simpa using List.all_eq_true.mp hMarks c hMem

/-- The text of joined conditions. -/
theorem toList_intercalate_text (first : Conjunct) (rest : List Conjunct) :
    (" AND ".intercalate ((first :: rest).map text)).toList = first.chars ++ following rest := by
  induction rest generalizing first with
  | nil => simp [following, text]
  | cons next rest ih =>
    have hNext := ih next
    have hJoint : " AND ".toList = joint ++ [' '] := by decide
    simp only [List.map_cons, String.intercalate_cons_cons, String.toList_append] at hNext ⊢
    rw [hNext, hJoint, text, String.toList_ofList, List.append_assoc, List.append_assoc]
    rfl

/-- The reader of a kind finds the conditions of that kind in the order of the text. -/
theorem pieces_intercalate_text (kind : Kind) (conjuncts : List Conjunct) :
    pieces kind.read (" AND ".intercalate (conjuncts.map text)).toList =
      writtenOf kind conjuncts := by
  cases conjuncts with
  | nil => rfl
  | cons first rest =>
    rw [toList_intercalate_text, writtenOf_cons]
    exact first.pieces_chars_append (passes_following kind rest) (apart_following rest)

/-- The conditions of a kind in order. -/
def conditionsOf (kind : Kind) (conjuncts : List Conjunct) : List Condition :=
  (conjuncts.filter (·.kind = kind)).map condition

/-- Where a table of words has the operators of a kind, its conditions come out of it. -/
theorem mapM_ofWritten {operator? : String → Option Operator}
    {error : String → ExpressionError}
    (hOperator : ∀ conjunct : Conjunct, conjunct.kind = kind →
      operator? conjunct.condition.operator.text = some conjunct.condition.operator)
    (conjuncts : List Conjunct) :
    (writtenOf kind conjuncts).mapM (ofWritten operator? error) =
      .ok (conditionsOf kind conjuncts) := by
  refine mapM_map_eq_ok fun conjunct hMem => ?_
  have hKind := of_decide_eq_true (List.mem_filter.mp hMem).2
  simp [ofWritten, written, hOperator conjunct hKind]

theorem ofSymbol?_of_comparison (conjunct : Conjunct) (hKind : conjunct.kind = .comparison) :
    Operator.ofSymbol? conjunct.condition.operator.text = some conjunct.condition.operator := by
  cases conjunct with
  | comparison _ _ comparator => cases comparator <;> rfl
  | range => cases hKind
  | call => cases hKind

theorem ofFunction?_of_call (conjunct : Conjunct) (hKind : conjunct.kind = .call) :
    Operator.ofFunction? conjunct.condition.operator.text = some conjunct.condition.operator := by
  cases conjunct with
  | call => rfl
  | range => cases hKind
  | comparison => cases hKind

end Conjunct

/-- Printed conditions are read as what they mean: the ranges, the comparisons and the
calls, each in the order of the text. -/
theorem printed_conditions_read_back (conjuncts : List Conjunct) :
    ofText (" AND ".intercalate (conjuncts.map Conjunct.text)) =
      .ok (Conjunct.conditionsOf .range conjuncts ++ Conjunct.conditionsOf .comparison conjuncts ++
        Conjunct.conditionsOf .call conjuncts) := by
  have hRanges := Conjunct.pieces_intercalate_text .range conjuncts
  have hComparisons := Conjunct.pieces_intercalate_text .comparison conjuncts
  have hCalls := Conjunct.pieces_intercalate_text .call conjuncts
  have hBetween : (Conjunct.writtenOf .range conjuncts).map
      (fun written => Condition.mk .between written.name written.operand) =
        Conjunct.conditionsOf .range conjuncts := by
    unfold Conjunct.writtenOf Conjunct.conditionsOf
    rw [List.map_map]
    refine List.map_congr_left fun conjunct hMem => ?_
    have hKind := of_decide_eq_true (List.mem_filter.mp hMem).2
    cases conjunct with
    | range => rfl
    | comparison => cases hKind
    | call => cases hKind
  unfold Kind.read at hRanges hComparisons hCalls
  unfold ofText
  simp only [hRanges, hComparisons, hCalls, hBetween]
  rw [bind_ok (Conjunct.mapM_ofWritten Conjunct.ofSymbol?_of_comparison conjuncts),
    bind_ok (Conjunct.mapM_ofWritten Conjunct.ofFunction?_of_call conjuncts)]
  rfl

/-- The placeholder of an attribute. -/
def namePlaceholder (word : String) (hWord : word.toList.all isWord = true) : Placeholder :=
  ⟨'#', word.toList, Or.inl rfl, List.all_eq_true.mp hWord⟩

/-- The placeholder of a value. -/
def valuePlaceholder (word : String) (hWord : word.toList.all isWord = true) : Placeholder :=
  ⟨':', word.toList, Or.inr rfl, List.all_eq_true.mp hWord⟩

/-- A single blank where white space has to be. -/
def oneBlank : Blank := ⟨.blank, List.cons_ne_nil _ _⟩

/-- A condition of each kind, with placeholders that are spelled like the words between them. -/
def oneOfEach : List Conjunct :=
  [.call .nothing .nothing (namePlaceholder "BETWEEN" rfl) .nothing .blank
      (valuePlaceholder "a" rfl) .blank,
    .comparison (namePlaceholder "b" rfl) .nothing .atLeast .nothing (valuePlaceholder "c" rfl),
    .range (namePlaceholder "d" rfl) oneBlank oneBlank (valuePlaceholder "e" rfl) oneBlank
      oneBlank (valuePlaceholder "AND" rfl)]

theorem printed_conditions_read_back_of_one_of_each :
    " AND ".intercalate (oneOfEach.map Conjunct.text) =
      "begins_with(#BETWEEN, :a ) AND #b>=:c AND #d BETWEEN :e AND :AND" ∧
      ofText (" AND ".intercalate (oneOfEach.map Conjunct.text)) =
        .ok [⟨.between, "#d", .range ":e" ":AND"⟩, ⟨.atLeast, "#b", .single ":c"⟩,
          ⟨.beginsWith, "#BETWEEN", .single ":a"⟩] :=
  ⟨by decide, printed_conditions_read_back oneOfEach⟩

end Condition

end SingleTable
