import Mathlib.Tactic.SplitIfs
import SingleTable.Json.Printer
import SingleTable.Json.Token

/-!
# Tokens of a printed value

The text of a JSON value is cut into the tokens of the value.
-/

namespace SingleTable.Json

namespace Token

open Number

variable {c : Char} {chars rest : List Char}

/-- What is passed over is not cut. -/
theorem cut_append (chars rest : List Char) : cut chars.length (chars ++ rest) = cut 0 rest := by
  induction chars with
  | nil => rfl
  | cons c more ih => exact ih

/-! ## Strings -/

theorem natOfHex?_hexQuad_of_lt : ∀ n < 32, natOfHex? (hexQuad n) = some n := by
  decide

theorem length_hexQuad_of_lt : ∀ n < 32, (hexQuad n).length = 4 := by
  decide

/-- A control character is read from its four digits. -/
theorem stringUnits?_hexQuad {n : Nat} (hControl : n < 32) (rest : List Char) :
    stringUnits? ('\\' :: 'u' :: hexQuad n ++ rest) =
      (stringUnits? rest).map fun (units, length) => (n :: units, length + 6) := by
  have hLength := length_hexQuad_of_lt n hControl
  have hValue := natOfHex?_hexQuad_of_lt n hControl
  generalize hexQuad n = digits at hLength hValue
  match digits, hLength with
  | [a, b, c, d], _ =>
    simp only [List.cons_append, List.nil_append, stringUnits?, hValue]
    cases stringUnits? rest <;> rfl

theorem stringUnits?_shortEscape {c escaped : Char} (hLetter : c ≠ 'u')
    (hEscape : shortEscape? c = some escaped) (rest : List Char) :
    stringUnits? ('\\' :: c :: rest) =
      (stringUnits? rest).map fun (units, length) => (escaped.toNat :: units, length + 2) := by
  rw [stringUnits?]
  · rw [hEscape]
    cases stringUnits? rest <;> rfl
  · rintro _ _ _ _ _ rfl
    exact absurd rfl hLetter

theorem stringUnits?_plain {c : Char} (hMark : ¬(c = '"' ∨ c = '\\')) (hControl : ¬c.toNat < 32)
    (rest : List Char) :
    stringUnits? (c :: rest) =
      (stringUnits? rest).map fun (units, length) => (c.toNat :: units, length + 1) := by
  rw [stringUnits?]
  · rw [if_neg hControl]
    cases stringUnits? rest <;> rfl
  · exact fun hQuote => hMark (Or.inl hQuote)
  · exact fun _ _ _ _ _ hSlash _ => hMark (Or.inr hSlash)
  · exact fun _ _ hSlash _ => hMark (Or.inr hSlash)

/-- A short escape stands for the character that it is written for. -/
theorem shortEscape?_of_shortMark? {c mark : Char} (hMark : shortMark? c = some mark) :
    mark ≠ 'u' ∧ shortEscape? mark = some c := by
  unfold shortMark? at hMark
  split_ifs at hMark with hQuote hBack hTab hLine hFeed hReturn
  · cases hMark
    rcases hQuote with rfl | rfl <;> decide
  all_goals
    cases hMark
    subst c
    decide

/-- What has no short escape does not end a string or begin an escape. -/
theorem not_mark_of_shortMark? {c : Char} (hNone : shortMark? c = none) :
    ¬(c = '"' ∨ c = '\\') := by
  intro hMark
  rw [shortMark?, if_pos hMark] at hNone
  cases hNone

/-- A character is read from the form in which it stands in a string. -/
theorem stringUnits?_escapeChar (c : Char) (rest : List Char) :
    stringUnits? (escapeChar c ++ rest) =
      (stringUnits? rest).map fun (units, length) =>
        (c.toNat :: units, length + (escapeChar c).length) := by
  unfold escapeChar
  cases hMark : shortMark? c with
  | some mark =>
    obtain ⟨hLetter, hEscape⟩ := shortEscape?_of_shortMark? hMark
    exact stringUnits?_shortEscape hLetter hEscape rest
  | none =>
    by_cases hControl : c.toNat < 32
    · have hLength := length_hexQuad_of_lt c.toNat hControl
      simp only [if_pos hControl, List.length_cons, hLength]
      exact stringUnits?_hexQuad hControl rest
    · simp only [if_neg hControl]
      exact stringUnits?_plain (not_mark_of_shortMark? hMark) hControl rest

/-- The code units of a printed string are the code points of its characters. -/
theorem stringUnits?_escape (chars rest : List Char) :
    stringUnits? (chars.flatMap escapeChar ++ '"' :: rest) =
      some (chars.map Char.toNat, (chars.flatMap escapeChar).length + 1) := by
  induction chars with
  | nil => rfl
  | cons c more ih =>
    rw [List.flatMap_cons, List.append_assoc, stringUnits?_escapeChar, ih, List.length_append]
    simp
    omega

/-- No character is half of a surrogate pair. -/
theorem textOfUnits?_toNat (chars : List Char) :
    textOfUnits? (chars.map Char.toNat) = some chars := by
  induction chars with
  | nil => rfl
  | cons c more ih =>
    have hValid : c.toNat < 0xD800 ∨ 0xDFFF < c.toNat := c.valid.imp_right And.left
    rw [List.map_cons, textOfUnits?.eq_def]
    simp only
    rw [if_neg (by omega), if_neg (by omega), ih]
    simp [Char.ofNat_toNat]

/-! ## Numbers -/

/-- What stands behind a value: the end of the text, of an array or of an object, or the
comma in front of the next part. -/
def Boundary (rest : List Char) : Prop :=
  ∀ c ∈ rest.head?, c = ',' ∨ c = ']' ∨ c = '\x7d'

/-- A run of characters ends where other text begins. -/
theorem takeWhile_append_of_stop {p : Char → Bool} (hStop : ∀ c ∈ rest.head?, p c = false) :
    (chars ++ rest).takeWhile p = chars.takeWhile p := by
  induction chars with
  | nil =>
    cases rest with
    | nil => rfl
    | cons c more => simp [hStop c rfl]
  | cons c more ih => simp only [List.cons_append, List.takeWhile_cons, ih]

theorem takeWhile_take_append_of_stop {p : Char → Bool} (hStop : ∀ c ∈ rest.head?, p c = false) :
    ((chars ++ rest).take 1).takeWhile p = (chars.take 1).takeWhile p := by
  cases chars with
  | cons c more => rfl
  | nil =>
    cases rest with
    | nil => rfl
    | cons c more => simp [hStop c rfl]

theorem length_takeWhile_take_le (chars : List Char) (p : Char → Bool) :
    ((chars.take 1).takeWhile p).length ≤ chars.length :=
  ((List.takeWhile_sublist p).trans (List.take_sublist 1 chars)).length_le

theorem fractionLength?_le {length : Nat} (hLength : fractionLength? chars = some length) :
    length ≤ chars.length := by
  unfold fractionLength? at hLength
  split at hLength
  · next more =>
    have hDigits := (List.takeWhile_sublist isDigit (l := more)).length_le
    simp only at hLength
    split at hLength
    · cases hLength
    · cases hLength
      exact Nat.succ_le_succ hDigits
  · cases hLength
    exact Nat.zero_le _

/-- The text of a number, and nothing else. -/
def IsNumber (literal : String) : Prop :=
  numberLength? literal.toList = some literal.toList.length

namespace Boundary

variable {rest : List Char} (hBoundary : Boundary rest)

include hBoundary

theorem stop {p : Char → Bool} (hComma : p ',' = false) (hBracket : p ']' = false)
    (hBrace : p '\x7d' = false) : ∀ c ∈ rest.head?, p c = false := by
  intro c hMem
  rcases hBoundary c hMem with rfl | rfl | rfl <;> assumption

theorem fractionLength?_append : fractionLength? (chars ++ rest) = fractionLength? chars := by
  cases chars with
  | nil =>
    cases rest with
    | nil => rfl
    | cons c more => rcases hBoundary c rfl with rfl | rfl | rfl <;> rfl
  | cons c more =>
    by_cases hPoint : c = '.'
    · subst hPoint
      have hDigits := @takeWhile_append_of_stop more rest isDigit (hBoundary.stop rfl rfl rfl)
      simp only [List.cons_append, fractionLength?, hDigits]
    · have hNone : ∀ tail, fractionLength? (c :: tail) = some 0 := by
        intro tail
        rw [fractionLength?]
        rintro _ hBad
        exact hPoint (List.cons.inj hBad).1
      rw [List.cons_append, hNone, hNone]

theorem exponentLength?_append : exponentLength? (chars ++ rest) = exponentLength? chars := by
  cases chars with
  | nil =>
    cases rest with
    | nil => rfl
    | cons c more => rcases hBoundary c rfl with rfl | rfl | rfl <;> rfl
  | cons c more =>
    have hSigns := @takeWhile_take_append_of_stop more rest (fun s => s == '+' || s == '-')
      (hBoundary.stop rfl rfl rfl)
    have hFits := length_takeWhile_take_le more fun s => s == '+' || s == '-'
    have hDigits := fun run => @takeWhile_append_of_stop run rest isDigit
      (hBoundary.stop rfl rfl rfl)
    simp only [List.cons_append, exponentLength?, hSigns, List.drop_append_of_le_length hFits,
      hDigits]

/-- What stands behind a number does not lengthen it. -/
theorem numberLength?_append : numberLength? (chars ++ rest) = numberLength? chars := by
  have hSigns := @takeWhile_take_append_of_stop chars rest (· == '-') (hBoundary.stop rfl rfl rfl)
  have hSignsFit := length_takeWhile_take_le chars (· == '-')
  have hDigits := fun run => @takeWhile_append_of_stop run rest isDigit
    (hBoundary.stop rfl rfl rfl)
  unfold numberLength?
  simp only [hSigns, List.drop_append_of_le_length hSignsFit, hDigits]
  generalize ((chars.take 1).takeWhile (· == '-')).length = signs at hSignsFit ⊢
  have hDigitsFit := (List.takeWhile_sublist isDigit (l := chars.drop signs)).length_le
  generalize (chars.drop signs).takeWhile isDigit = digits at hDigitsFit ⊢
  have hWhole : signs + digits.length ≤ chars.length := by
    rw [List.length_drop] at hDigitsFit
    omega
  simp only [List.drop_append_of_le_length hWhole, hBoundary.fractionLength?_append]
  cases hFraction : fractionLength? (chars.drop (signs + digits.length)) with
  | none => rfl
  | some fraction =>
    have hFits : signs + digits.length + fraction ≤ chars.length := by
      have hLe := fractionLength?_le hFraction
      rw [List.length_drop] at hLe
      omega
    simp only [Option.bind_eq_bind, Option.bind_some, List.drop_append_of_le_length hFits,
      hBoundary.exponentLength?_append]

end Boundary

/-- A token that is recognised is cut off. -/
theorem cut_of_scan {front : List Char} {token : Token} (hGap : isGap c = false)
    (hScan : scan c (front ++ rest) = (token, front.length + 1)) (hToken : token ≠ .bad) :
    cut 0 (c :: front ++ rest) = token :: cut 0 rest := by
  have hSkip : cut (front.length + 1 - 1) (front ++ rest) = cut 0 rest := cut_append front rest
  rw [List.cons_append, cut, hGap, hScan, ← hSkip]
  cases token with
  | bad => exact absurd rfl hToken
  | _ => rfl

/-- A number starts with a digit or a minus. -/
theorem head_of_numberLength? {length : Nat} (hLength : numberLength? (c :: rest) = some length) :
    c = '-' ∨ isDigit c = true := by
  by_cases hSign : c = '-'
  · exact Or.inl hSign
  · cases hDigit : isDigit c with
    | true => exact Or.inr rfl
    | false => simp [numberLength?, hSign, hDigit] at hLength

/-- A number in front of a boundary is cut off as one token. -/
theorem cut_number {literal : String} (hNumber : IsNumber literal) (hBoundary : Boundary rest) :
    cut 0 (literal.toList ++ rest) = .number literal :: cut 0 rest := by
  unfold IsNumber at hNumber
  have hLength := hNumber
  rw [← hBoundary.numberLength?_append] at hLength
  cases hText : literal.toList with
  | nil =>
    rw [hText] at hNumber
    cases hNumber
  | cons c front =>
    rw [hText] at hNumber hLength
    have hHead := head_of_numberLength? hNumber
    have hOther : ∀ d, d ≠ '-' ∧ isDigit d = false → c ≠ d := by
      rintro d ⟨hSign, hDigit⟩ rfl
      exact hHead.elim hSign (by simp [hDigit])
    refine cut_of_scan ?_ ?_ Token.noConfusion
    · simp only [isGap, Bool.or_eq_false_iff, beq_eq_false_iff_ne]
      refine ⟨⟨⟨?_, ?_⟩, ?_⟩, ?_⟩ <;> exact hOther _ (by decide)
    · have hLiteral : String.ofList ((c :: (front ++ rest)).take (front.length + 1)) = literal := by
        rw [← String.ofList_toList (s := literal), hText]
        simp
      unfold scan
      rw [if_neg (hOther _ (by decide)), if_neg (hOther _ (by decide)),
        if_neg (hOther _ (by decide)), if_neg (hOther _ (by decide)),
        if_neg (hOther _ (by decide)), if_neg (hOther _ (by decide)),
        if_neg (hOther _ (by decide)), if_pos hHead]
      rw [List.cons_append] at hLength
      simp only [hLength, List.length_cons, hLiteral]

/-- A printed string is cut off as one token. -/
theorem cut_escape (text : String) (rest : List Char) :
    cut 0 ((escape text).toList ++ rest) = .string (some text) :: cut 0 rest := by
  have hText : (escape text).toList =
      '"' :: (text.toList.flatMap escapeChar ++ ['"']) := by
    simp [escape]
  have hUnits := stringUnits?_escape text.toList rest
  rw [hText]
  refine cut_of_scan (by decide) ?_ Token.noConfusion
  rw [List.append_assoc, List.singleton_append]
  simp [scan, hUnits, textOfUnits?_toNat]

theorem cut_bool (value : Bool) :
    cut 0 ((if value then "true" else "false").toList ++ rest) = .bool value :: cut 0 rest := by
  cases value
  · rfl
  · rfl

end Token

open Token

/-- A value that has a text: its numbers are numbers, and no part of it is unreadable. -/
inductive Printable : Json → Prop where
  | null : Printable .null
  | bool (value : Bool) : Printable (.bool value)
  | number {literal : String} (hNumber : IsNumber literal) : Printable (.number literal)
  | string (text : String) : Printable (.string text)
  | array {items : List Json} (hItems : ∀ item ∈ items, item.Printable) :
    Printable (.array items)
  | object {members : List (String × Json)} (hMembers : ∀ member ∈ members, member.2.Printable) :
    Printable (.record members)

mutual

/-- The tokens of a value.  An unreadable part has none. -/
def tokens : Json → List Token
  | .null => [.null]
  | .bool value => [.bool value]
  | .number literal => [.number literal]
  | .string text => [.string (some text)]
  | .array items => .beginArray :: itemTokens items
  | .object members _ => .beginObject :: memberTokens members
  | .unreadable _ => []

/-- The tokens of items and of the end of their array. -/
def itemTokens : List Json → List Token
  | [] => [.endArray]
  | [item] => tokens item ++ [.endArray]
  | item :: next :: rest => tokens item ++ .comma :: itemTokens (next :: rest)

/-- The tokens of members and of the end of their object. -/
def memberTokens : List (String × Json) → List Token
  | [] => [.endObject]
  | [(name, value)] => .string (some name) :: .colon :: tokens value ++ [.endObject]
  | (name, value) :: next :: rest =>
    .string (some name) :: .colon :: tokens value ++ .comma :: memberTokens (next :: rest)

end

/-- The text of a value in front of a boundary is cut into the tokens of the value. -/
def CutIntoTokens (json : Json) : Prop :=
  ∀ rest, Boundary rest → cut 0 (json.render.toList ++ rest) = json.tokens ++ cut 0 rest

theorem boundary_comma (rest : List Char) : Boundary (',' :: rest) := by
  rintro _ ⟨⟩
  exact Or.inl rfl

theorem boundary_endArray (rest : List Char) : Boundary (']' :: rest) := by
  rintro _ ⟨⟩
  exact Or.inr (Or.inl rfl)

theorem boundary_endObject (rest : List Char) : Boundary ('\x7d' :: rest) := by
  rintro _ ⟨⟩
  exact Or.inr (Or.inr rfl)

theorem cut_renderItems {items : List Json} (hItems : ∀ item ∈ items, item.CutIntoTokens)
    (rest : List Char) :
    cut 0 ((",".intercalate (renderItems items)).toList ++ ']' :: rest) =
      itemTokens items ++ cut 0 rest := by
  induction items with
  | nil => rfl
  | cons item others ih =>
    obtain ⟨hItem, hOthers⟩ := List.forall_mem_cons.mp hItems
    cases others with
    | nil =>
      rw [renderItems, renderItems, String.intercalate_singleton,
        hItem _ (boundary_endArray rest), itemTokens, List.append_assoc]
      rfl
    | cons next more =>
      have hText : (",".intercalate (renderItems (item :: next :: more))).toList =
          item.render.toList ++ ',' :: (",".intercalate (renderItems (next :: more))).toList := by
        simp [renderItems, String.intercalate_cons_cons]
      rw [hText, List.append_assoc, List.cons_append, hItem _ (boundary_comma _), itemTokens,
        List.append_assoc, List.cons_append, ← ih hOthers]
      rfl

theorem cut_member {name : String} {value : Json} {rest : List Char}
    (hValue : value.CutIntoTokens) (hBoundary : Boundary rest) :
    cut 0 ((escape name ++ ":" ++ value.render).toList ++ rest) =
      .string (some name) :: .colon :: (value.tokens ++ cut 0 rest) := by
  have hText : (escape name ++ ":" ++ value.render).toList ++ rest =
      (escape name).toList ++ ':' :: (value.render.toList ++ rest) := by
    simp
  rw [hText, cut_escape, ← hValue rest hBoundary]
  rfl

theorem cut_renderMembers {members : List (String × Json)}
    (hMembers : ∀ member ∈ members, member.2.CutIntoTokens) (rest : List Char) :
    cut 0 ((",".intercalate (renderMembers members)).toList ++ '\x7d' :: rest) =
      memberTokens members ++ cut 0 rest := by
  induction members with
  | nil => rfl
  | cons member others ih =>
    obtain ⟨name, value⟩ := member
    obtain ⟨hValue, hOthers⟩ := List.forall_mem_cons.mp hMembers
    cases others with
    | nil =>
      rw [renderMembers, renderMembers, String.intercalate_singleton,
        cut_member hValue (boundary_endObject rest), memberTokens]
      simp only [List.cons_append, List.append_assoc]
      rfl
    | cons next more =>
      have hText : (",".intercalate (renderMembers ((name, value) :: next :: more))).toList =
          (escape name ++ ":" ++ value.render).toList ++
            ',' :: (",".intercalate (renderMembers (next :: more))).toList := by
        simp [renderMembers, String.intercalate_cons_cons]
      rw [hText, List.append_assoc, List.cons_append, cut_member hValue (boundary_comma _),
        memberTokens]
      simp only [List.cons_append, List.append_assoc]
      rw [← ih hOthers]
      rfl

/-- The text of a value in front of a boundary is cut into its tokens. -/
theorem Printable.cutIntoTokens {json : Json} (hPrintable : json.Printable) :
    json.CutIntoTokens := by
  induction hPrintable with
  | null => exact fun rest _ => rfl
  | bool value => exact fun rest _ => cut_bool value
  | number hNumber => exact fun rest hBoundary => cut_number hNumber hBoundary
  | string text => exact fun rest _ => cut_escape text rest
  | @array items _ ih =>
    intro rest _
    have hText : (render (.array items)).toList ++ rest =
        '[' :: ((",".intercalate (renderItems items)).toList ++ ']' :: rest) := by
      simp [render]
    rw [hText, tokens, List.cons_append, ← cut_renderItems ih]
    rfl
  | @object members _ ih =>
    intro rest _
    have hText : (render (.record members)).toList ++ rest =
        '\x7b' :: ((",".intercalate (renderMembers members)).toList ++ '\x7d' :: rest) := by
      simp [render]
    rw [hText, tokens, List.cons_append, ← cut_renderMembers ih]
    rfl

theorem Printable.tokens_ofText {json : Json} (hPrintable : json.Printable) :
    Token.ofText json.render.toList = json.tokens := by
  have hCut := hPrintable.cutIntoTokens [] nofun
  rwa [List.append_nil, cut, List.append_nil] at hCut

end SingleTable.Json
