import SingleTable.Proofs.Pattern.GlobText

/-!
# The parts of a glob text

A bracket opens a class if a bracket behind it ends one: the first that is not the first
character of the class.  A text without such a bracket is read character by character.
-/

namespace SingleTable.Glob

/-- The mark of a negated class. -/
def negation (negated : Bool) : List Char :=
  if negated then ['!'] else []

/-- There is a class between an opening bracket and what follows it. -/
def Opens (text : List Char) : Prop :=
  ∃ negated body behind, IsBody negated body ∧ text = negation negated ++ body ++ ']' :: behind

theorem takeWhile_append_close {body : List Char} (hClosed : ']' ∉ body) (behind : List Char) :
    (body ++ ']' :: behind).takeWhile (· != ']') = body := by
  have hAll : ∀ c ∈ body, (c != ']') = true := by
    rintro c hMem
    exact bne_iff_ne.mpr fun hEq => hClosed (hEq ▸ hMem)
  rw [List.takeWhile_append_of_pos hAll]
  simp

/-- What is before the first bracket is all, or a bracket is behind it. -/
theorem exists_eq_append_close {text : List Char}
    (hLength : (text.takeWhile (· != ']')).length < text.length) :
    ∃ behind, text = text.takeWhile (· != ']') ++ ']' :: behind := by
  have hSplit : text.takeWhile (· != ']') ++ text.dropWhile (· != ']') = text :=
    List.takeWhile_append_dropWhile
  have hHead := List.head?_dropWhile_not (· != ']') text
  cases hRest : text.dropWhile (· != ']') with
  | nil =>
    rw [hRest, List.append_nil] at hSplit
    rw [hSplit] at hLength
    exact absurd hLength (Nat.lt_irrefl _)
  | cons c behind =>
    rw [hRest] at hHead
    obtain rfl : c = ']' := by simpa using hHead
    exact ⟨behind, by rw [← hRest, hSplit]⟩

/-- The first character of a class is in it, whatever it is. -/
theorem classLength?_negation {negated : Bool} {first : Char} (rest : List Char)
    (hMark : negated = false → first ≠ '!') :
    classLength? (negation negated ++ first :: rest) =
      if (rest.takeWhile (· != ']')).length < rest.length then
        some ((negation negated).length + 1 + (rest.takeWhile (· != ']')).length)
      else none := by
  have hHead : ((negation negated ++ first :: rest).head? == some '!') = negated := by
    cases negated with
    | true => rfl
    | false => simpa [negation] using hMark rfl
  have hDrop : (negation negated ++ first :: rest).drop (if negated then 1 else 0) =
      first :: rest := by
    cases negated <;> rfl
  have hLength : (negation negated).length = if negated then 1 else 0 := by
    cases negated <;> rfl
  have hCount : (if (first :: rest).head? == some ']' then 1 else 0) +
      (((first :: rest).drop (if (first :: rest).head? == some ']' then 1 else 0)).takeWhile
        (· != ']')).length = 1 + (rest.takeWhile (· != ']')).length := by
    by_cases hFirst : first = ']'
    · simp [hFirst]
    · simp [hFirst, Nat.add_comm]
  simp only [classLength?, hHead, hDrop, ← List.drop_drop, Nat.add_assoc, hCount]
  simp only [List.length_append, List.length_cons, hLength]
  exact if_congr (by omega) rfl rfl

/-- The class of a text that opens one ends at its bracket. -/
theorem classLength?_of_isBody {negated : Bool} {body : List Char} (hBody : IsBody negated body)
    (behind : List Char) :
    classLength? (negation negated ++ body ++ ']' :: behind) =
      some (negation negated ++ body).length := by
  obtain ⟨first, rest, rfl⟩ := List.exists_cons_of_ne_nil hBody.nonempty
  have hMark : negated = false → first ≠ '!' :=
    fun hPlain hEq => hBody.unmarked hPlain (congrArg some hEq)
  have hRest : (rest ++ ']' :: behind).takeWhile (· != ']') = rest :=
    takeWhile_append_close hBody.closed behind
  rw [List.append_assoc, List.cons_append, classLength?_negation _ hMark,
    hRest, if_pos (by simp)]
  simp only [List.length_append, List.length_cons, Nat.add_assoc, Nat.add_comm]

/-- Only a text that opens a class has one. -/
theorem opens_of_classLength? {text : List Char} {length : Nat}
    (hLength : classLength? text = some length) :
    ∃ negated body behind, IsBody negated body ∧
      text = negation negated ++ body ++ ']' :: behind ∧
      length = (negation negated ++ body).length := by
  obtain ⟨negated, rest, rfl, hMark⟩ : ∃ negated rest, text = negation negated ++ rest ∧
      (negated = false → rest.head? ≠ some '!') := by
    by_cases hMark : text.head? = some '!'
    · obtain ⟨rest, rfl⟩ := List.head?_eq_some_iff.mp hMark
      exact ⟨true, rest, rfl, nofun⟩
    · exact ⟨false, text, rfl, fun _ => hMark⟩
  cases rest with
  | nil => cases negated <;> cases hLength
  | cons first rest =>
    rw [classLength?_negation rest fun hPlain hEq => hMark hPlain (congrArg some hEq)] at hLength
    split at hLength
    · next hShort =>
      obtain ⟨behind, hRest⟩ := exists_eq_append_close hShort
      cases hLength
      refine ⟨negated, first :: rest.takeWhile (· != ']'), behind, ⟨by simp, ?_, hMark⟩, ?_, ?_⟩
      · intro hMem
        simpa using List.all_eq_true.mp List.all_takeWhile _ hMem
      · rw [List.append_assoc, List.cons_append, ← hRest]
      · simp only [List.length_append, List.length_cons]
        omega
    · cases hLength

/-- A class is found exactly where one is opened. -/
theorem isSome_classLength?_iff {text : List Char} :
    (classLength? text).isSome = true ↔ Opens text := by
  constructor
  · intro hSome
    obtain ⟨length, hLength⟩ := Option.isSome_iff_exists.mp hSome
    obtain ⟨negated, body, behind, hBody, hText, -⟩ := opens_of_classLength? hLength
    exact ⟨negated, body, behind, hBody, hText⟩
  · rintro ⟨negated, body, behind, hBody, rfl⟩
    rw [classLength?_of_isBody hBody]
    rfl

instance : DecidablePred Opens := fun _ => decidable_of_iff _ isSome_classLength?_iff

theorem read_skip (skip : Nat) (text : List Char) : read skip text = read 0 (text.drop skip) := by
  induction skip generalizing text with
  | zero => rfl
  | succ skip ih =>
    cases text with
    | nil => rfl
    | cons c text => rw [read, ih, List.drop_succ_cons]

theorem head?_negation {negated : Bool} {body : List Char} (hBody : IsBody negated body) :
    ((negation negated ++ body).head? == some '!') = negated := by
  cases negated with
  | true => rfl
  | false => simpa [negation] using hBody.unmarked rfl

theorem drop_negation (negated : Bool) (body : List Char) :
    (if negated then (negation negated ++ body).drop 1 else negation negated ++ body) = body := by
  cases negated <;> rfl

/-- A class is read as one part. -/
theorem read_class {negated : Bool} {body : List Char} (hBody : IsBody negated body)
    (behind : List Char) :
    read 0 ('[' :: (negation negated ++ body ++ ']' :: behind)) =
      .oneOf negated body :: read 0 behind := by
  have hBehind : read ((negation negated ++ body).length + 1)
      (negation negated ++ body ++ ']' :: behind) = read 0 behind := by
    rw [read_skip, ← List.drop_drop, List.drop_left]
    rfl
  rw [read]
  simp only [classLength?_of_isBody hBody]
  rw [if_neg (by decide), if_neg (by decide), if_pos trivial, List.take_left, head?_negation hBody,
    drop_negation, hBehind]

/-- Every class that is read stands between brackets. -/
theorem isSound_of_mem_read {part : Part} {skip : Nat} {text : List Char}
    (hMem : part ∈ read skip text) : part.IsSound := by
  fun_induction read skip text with
  | case1 => cases hMem
  | case2 skip c rest ih => exact ih hMem
  | case3 rest ih | case4 rest _ ih | case6 rest _ _ _ ih | case7 c rest _ _ _ ih =>
    rcases List.mem_cons.mp hMem with rfl | hMem
    · trivial
    · exact ih hMem
  | case5 rest length hLength body negated _ _ ih =>
    rcases List.mem_cons.mp hMem with rfl | hMem
    · obtain ⟨mark, text, behind, hBody, rfl, rfl⟩ := opens_of_classLength? hLength
      have hTake : body = negation mark ++ text := List.take_left
      have hNegated : negated = mark := by
        rw [← head?_negation hBody, ← hTake]
      rw [hNegated, hTake, drop_negation]
      exact hBody
    · exact ih hMem

/-- The expression that a glob text is searched with has the pattern of its parts. -/
theorem pattern?_of_compile? {text : String} {ignoreCase : Bool} {pattern : Pattern}
    (hCompile : compile? text ignoreCase = some pattern) :
    (ofText text).pattern? ignoreCase = some pattern := by
  obtain ⟨expression, hExpression, rfl⟩ := Option.map_eq_some_iff.mp hCompile
  unfold Pattern.Expression.compile? at hExpression
  split at hExpression
  · next hText =>
    split at hExpression
    · cases hExpression
      exact pattern?_of_ofText? (fun part hMem => isSound_of_mem_read hMem) hText
    · cases hExpression
  · cases hExpression

/-- A glob takes the empty text if it asks for nothing but runs. -/
theorem accepts_nil_iff (ignoreCase : Bool) (glob : Glob) :
    accepts ignoreCase glob [] = true ↔ ∀ part ∈ glob, part = .anyRun := by
  induction glob with
  | nil => simp [accepts]
  | cons part parts ih => cases part <;> simp [accepts, ih]

/-- A text asks for nothing but runs if it consists of stars. -/
theorem read_anyRun_iff (text : List Char) :
    (∀ part ∈ read 0 text, part = .anyRun) ↔ ∀ c ∈ text, c = '*' := by
  induction text with
  | nil => simp [read]
  | cons c rest ih =>
    by_cases hStar : c = '*'
    · subst hStar
      simp [read, ih]
    · have hFirst : ∃ part parts, read 0 (c :: rest) = part :: parts ∧ part ≠ .anyRun := by
        rw [read, if_neg hStar]
        split
        · exact ⟨_, _, rfl, nofun⟩
        split
        · split <;> exact ⟨_, _, rfl, nofun⟩
        · exact ⟨_, _, rfl, nofun⟩
      obtain ⟨part, parts, hRead, hPart⟩ := hFirst
      simp [hRead, hPart, hStar]

end SingleTable.Glob
