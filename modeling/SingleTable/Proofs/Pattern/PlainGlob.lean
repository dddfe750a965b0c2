import SingleTable.Proofs.Row.Find

/-!
# Globs without classes

A glob text in which no bracket opens a class is matched character by character: a star
takes any run of characters, a question mark a single one, and every other character
itself.
-/

namespace SingleTable.Glob

open Pattern

/-- The glob text covers a whole text. -/
def Covers : List Char → List Char → Prop
  | [], text => text = []
  | c :: glob, text =>
    if c = '*' then ∃ run rest, text = run ++ rest ∧ Covers glob rest
    else if c = '?' then ∃ d rest, text = d :: rest ∧ Covers glob rest
    else ∃ rest, text = c :: rest ∧ Covers glob rest

/-- No bracket of the text opens a class. -/
def HasNoClass (text : List Char) : Prop :=
  ∀ before behind, text = before ++ '[' :: behind → ¬Opens behind

/-- A character on its own as a part. -/
def plainPart (c : Char) : Part :=
  if c = '*' then .anyRun else if c = '?' then .anyOne else .char c

theorem hasNoClass_cons_iff {c : Char} {rest : List Char} :
    HasNoClass (c :: rest) ↔ (c = '[' → ¬Opens rest) ∧ HasNoClass rest := by
  constructor
  · intro hPlain
    constructor
    · rintro rfl
      exact hPlain [] rest rfl
    · rintro before behind rfl
      exact hPlain (c :: before) behind rfl
  · rintro ⟨hFirst, hRest⟩ before behind hText
    cases before with
    | nil =>
      obtain ⟨hBracket, rfl⟩ := List.cons_eq_cons.mp hText
      exact hFirst hBracket
    | cons _ before =>
      obtain ⟨-, rfl⟩ := List.cons_eq_cons.mp hText
      exact hRest before behind rfl

instance decidableHasNoClass : DecidablePred HasNoClass
  | [] => .isTrue fun before behind hText => by cases before <;> cases hText
  | _ :: rest =>
    have := decidableHasNoClass rest
    decidable_of_iff' _ hasNoClass_cons_iff

/-- Without classes, every character is a part. -/
theorem read_of_hasNoClass {text : List Char} (hPlain : HasNoClass text) :
    read 0 text = text.map plainPart := by
  induction text with
  | nil => rfl
  | cons c rest ih =>
    obtain ⟨hFirst, hRest⟩ := hasNoClass_cons_iff.mp hPlain
    rw [read, ih hRest, List.map_cons, plainPart]
    split
    · rfl
    split
    · rfl
    split
    · next hBracket =>
      have hNone : classLength? rest = none := by
        rw [← Option.not_isSome_iff_eq_none, isSome_classLength?_iff]
        exact hFirst hBracket
      rw [hNone, hBracket]
    · rfl

/-- A run takes any characters. -/
theorem accepts_anyRun_iff {ignoreCase : Bool} {parts : Glob} {text : List Char} :
    accepts ignoreCase (.anyRun :: parts) text = true ↔
      ∃ run rest, text = run ++ rest ∧ accepts ignoreCase parts rest = true := by
  induction text with
  | nil => simp [accepts]
  | cons c text ih =>
    rw [accepts, Bool.or_eq_true, ih]
    constructor
    · rintro (hHere | ⟨run, rest, rfl, hRest⟩)
      · exact ⟨[], c :: text, rfl, hHere⟩
      · exact ⟨c :: run, rest, rfl, hRest⟩
    · rintro ⟨run, rest, hText, hRest⟩
      cases run with
      | nil => exact Or.inl (hText ▸ hRest)
      | cons d run =>
        obtain ⟨-, rfl⟩ := List.cons_eq_cons.mp hText
        exact Or.inr ⟨run, rest, rfl, hRest⟩

/-- The parts accept what the text covers. -/
theorem accepts_map_plainPart_iff {glob text : List Char} :
    accepts false (glob.map plainPart) text = true ↔ Covers glob text := by
  induction glob generalizing text with
  | nil => simp [accepts, Covers]
  | cons c glob ih =>
    rw [List.map_cons, plainPart, Covers]
    split
    · rw [accepts_anyRun_iff]
      simp only [ih]
    split
    · cases text <;> simp [accepts, ih]
    · cases text with
      | nil => simp [accepts]
      | cons d text =>
        simp only [accepts, Flags.fold, flags, Bool.false_eq_true, if_false,
          CharSet.contains_single, Bool.and_eq_true, decide_eq_true_eq, ih, List.cons_eq_cons]
        constructor
        · rintro ⟨rfl, hRest⟩
          exact ⟨text, ⟨rfl, rfl⟩, hRest⟩
        · rintro ⟨_, ⟨rfl, rfl⟩, hRest⟩
          exact ⟨rfl, hRest⟩

/-- A text without wildcards covers itself alone. -/
theorem covers_iff_eq {glob text : List Char} (hPlain : ∀ c ∈ glob, c ≠ '*' ∧ c ≠ '?') :
    Covers glob text ↔ text = glob := by
  induction glob generalizing text with
  | nil => rfl
  | cons c glob ih =>
    obtain ⟨⟨hStar, hMark⟩, hRest⟩ := List.forall_mem_cons.mp hPlain
    rw [Covers, if_neg hStar, if_neg hMark]
    simp [ih hRest]

/-- A character on its own is not nested. -/
theorem nested?_plainPart (ignoreCase : Bool) (c : Char) :
    ∃ nested, (plainPart c).nested? ignoreCase = some nested ∧ nested.depth ≤ 2 := by
  unfold plainPart
  split
  · exact ⟨_, rfl, Nat.le_succ 1⟩
  split
  · exact ⟨_, rfl, Nat.zero_le 2⟩
  · exact ⟨_, rfl, Nat.zero_le 2⟩

/-- The regular expression of a glob text. -/
theorem compile?_of_ofText? {text : String} {ignoreCase : Bool} {expression : Expression}
    (hText : Expression.ofText? (expressionOf text ignoreCase) = some expression)
    (hSize : expression.pattern.size ≤ maxSize) :
    compile? text ignoreCase = some expression.pattern := by
  rw [compile?, Expression.compile?, hText]
  simp [hSize]

/-- A glob without classes has a regular expression, which matches exactly the texts that
the glob covers, and can be searched with unless it is too large.  A string without
wildcards that is looked for is found exactly where the attribute is that string. -/
theorem plain_glob_matches_what_it_covers (glob : String) (hPlain : HasNoClass glob.toList) :
    ∃ expression, Expression.ofText? (expressionOf glob false) = some expression ∧
      (expression.pattern.size ≤ maxSize → compile? glob false = some expression.pattern) ∧
      (∀ text, expression.pattern.isMatch text = true ↔ Covers glob.toList text) ∧
      ((∀ c ∈ glob.toList, c ≠ '*' ∧ c ≠ '?' ∧ c ≠ '[') → expression.pattern.size ≤ maxSize →
        ∀ (item : Item) (name : String),
          item.fits (Item.needle name glob) = true ↔ item.find? name = some (.string glob)) := by
  have hRead : ofText glob = glob.toList.map plainPart := read_of_hasNoClass hPlain
  have hSound : ∀ part ∈ ofText glob, part.IsSound := fun part hMem => isSound_of_mem_read hMem
  obtain ⟨expression, hText⟩ : ∃ expression,
      Expression.ofText? (expressionOf glob false) = some expression := by
    refine exists_ofText? hSound fun part hMem => ?_
    rw [hRead] at hMem
    obtain ⟨c, -, rfl⟩ := List.mem_map.mp hMem
    exact nested?_plainPart false c
  have hMatch : ∀ text, expression.pattern.isMatch text = true ↔ Covers glob.toList text := by
    intro text
    rw [isMatch_of_pattern? (pattern?_of_ofText? hSound hText), hRead, accepts_map_plainPart_iff]
  refine ⟨expression, hText, compile?_of_ofText? hText, hMatch, ?_⟩
  intro hNone hSize item name
  have hFound : ∀ text : String, Item.globMatches glob text = true ↔ text = glob := by
    intro text
    rw [Item.globMatches, compile?_of_ofText? hText hSize, Option.any_some, hMatch,
      covers_iff_eq fun c hMem => ⟨(hNone c hMem).1, (hNone c hMem).2.1⟩, String.toList_inj]
  rw [Item.fits_needle_iff]
  constructor
  · rintro ⟨text, hFind, hGlob⟩
    rw [hFind, (hFound text).mp hGlob]
  · intro hFind
    exact ⟨glob, hFind, (hFound glob).mpr rfl⟩

/-- A glob with wildcards, brackets that open no class, and characters that have a meaning
in regular expressions. -/
theorem plain_glob_matches_what_it_covers_of_open_bracket :
    HasNoClass "a.*\\?](x)[!]".toList ∧
      ∃ expression, Expression.ofText? (expressionOf "a.*\\?](x)[!]" false) = some expression ∧
        ∀ text, expression.pattern.isMatch text = true ↔ Covers "a.*\\?](x)[!]".toList text := by
  have hPlain : HasNoClass "a.*\\?](x)[!]".toList := by decide +kernel
  obtain ⟨expression, hText, -, hMatch, -⟩ := plain_glob_matches_what_it_covers _ hPlain
  exact ⟨hPlain, expression, hText, hMatch⟩

end SingleTable.Glob
