import Mathlib.Data.List.Forall2
import SingleTable.Pattern.Glob

/-!
# The items of a class

The text of a class, with or without a backslash in front of a character, is read as a
list of items.  An item is a range of characters, a single character being the shortest
of them, or two hyphens, which take what stands behind them away from what stands before.
-/

namespace SingleTable.Pattern

/-- What the text of a class is made of. -/
inductive ClassItem where
  | range (low high : Char)
  | without
deriving DecidableEq, Repr

namespace ClassItem

/-- A character on its own. -/
def single (c : Char) : ClassItem := .range c c

/-- The items of a text behind the characters that a class may start with. -/
def ofText : List Char → List ClassItem
  | '-' :: '-' :: rest => .without :: ofText rest
  | c :: '-' :: '-' :: rest => single c :: .without :: ofText rest
  | low :: '-' :: high :: rest => .range low high :: ofText rest
  | c :: rest => single c :: ofText rest
  | [] => []

end ClassItem

namespace Bracket

/-- A character as a class has it: as it is, or behind a backslash. -/
inductive Written : Char → List Char → Prop
  | plain {c : Char} : c ∉ ['\\', '[', ']', '&', '~'] → Written c [c]
  | escaped {c : Char} : c ∈ ['\\', '[', '&', '~', '^'] → Written c ['\\', c]

theorem Written.ne_nil {c : Char} {written : List Char} (hWritten : Written c written) :
    written ≠ [] := by
  cases hWritten <;> exact List.cons_ne_nil _ _

theorem Written.head?_ne_close {c : Char} {written : List Char} (hWritten : Written c written)
    {rest : List Char} : (written ++ rest).head? ≠ some ']' := by
  cases hWritten with
  | plain hPlain =>
    rintro hClose
    cases hClose
    exact hPlain (by decide)
  | escaped _ => simp

/-- A hyphen is never behind a backslash. -/
theorem Written.eq_hyphen {written : List Char} (hWritten : Written '-' written) :
    written = ['-'] := by
  cases hWritten with
  | plain => rfl
  | escaped hEscaped => exact absurd hEscaped (by decide)

/-- A level behind a pair of hyphens: what stands behind them goes from its set. -/
def Level.setAside (flags : Flags) (level : Level) : Level :=
  { level with pending := some (.diff, level.value flags), items := [] }

/-- A level after one more item, if its range does not run backwards. -/
def Level.take? (flags : Flags) (level : Level) : ClassItem → Option Level
  | .range low high =>
    if low ≤ high then some (level.add (.leaf (.range low.toNat high.toNat))) else none
  | .without => some (level.setAside flags)

/-- A level after more items. -/
def Level.takeAll? (flags : Flags) (level : Level) (items : List ClassItem) : Option Level :=
  items.foldlM (Level.take? flags) level

theorem Level.takeAll?_cons (flags : Flags) (level : Level) (item : ClassItem)
    (items : List ClassItem) : level.takeAll? flags (item :: items) =
      (level.take? flags item).bind (·.takeAll? flags items) := rfl

section Reading

variable {flags : Flags} {level : Level} {outer : List Level} {length : Nat} {rest : List Char}

/-- Where characters are to be skipped, reading goes on behind them. -/
theorem read_skip (skip : Nat) (text : List Char) :
    read flags level outer length skip text =
      read flags level outer (length + skip) 0 (text.drop skip) := by
  induction skip generalizing length text with
  | zero => rfl
  | succ skip ih =>
    cases text with
    | nil => rfl
    | cons c text => rw [read, ih, List.drop_succ_cons, Nat.add_assoc, Nat.add_comm 1]

/-- Behind the first character of a word, reading goes on behind the word. -/
theorem read_behind {word : List Char} (hWord : word ≠ []) :
    read flags level outer (length + 1) (word.length - 1) ((word ++ rest).drop 1) =
      read flags level outer (length + word.length) 0 rest := by
  have hPositive : 1 ≤ word.length := List.length_pos_iff.mpr hWord
  rw [read_skip, List.drop_drop, Nat.add_sub_cancel' hPositive, List.drop_left, Nat.add_assoc,
    Nat.add_sub_cancel' hPositive]

theorem item?_of_written {c : Char} {written : List Char} (hWritten : Written c written) :
    item? flags (written ++ rest) = some (.char c, written.length) := by
  cases hWritten with
  | plain hPlain =>
    have hBackslash : c ≠ '\\' := by
      rintro rfl
      exact hPlain (by decide)
    simp [item?]
  | escaped hEscaped =>
    have hEscape : Atom.escape? flags (c :: rest) = some (.char c, 1) := by
      simp only [List.mem_cons, List.not_mem_nil, or_false] at hEscaped
      rcases hEscaped with rfl | rfl | rfl | rfl | rfl <;> rfl
    simp [item?, hEscape]

variable (hVerbose : flags.verbose = false) (hUnicode : flags.unicode = true)
include hVerbose

theorem gapLength_eq_zero (text : List Char) : flags.gapLength text = 0 := by
  simp [Flags.gapLength, hVerbose]

/-- Two hyphens set aside what was read so far. -/
theorem read_without :
    read flags level outer length 0 ('-' :: '-' :: rest) =
      read flags (level.setAside flags) outer (length + 2) 0 rest := by
  rw [read.eq_def]
  simp only [gapLength_eq_zero hVerbose, Nat.lt_irrefl, if_false]
  exact read_skip 1 _

theorem read_close :
    read flags level [] length 0 (']' :: rest) =
      (level.close? flags).map fun set => (set, length + 1) := by
  rw [read.eq_def]
  simp only [gapLength_eq_zero hVerbose, Nat.lt_irrefl, if_false]
  rw [if_neg (by decide), if_pos trivial]
  cases level.close? flags <;> rfl

/-- What is no operator of a bracket starts a range, or stands on its own. -/
theorem read_of_no_operator {c : Char} (hPlain : c ∉ ['[', ']', '&', '~'])
    (hHyphen : c = '-' → rest.head? ≠ some '-') :
    read flags level outer length 0 (c :: rest) =
      (range? flags (c :: rest)).bind fun (set, size) =>
        read flags (level.add (.leaf set)) outer (length + 1) (size - 1) rest := by
  simp only [List.mem_cons, List.not_mem_nil, or_false, not_or] at hPlain
  obtain ⟨hOpen, hClose, hAnd, hTilde⟩ := hPlain
  -- the operators are pairs of one character, of which only hyphens could stand here
  have hOperator : (if rest.head? == some c then
      if c = '&' then some ClassOp.inter
      else if c = '-' then some ClassOp.diff
      else if c = '~' then some ClassOp.symmDiff
      else none
    else none) = none := by
    by_cases hSame : rest.head? = some c
    · have hNot : c ≠ '-' := fun hEq => hHyphen hEq (hEq ▸ hSame)
      simp [hAnd, hTilde, hNot]
    · simp [hSame]
  rw [read.eq_def]
  simp only [gapLength_eq_zero hVerbose, Nat.lt_irrefl, if_false, hOpen, hClose, hOperator]
  cases range? flags (c :: rest) <;> rfl

/-- A character that starts a range, or stands on its own, is added to its level. -/
theorem read_range {c : Char} {written : List Char} (hWritten : Written c written)
    (hSingle : c = '-' → rest.head? ≠ some '-') :
    read flags level outer length 0 (written ++ rest) =
      (range? flags (written ++ rest)).bind fun (set, size) =>
        read flags (level.add (.leaf set)) outer (length + 1) (size - 1)
          ((written ++ rest).drop 1) := by
  cases hWritten with
  | plain hPlain =>
    have hSubset : ['[', ']', '&', '~'] ⊆ ['\\', '[', ']', '&', '~'] := by simp
    exact read_of_no_operator hVerbose (fun hMem => hPlain (hSubset hMem)) hSingle
  | escaped hEscaped =>
    exact read_of_no_operator hVerbose (by decide) fun hEq => absurd hEq (by decide)

include hUnicode

/-- A character stands for itself in front of what is not a hyphen, or is a hyphen that
makes no range. -/
theorem range?_single {c : Char} {written : List Char} (hWritten : Written c written)
    (hBehind : ∀ more, rest = '-' :: more → more.head? = some ']' ∨ more.head? = some '-') :
    range? flags (written ++ rest) = some (.single c, written.length) := by
  simp only [range?, item?_of_written hWritten, gapLength_eq_zero hVerbose, Option.bind_eq_bind,
    Option.bind_some, Nat.add_zero, List.drop_left, setOf?, hUnicode, behindHyphen?, hVerbose]
  split
  · next more =>
    rcases hBehind more rfl with hEnd | hHyphen <;> simp [*]
  · rfl

/-- Two characters with a hyphen between them make a range. -/
theorem range?_pair {low high : Char} {writtenLow writtenHigh : List Char}
    (hLow : Written low writtenLow) (hHigh : Written high writtenHigh) (hNot : high ≠ '-') :
    range? flags (writtenLow ++ '-' :: (writtenHigh ++ rest)) =
      if low ≤ high then
        some (.range low.toNat high.toNat, writtenLow.length + 1 + writtenHigh.length)
      else none := by
  have hClose : (writtenHigh ++ rest).head? ≠ some ']' := hHigh.head?_ne_close
  have hHyphen : (writtenHigh ++ rest).head? ≠ some '-' := by
    cases hHigh with
    | plain _ => simpa using hNot
    | escaped _ => simp
  simp only [range?, item?_of_written hLow, gapLength_eq_zero hVerbose, Option.bind_eq_bind,
    Option.bind_some, Nat.add_zero, List.drop_left, behindHyphen?, hVerbose, Bool.false_eq_true,
    if_false, beq_eq_false_iff_ne.mpr hClose, beq_eq_false_iff_ne.mpr hHyphen, Bool.or_self,
    List.drop_zero, item?_of_written hHigh, hUnicode, Bool.true_or, Bool.and_true,
    decide_eq_true_eq]

/-- A character on its own is an item. -/
theorem read_single {c : Char} {written : List Char} (hWritten : Written c written)
    (hSingle : c = '-' → rest.head? ≠ some '-')
    (hBehind : ∀ more, rest = '-' :: more → more.head? = some ']' ∨ more.head? = some '-') :
    read flags level outer length 0 (written ++ rest) =
      (level.take? flags (.single c)).bind fun next =>
        read flags next outer (length + written.length) 0 rest := by
  have hSome : level.take? flags (.single c) = some (level.add (.leaf (.single c))) :=
    if_pos (Char.le_refl c)
  rw [read_range hVerbose hWritten hSingle, range?_single hVerbose hUnicode hWritten hBehind,
    hSome]
  exact read_behind hWritten.ne_nil

/-- A range is an item. -/
theorem read_pair {low high : Char} {writtenLow writtenHigh : List Char}
    (hLow : Written low writtenLow) (hHigh : Written high writtenHigh)
    (hNotLow : low ≠ '-') (hNotHigh : high ≠ '-') :
    read flags level outer length 0 (writtenLow ++ '-' :: (writtenHigh ++ rest)) =
      (level.take? flags (.range low high)).bind fun next =>
        read flags next outer (length + (writtenLow ++ '-' :: writtenHigh).length) 0 rest := by
  have hText : writtenLow ++ '-' :: (writtenHigh ++ rest) =
      (writtenLow ++ '-' :: writtenHigh) ++ rest := by simp
  have hSize : writtenLow.length + 1 + writtenHigh.length =
      (writtenLow ++ '-' :: writtenHigh).length := by
    simp only [List.length_append, List.length_cons]
    omega
  rw [read_range hVerbose hLow (fun hEq => absurd hEq hNotLow),
    range?_pair hVerbose hUnicode hLow hHigh hNotHigh, Level.take?, hSize, hText]
  split
  · exact read_behind (by simp)
  · rfl

omit hVerbose hUnicode in
/-- A hyphen at the front of what is written is its first character. -/
theorem exists_of_eq_hyphen {body : List Char} {words : List (List Char)} {more : List Char}
    (hWords : List.Forall₂ Written body words)
    (hText : words.flatten ++ ']' :: rest = '-' :: more) :
    ∃ behind words, body = '-' :: behind ∧ List.Forall₂ Written behind words ∧
      more = words.flatten ++ ']' :: rest := by
  cases hWords with
  | nil => exact absurd (List.head_eq_of_cons_eq hText) (by decide)
  | cons hFirst hBehind =>
    cases hFirst with
    | plain _ =>
      obtain ⟨rfl, rfl⟩ := List.cons_eq_cons.mp hText
      exact ⟨_, _, rfl, hBehind, rfl⟩
    | escaped _ => exact absurd (List.head_eq_of_cons_eq hText) (by decide)

/-- What is written is read item by item, up to the bracket behind it. -/
theorem read_of_written {body : List Char} {words : List (List Char)}
    (hWords : List.Forall₂ Written body words) (level : Level) (length : Nat) :
    read flags level outer length 0 (words.flatten ++ ']' :: rest) =
      (level.takeAll? flags (ClassItem.ofText body)).bind fun last =>
        read flags last outer (length + words.flatten.length) 0 (']' :: rest) := by
  -- the cases are the forms that an item has at the front of the body; each takes the words of
  -- its characters, is read by its own lemma, and leaves the words behind it
  fun_induction ClassItem.ofText body generalizing words level length with
  | case1 behind ih =>
    rcases hWords with _ | ⟨hFirst, _ | @⟨_, _, _, words, hSecond, hBehind⟩⟩
    cases hFirst.eq_hyphen
    cases hSecond.eq_hyphen
    have hLength : length + (['-'] :: ['-'] :: words).flatten.length =
        length + 2 + words.flatten.length := by
      simp only [List.flatten_cons, List.length_append, List.length_singleton]
      omega
    rw [hLength, Level.takeAll?_cons]
    exact (read_without hVerbose).trans (ih hBehind _ _)
  | case2 c behind hNot ih =>
    rcases hWords with _ | @⟨_, first, _, _, hFirst,
      _ | ⟨hSecond, _ | @⟨_, _, _, words, hThird, hBehind⟩⟩⟩
    cases hSecond.eq_hyphen
    cases hThird.eq_hyphen
    have hText : (first :: ['-'] :: ['-'] :: words).flatten ++ ']' :: rest =
        first ++ '-' :: '-' :: (words.flatten ++ ']' :: rest) := by simp
    have hLength : length + (first :: ['-'] :: ['-'] :: words).flatten.length =
        length + first.length + 2 + words.flatten.length := by
      simp only [List.flatten_cons, List.length_append, List.length_singleton]
      omega
    rw [hText, hLength, Level.takeAll?_cons, Option.bind_assoc,
      read_single hVerbose hUnicode hFirst (fun hEq => absurd hEq hNot) (by simp)]
    refine Option.bind_congr fun next _ => ?_
    rw [read_without hVerbose, ih hBehind, Level.takeAll?_cons]
    rfl
  | case3 low high behind hNot hNotHigh ih =>
    rcases hWords with _ | @⟨_, first, _, _, hFirst,
      _ | ⟨hSecond, _ | @⟨_, third, _, words, hThird, hBehind⟩⟩⟩
    cases hSecond.eq_hyphen
    have hText : (first :: ['-'] :: third :: words).flatten ++ ']' :: rest =
        first ++ '-' :: (third ++ (words.flatten ++ ']' :: rest)) := by simp
    have hLength : length + (first :: ['-'] :: third :: words).flatten.length =
        length + (first ++ '-' :: third).length + words.flatten.length := by
      simp only [List.flatten_cons, List.length_append, List.length_cons, List.length_nil]
      omega
    rw [hText, hLength, Level.takeAll?_cons, Option.bind_assoc,
      read_pair hVerbose hUnicode hFirst hThird hNot hNotHigh]
    exact Option.bind_congr fun next _ => ih hBehind _ _
  | case4 c behind hNot hNotThen hNotRange ih =>
    rcases hWords with _ | @⟨_, first, _, words, hFirst, hBehind⟩
    have hText : (first :: words).flatten ++ ']' :: rest =
        first ++ (words.flatten ++ ']' :: rest) := by simp
    have hLength : length + (first :: words).flatten.length =
        length + first.length + words.flatten.length := by
      simp only [List.flatten_cons, List.length_append]
      omega
    have hSingle : c = '-' → (words.flatten ++ ']' :: rest).head? ≠ some '-' := by
      intro hHyphen hHead
      obtain ⟨more, hMore⟩ := List.head?_eq_some_iff.mp hHead
      obtain ⟨_, _, rfl, -⟩ := exists_of_eq_hyphen hBehind hMore
      exact hNot _ hHyphen rfl
    have hAlone : ∀ more, words.flatten ++ ']' :: rest = '-' :: more →
        more.head? = some ']' ∨ more.head? = some '-' := by
      intro more hMore
      obtain ⟨further, words, rfl, hFurther, rfl⟩ := exists_of_eq_hyphen hBehind hMore
      cases hFurther with
      | nil => exact Or.inl rfl
      | cons _ _ => exact absurd rfl (hNotRange _ _)
    rw [hText, hLength, Level.takeAll?_cons, Option.bind_assoc,
      read_single hVerbose hUnicode hFirst hSingle hAlone]
    exact Option.bind_congr fun next _ => ih hBehind _ _
  | case5 =>
    cases hWords
    rfl

end Reading

end Bracket

/-- The characters at the start of a class that stand for themselves whatever is behind
them: a bracket, or hyphens. -/
def ClassItem.lead (body : List Char) : List Char :=
  if body.head? = some ']' then [']'] else body.takeWhile (· == '-')

/-- The items of a class. -/
def ClassItem.ofBody (body : List Char) : List ClassItem :=
  (lead body).map single ++ ofText (body.drop (lead body).length)

namespace Bracket

/-- The mark of a negated bracket. -/
def mark (negated : Bool) : List Char :=
  if negated then ['^'] else []

/-- A bracket whose first characters stand for themselves. -/
def Level.opened (negated : Bool) (lead : List Char) : Level :=
  { negated, pending := none, items := (lead.map fun c => .leaf (.single c)).reverse }

/-- The set of a bracket with these items. -/
def ofItems? (flags : Flags) (negated : Bool) (items : List ClassItem) :
    Option (Nested CharSet) :=
  ((Level.opened negated []).takeAll? flags items).bind (·.close? flags)

theorem Level.takeAll?_append (flags : Flags) (level : Level) (items others : List ClassItem) :
    level.takeAll? flags (items ++ others) =
      (level.takeAll? flags items).bind (·.takeAll? flags others) :=
  List.foldlM_append

/-- Characters on their own are added one by one. -/
theorem Level.takeAll?_singles (flags : Flags) (level : Level) (chars : List Char) :
    level.takeAll? flags (chars.map .single) =
      some { level with
        items := (chars.map fun c => .leaf (.single c)).reverse ++ level.items } := by
  induction chars generalizing level with
  | nil => rfl
  | cons c chars ih =>
    have hTake : level.take? flags (.single c) = some (level.add (.leaf (.single c))) :=
      if_pos (Char.le_refl c)
    rw [List.map_cons, takeAll?_cons, hTake, Option.bind_some, ih, List.map_cons,
      List.reverse_cons, List.append_assoc]
    rfl

section Opening

variable {flags : Flags} (hVerbose : flags.verbose = false)
include hVerbose

theorem leadingHyphens_replicate {text : List Char} (hText : text.head? ≠ some '-')
    (count bound : Nat) (hBound : count ≤ bound) :
    openLevel.leadingHyphens flags (List.replicate count '-' ++ text) bound = (count, count) := by
  induction count generalizing bound with
  | zero =>
    cases bound with
    | zero => rfl
    | succ bound =>
      cases text with
      | nil => rfl
      | cons c text =>
        have hNot : c ≠ '-' := by simpa using hText
        simp [openLevel.leadingHyphens, hNot]
  | succ count ih =>
    cases bound with
    | zero => omega
    | succ bound =>
      simp [List.replicate_succ, openLevel.leadingHyphens, gapLength_eq_zero hVerbose,
        ih bound (by omega)]
      omega

/-- A bracket is opened behind its mark. -/
theorem openLevel_of_mark {negated : Bool} {text : List Char}
    (hMark : negated = false → text.head? ≠ some '^') :
    openLevel flags (mark negated ++ text) =
      let (hyphens, length) := openLevel.leadingHyphens flags text text.length
      let level : Level :=
        { negated, pending := none, items := List.replicate hyphens (.leaf (.single '-')) }
      let start := (mark negated).length + length
      if hyphens = 0 && (text.head? == some ']') then
        (level.add (.leaf (.single ']')), start + 1)
      else (level, start) := by
  unfold openLevel mark
  cases negated with
  | true => simp [gapLength_eq_zero hVerbose]
  | false => simp [gapLength_eq_zero hVerbose, beq_eq_false_iff_ne.mpr (hMark rfl)]

/-- Hyphens at the start of a bracket. -/
theorem openLevel_hyphens {negated : Bool} {text : List Char} {count : Nat}
    (hMark : negated = false → (List.replicate count '-' ++ text).head? ≠ some '^')
    (hHyphen : text.head? ≠ some '-') (hEnd : count = 0 → text.head? ≠ some ']') :
    openLevel flags (mark negated ++ (List.replicate count '-' ++ text)) =
      (.opened negated (List.replicate count '-'),
        (mark negated ++ List.replicate count '-').length) := by
  rw [openLevel_of_mark hVerbose hMark, leadingHyphens_replicate hVerbose hHyphen]
  · cases count with
    | zero => simp [hEnd, Level.opened]
    | succ count => simp [Level.opened]
  · simp

/-- The words behind the hyphens at the start of a bracket. -/
theorem openLevel_words {negated : Bool} {behind rest : List Char} {words : List (List Char)}
    (count : Nat) (hWords : List.Forall₂ Written behind words)
    (hMark : negated = false → count = 0 → words.head? ≠ some ['^'])
    (hHyphen : behind.head? ≠ some '-') (hSome : count = 0 → behind ≠ []) :
    openLevel flags (mark negated ++
        (List.replicate count '-' ++ (words.flatten ++ ']' :: rest))) =
      (.opened negated (List.replicate count '-'),
        (mark negated ++ List.replicate count '-').length) := by
  refine openLevel_hyphens hVerbose ?_ ?_ ?_
  · intro hPlain
    cases count with
    | succ count => simp [List.replicate_succ]
    | zero =>
      cases hWords with
      | nil => exact absurd rfl (hSome rfl)
      | cons hFirst _ =>
        cases hFirst with
        | plain _ => simpa using hMark hPlain rfl
        | escaped _ => simp
  · intro hHead
    obtain ⟨more, hMore⟩ := List.head?_eq_some_iff.mp hHead
    obtain ⟨_, _, rfl, -⟩ := exists_of_eq_hyphen hWords hMore
    exact hHyphen rfl
  · intro hNone
    cases hWords with
    | nil => exact absurd rfl (hSome hNone)
    | cons hFirst _ =>
      rw [List.flatten_cons, List.append_assoc]
      exact hFirst.head?_ne_close

/-- A closing bracket at the start of a bracket. -/
theorem openLevel_close (negated : Bool) (text : List Char) :
    openLevel flags (mark negated ++ ([']'] ++ text)) =
      (.opened negated [']'], (mark negated ++ [']']).length) := by
  have hNone : openLevel.leadingHyphens flags ([']'] ++ text) ([']'] ++ text).length = (0, 0) :=
    leadingHyphens_replicate hVerbose (by simp) 0 _ (Nat.zero_le _)
  rw [openLevel_of_mark hVerbose (by simp), hNone, List.length_append]
  rfl

variable (hUnicode : flags.unicode = true) {rest : List Char}
include hUnicode

/-- Behind the characters at its start, a bracket is read item by item. -/
theorem ofText?_of_opened {negated : Bool} {text lead behind : List Char}
    {words : List (List Char)}
    (hText : text = mark negated ++ (lead ++ (words.flatten ++ [']'])))
    (hOpened : openLevel flags (text ++ rest) =
      (.opened negated lead, (mark negated ++ lead).length))
    (hWords : List.Forall₂ Written behind words) :
    ofText? flags (text ++ rest) =
      (ofItems? flags negated (lead.map .single ++ ClassItem.ofText behind)).map fun set =>
        (set, text.length) := by
  have hBehind : (text ++ rest).drop (mark negated ++ lead).length =
      words.flatten ++ ']' :: rest := by
    have : text ++ rest = (mark negated ++ lead) ++ (words.flatten ++ ']' :: rest) := by
      rw [hText]
      simp
    rw [this, List.drop_left]
  have hLength : text.length = (mark negated ++ lead).length + words.flatten.length + 1 := by
    rw [hText]
    simp only [List.length_append, List.length_singleton, Nat.add_assoc]
  rw [ofText?, hOpened, ofItems?, Level.takeAll?_append, Level.takeAll?_singles, Option.bind_some]
  simp only [Level.opened, List.map_nil, List.reverse_nil, List.append_nil]
  rw [read_skip, hBehind, read_of_written hVerbose hUnicode hWords, hLength, Option.map_bind]
  simp only [read_close hVerbose, Nat.zero_add]
  rfl

end Opening

end Bracket

end SingleTable.Pattern

namespace SingleTable.Glob

open Pattern Pattern.Bracket

/-- A text that can stand between the brackets of a class, behind its negation mark. -/
structure IsBody (negated : Bool) (body : List Char) : Prop where
  nonempty : body ≠ []
  closed : ']' ∉ body.tail
  unmarked : negated = false → body.head? ≠ some '!'

theorem written_classChar {c : Char} (hClose : c ≠ ']') : Written c (classChar c) := by
  unfold classChar
  split
  · exact .escaped (by grind)
  · exact .plain (by simp_all)

theorem forall₂_classChar {body : List Char} (hClose : ']' ∉ body) :
    List.Forall₂ Written body (body.map classChar) := by
  induction body with
  | nil => exact .nil
  | cons c body ih =>
    obtain ⟨hFirst, hRest⟩ := List.ne_and_not_mem_of_not_mem_cons hClose
    exact .cons (written_classChar hFirst.symm) (ih hRest)

/-- A class text whose first character needs no backslash for being the first. -/
theorem classText_eq {negated : Bool} {lead behind : List Char}
    (hFirst : negated = false → (lead ++ behind).head? ≠ some '^')
    (hLead : lead.flatMap classChar = lead) :
    classText negated (lead ++ behind) =
      mark negated ++ (lead ++ ((behind.map classChar).flatten ++ [']'])) := by
  have hBody : (lead ++ behind).flatMap classChar = lead ++ (behind.map classChar).flatten := by
    rw [List.flatMap_append, hLead, List.flatMap_def]
  unfold classText mark
  rw [hBody]
  cases negated with
  | true => simp
  | false =>
    rw [if_neg Bool.false_ne_true, if_neg (fun hHead => hFirst rfl (beq_iff_eq.mp hHead))]
    simp

theorem flatMap_classChar_hyphens (count : Nat) :
    (List.replicate count '-').flatMap classChar = List.replicate count '-' := by
  induction count with
  | zero => rfl
  | succ count ih =>
    rw [List.replicate_succ, List.flatMap_cons, ih]
    rfl

/-- The hyphens at the start of a text and what is behind them. -/
theorem exists_replicate_hyphen (text : List Char) : ∃ count behind,
    text = List.replicate count '-' ++ behind ∧ behind.head? ≠ some '-' ∧
      text.takeWhile (· == '-') = List.replicate count '-' := by
  have hAll : text.takeWhile (· == '-') =
      List.replicate (text.takeWhile (· == '-')).length '-' :=
    List.eq_replicate_of_mem fun c hMem => by
      simpa using List.all_eq_true.mp List.all_takeWhile c hMem
  refine ⟨_, text.dropWhile (· == '-'), ?_, ?_, hAll⟩
  · rw [← hAll, List.takeWhile_append_dropWhile]
  · intro hHead
    have := List.head?_dropWhile_not (· == '-') text
    simp [hHead] at this

theorem eq_caret_of_classChar {c : Char} (hWord : classChar c = ['^']) : c = '^' := by
  unfold classChar at hWord
  split at hWord
  · cases hWord
  · exact List.head_eq_of_cons_eq hWord

section ClassText

variable {flags : Flags} (hVerbose : flags.verbose = false) (hUnicode : flags.unicode = true)
include hVerbose hUnicode

/-- A class may start with a closing bracket. -/
theorem ofText?_classText_of_bracket (negated : Bool) {behind : List Char}
    (hClosed : ']' ∉ behind) (rest : List Char) :
    ofText? flags (classText negated (']' :: behind) ++ rest) =
      (ofItems? flags negated (ClassItem.ofBody (']' :: behind))).map fun set =>
        (set, (classText negated (']' :: behind)).length) := by
  have hText : classText negated ([']'] ++ behind) = _ := classText_eq (by simp) rfl
  refine ofText?_of_opened hVerbose hUnicode hText ?_ (forall₂_classChar hClosed)
  rw [List.singleton_append] at hText
  rw [hText, List.append_assoc, List.append_assoc]
  exact openLevel_close hVerbose negated _

/-- A caret at the start of a class is escaped, so that it is no mark. -/
theorem ofText?_classText_of_caret {behind : List Char} (hClosed : ']' ∉ behind)
    (rest : List Char) :
    ofText? flags (classText false ('^' :: behind) ++ rest) =
      (ofItems? flags false (ClassItem.ofBody ('^' :: behind))).map fun set =>
        (set, (classText false ('^' :: behind)).length) := by
  have hWords : List.Forall₂ Written ('^' :: behind) (['\\', '^'] :: behind.map classChar) :=
    .cons (.escaped (by decide)) (forall₂_classChar hClosed)
  have hText : classText false ('^' :: behind) =
      mark false ++ ([] ++ ((['\\', '^'] :: behind.map classChar).flatten ++ [']'])) := by
    simp [classText, mark, classChar, List.flatMap_def]
  refine ofText?_of_opened hVerbose hUnicode hText ?_ hWords
  rw [hText, List.append_assoc, List.append_assoc, List.append_assoc]
  exact openLevel_words hVerbose 0 hWords (by simp) (by simp) (by simp)

/-- Any other class starts with hyphens, perhaps none, which stand for themselves. -/
theorem ofText?_classText_of_hyphens {negated : Bool} {body : List Char} (hSome : body ≠ [])
    (hClosed : ']' ∉ body) (hCaret : negated = false → body.head? ≠ some '^')
    (rest : List Char) :
    ofText? flags (classText negated body ++ rest) =
      (ofItems? flags negated (ClassItem.ofBody body)).map fun set =>
        (set, (classText negated body).length) := by
  obtain ⟨count, further, hSplit, hFurther, hLead⟩ := exists_replicate_hyphen body
  have hNotClose : body.head? ≠ some ']' := fun hHead => hClosed (List.mem_of_head? hHead)
  have hItems : ClassItem.ofBody body =
      (List.replicate count '-').map .single ++ ClassItem.ofText further := by
    rw [ClassItem.ofBody, ClassItem.lead, if_neg hNotClose, hLead, hSplit, List.drop_left]
  rw [hItems]
  subst hSplit
  have hText := classText_eq hCaret (flatMap_classChar_hyphens count)
  have hWords := forall₂_classChar fun hMem => hClosed (List.mem_append_right _ hMem)
  refine ofText?_of_opened hVerbose hUnicode hText ?_ hWords
  rw [hText, List.append_assoc, List.append_assoc, List.append_assoc]
  refine openLevel_words hVerbose count hWords ?_ hFurther ?_
  · rintro hPlain rfl hFirst
    cases further with
    | nil => cases hFirst
    | cons c further =>
      exact hCaret hPlain (congrArg some (eq_caret_of_classChar (Option.some.inj hFirst)))
  · rintro rfl
    exact hSome

/-- The text of a class is read as its items, whatever stands behind it. -/
theorem ofText?_classText {negated : Bool} {body : List Char} (hBody : IsBody negated body)
    (rest : List Char) :
    ofText? flags (classText negated body ++ rest) =
      (ofItems? flags negated (ClassItem.ofBody body)).map fun set =>
        (set, (classText negated body).length) := by
  obtain ⟨first, behind, rfl⟩ := List.exists_cons_of_ne_nil hBody.nonempty
  have hClosed : ']' ∉ behind := hBody.closed
  by_cases hClose : first = ']'
  · subst hClose
    exact ofText?_classText_of_bracket hVerbose hUnicode negated hClosed rest
  by_cases hCaret : negated = false ∧ first = '^'
  · obtain ⟨rfl, rfl⟩ := hCaret
    exact ofText?_classText_of_caret hVerbose hUnicode hClosed rest
  · refine ofText?_classText_of_hyphens hVerbose hUnicode (List.cons_ne_nil _ _) ?_ ?_ rest
    · exact List.not_mem_cons_of_ne_of_not_mem (fun hEq => hClose hEq.symm) hClosed
    · exact fun hPlain hHead => hCaret ⟨hPlain, Option.some.inj hHead⟩

end ClassText

end SingleTable.Glob
