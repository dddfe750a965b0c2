import Mathlib.Data.List.TakeWhile
import SingleTable.Proofs.Expression.UpdateReadBack

/-!
# Placeholders that spell keywords

A clause begins wherever a keyword stands as a whole word, and the sign of a placeholder
does not belong to the word behind it.  So a placeholder that spells a keyword begins a
clause like the keyword itself.  Of a list of assignments those before the first such
placeholder are set, and the rest of the list belongs to other clauses.
-/

namespace SingleTable.Expression

open Text

/-- A word behind the sign of a placeholder.  It may spell a keyword. -/
structure Label where
  chars : List Char
  filled : chars ≠ []
  word : ∀ c ∈ chars, isWord c = true

namespace Label

variable (label : Label)

/-- The keyword that the label spells, if it does. -/
def keyword? : Option Keyword :=
  Keyword.ofText? (String.ofList label.chars)

variable {label}

theorem keyword?_eq_some_iff {keyword : Keyword} :
    label.keyword? = some keyword ↔ label.chars = keyword.text.toList := by
  have hWritten : ∀ written : Keyword, Keyword.ofText? written.text = some written := by
    intro written
    cases written <;> rfl
  unfold keyword?
  constructor
  · intro hFound
    have hSame := List.find?_some hFound
    rw [beq_iff_eq.mp hSame, String.toList_ofList]
  · intro hChars
    rw [hChars, String.ofList_toList]
    exact hWritten keyword

theorem keyword?_eq_none_iff :
    label.keyword? = none ↔ ∀ keyword : Keyword, label.chars ≠ keyword.text.toList := by
  simp only [Option.eq_none_iff_forall_ne_some, ne_eq, keyword?_eq_some_iff]

/-- A label that spells no keyword. -/
def toWord (label : Label) (hFree : label.keyword? = none) : Word :=
  ⟨label.chars, label.filled, label.word, keyword?_eq_none_iff.mp hFree⟩

end Label

/-- A plain assignment as it is printed, with any words behind the signs. -/
structure Setting where
  name : Label
  beforeSign : Gap
  afterSign : Gap
  value : Label

namespace Setting

/-- The assignment behind the sign of its attribute, up to its value. -/
def opening (setting : Setting) : List Char :=
  setting.name.chars ++ (setting.beforeSign.chars ++ '=' :: setting.afterSign.chars)

/-- The assignment as it is printed. -/
def text (setting : Setting) : List Char :=
  '#' :: (setting.opening ++ ':' :: setting.value.chars)

/-- The step that the assignment is meant as. -/
def step (setting : Setting) : UpdateStep :=
  .set (UpdateStep.placeholder '#' setting.name.chars)
    (UpdateStep.placeholder ':' setting.value.chars)

/-- The keywords that the placeholders spell. -/
def keywords (setting : Setting) : List Keyword :=
  setting.name.keyword?.toList ++ setting.value.keyword?.toList

/-- Neither placeholder spells a keyword. -/
def isFree (setting : Setting) : Bool :=
  setting.keywords.isEmpty

/-- The part of the assignment before the first keyword that a placeholder spells. -/
def remnant (setting : Setting) : List Char :=
  if setting.name.keyword?.isSome then ['#'] else '#' :: (setting.opening ++ [':'])

end Setting

section Cutting

variable {rest marks : List Char} {label : Label}

/-- The text before the first keyword. -/
def lead (text : List Char) : List Char :=
  (Clause.split 0 false text).1

/-- The keywords of a text in order. -/
def keywordsOf (text : List Char) : List Keyword :=
  (Clause.split 0 false text).2.map Clause.keyword

theorem lead_append_of_marks (hMarks : ∀ c ∈ marks, isWord c = false) (rest : List Char) :
    lead (marks ++ rest) = marks ++ lead rest := by
  rw [lead, split_append_of_marks hMarks, lead]

theorem keywordsOf_append_of_marks (hMarks : ∀ c ∈ marks, isWord c = false) (rest : List Char) :
    keywordsOf (marks ++ rest) = keywordsOf rest := by
  rw [keywordsOf, split_append_of_marks hMarks, keywordsOf]

/-- A label that spells no keyword is passed over, and one that spells a keyword begins a
clause. -/
theorem split_label_append (label : Label) (hRest : Keyword.endsWord rest = true) :
    Clause.split 0 false (label.chars ++ rest) =
      match label.keyword? with
      | some keyword => ([], ⟨keyword, lead rest⟩ :: (Clause.split 0 false rest).2)
      | none => (label.chars ++ lead rest, (Clause.split 0 false rest).2) := by
  cases hKeyword : label.keyword? with
  | some keyword =>
    rw [Label.keyword?_eq_some_iff.mp hKeyword, Clause.split_keyword keyword hRest]
    rfl
  | none =>
    have hQuiet : quiet false (label.chars ++ []) = quiet false [] :=
      quiet_append_of_free label.word (Label.keyword?_eq_none_iff.mp hKeyword) rfl false
    rw [List.append_nil] at hQuiet
    rw [Clause.split_append hQuiet (Or.inr hRest), Clause.split_of_endsWord hRest]
    rfl

theorem lead_label_append (label : Label) (hRest : Keyword.endsWord rest = true) :
    lead (label.chars ++ rest) =
      if label.keyword?.isSome then [] else label.chars ++ lead rest := by
  rw [lead, split_label_append label hRest]
  cases label.keyword? <;> rfl

theorem keywordsOf_label_append (label : Label) (hRest : Keyword.endsWord rest = true) :
    keywordsOf (label.chars ++ rest) = label.keyword?.toList ++ keywordsOf rest := by
  rw [keywordsOf, split_label_append label hRest]
  cases label.keyword? <;> rfl

end Cutting

namespace Setting

variable (setting : Setting) {rest : List Char}

/-- The marks between the placeholders of the assignment. -/
def between : List Char :=
  setting.beforeSign.chars ++ '=' :: (setting.afterSign.chars ++ [':'])

theorem isWord_of_mem_between {c : Char} (hMem : c ∈ setting.between) : isWord c = false := by
  unfold between at hMem
  simp only [List.mem_append, List.mem_cons, List.not_mem_nil, or_false] at hMem
  rcases hMem with hBefore | rfl | hAfter | rfl
  · exact setting.beforeSign.isWord_of_mem hBefore
  · decide
  · exact setting.afterSign.isWord_of_mem hAfter
  · decide

theorem endsWord_between_append (rest : List Char) :
    Keyword.endsWord (setting.between ++ rest) = true := by
  have hText : setting.between ++ rest =
      setting.beforeSign.chars ++ '=' :: (setting.afterSign.chars ++ ':' :: rest) := by
    simp [between]
  rw [hText, setting.beforeSign.endsWord_append (by decide)]

theorem text_append (rest : List Char) :
    setting.text ++ rest =
      ['#'] ++ (setting.name.chars ++ (setting.between ++ (setting.value.chars ++ rest))) := by
  simp [text, opening, between]

theorem not_isWord_numberSign : ∀ c ∈ ['#'], isWord c = false := by
  intro c hMem
  rw [List.mem_singleton.mp hMem]
  decide

/-- Up to the first keyword, a text that begins with an assignment has all of it, or its
remnant and nothing else. -/
theorem lead_text_append (hRest : Keyword.endsWord rest = true) :
    lead (setting.text ++ rest) =
      if setting.isFree then setting.text ++ lead rest else setting.remnant := by
  -- keywords are looked for behind the two signs only: the rest is marks and white space
  rw [text_append, lead_append_of_marks not_isWord_numberSign,
    lead_label_append _ (setting.endsWord_between_append _),
    lead_append_of_marks fun c => setting.isWord_of_mem_between, lead_label_append _ hRest]
  cases hName : setting.name.keyword? with
  | some keyword => simp [isFree, keywords, remnant, hName]
  | none =>
    cases hValue : setting.value.keyword? with
    | some keyword => simp [isFree, keywords, remnant, hName, hValue, opening, between]
    | none => simp [isFree, keywords, hName, hValue, text, opening, between]

theorem keywordsOf_text_append (hRest : Keyword.endsWord rest = true) :
    keywordsOf (setting.text ++ rest) = setting.keywords ++ keywordsOf rest := by
  rw [text_append, keywordsOf_append_of_marks not_isWord_numberSign,
    keywordsOf_label_append _ (setting.endsWord_between_append _),
    keywordsOf_append_of_marks fun c => setting.isWord_of_mem_between,
    keywordsOf_label_append _ hRest, keywords, List.append_assoc]

end Setting

section Lists

theorem lead_singleton (first : Setting) :
    lead (listText Setting.text first []) =
      if first.isFree then first.text else first.remnant := by
  have hAlone := first.lead_text_append Keyword.endsWord_nil
  rw [List.append_nil] at hAlone
  rw [listText, hAlone]
  simp [lead, Clause.split]

/-- A list of assignments goes on up to the first keyword as long as its assignments are
free. -/
theorem lead_cons (first next : Setting) (comma : Comma) (rest : List (Comma × Setting)) :
    lead (listText Setting.text first ((comma, next) :: rest)) =
      if first.isFree then first.text ++ (comma.text ++ lead (listText Setting.text next rest))
      else first.remnant := by
  rw [listText, first.lead_text_append (comma.endsWord_append _),
    lead_append_of_marks fun c => comma.isWord_of_mem]

/-- The keywords in a list of assignments are those that its placeholders spell. -/
theorem keywordsOf_listText (first : Setting) (rest : List (Comma × Setting)) :
    keywordsOf (listText Setting.text first rest) =
      (first :: rest.map Prod.snd).flatMap Setting.keywords := by
  induction rest generalizing first with
  | nil =>
    have hAlone := first.keywordsOf_text_append Keyword.endsWord_nil
    rw [List.append_nil] at hAlone
    rw [listText, hAlone]
    simp [keywordsOf, Clause.split]
  | cons link rest ih =>
    obtain ⟨comma, next⟩ := link
    rw [listText, first.keywordsOf_text_append (comma.endsWord_append _),
      keywordsOf_append_of_marks fun c => comma.isWord_of_mem, ih next]
    rfl

end Lists

section Reading

variable {setting : Setting} {rest : List Char}

/-- An assignment whose placeholders spell no keywords. -/
def Setting.toElement (setting : Setting) (hName : setting.name.keyword? = none)
    (hValue : setting.value.keyword? = none) : Element :=
  ⟨setting.name.toWord hName, setting.beforeSign, setting.afterSign,
    .plain (setting.value.toWord hValue)⟩

theorem Setting.isFree_iff :
    setting.isFree = true ↔ setting.name.keyword? = none ∧ setting.value.keyword? = none := by
  unfold isFree keywords
  cases setting.name.keyword? <;> cases setting.value.keyword? <;> simp

/-- A free assignment is read as its step. -/
theorem Setting.pieces_of_isFree (hFree : setting.isFree = true) (hRest : Breaks rest) :
    pieces UpdateStep.readSet (setting.text ++ rest) =
        setting.step :: pieces UpdateStep.readSet rest ∧
      pieces UpdateStep.readSetIfAbsent (setting.text ++ rest) =
        pieces UpdateStep.readSetIfAbsent rest := by
  obtain ⟨hName, hValue⟩ := isFree_iff.mp hFree
  have hText : setting.text = (setting.toElement hName hValue).text := rfl
  rw [hText, pieces_readSet _ hRest, pieces_readSetIfAbsent]
  exact ⟨rfl, rfl⟩

/-- An assignment without the word behind its last sign is not read. -/
theorem readSet_remnant (name : Word) (before after : Gap) :
    UpdateStep.readSet ('#' :: (name.chars ++ (before.chars ++ '=' :: (after.chars ++ [':'])))) =
        none ∧
      UpdateStep.readSetIfAbsent
        ('#' :: (name.chars ++ (before.chars ++ '=' :: (after.chars ++ [':'])))) = none := by
  have hSetName := @run?_setName name before '=' (by decide)
  have hGuardedName := @run?_guardedName name before '=' (by decide)
  have hSign := @mark?_gap before after '=' ':' (by decide) (by decide)
  -- no value stands behind the colon, and where the colon stands there is no function
  constructor
  · simp only [UpdateStep.readSet, literal?, Option.bind_eq_bind, Option.bind_some, ↓reduceIte,
      hSetName, hSign]
    rfl
  · simp only [UpdateStep.readSetIfAbsent, literal?, Option.bind_eq_bind, Option.bind_some,
      ↓reduceIte, hGuardedName, hSign]
    rfl

/-- Nothing is read in a text with a number sign in front only, if nothing begins there. -/
theorem pieces_eq_nil {read : Reader UpdateStep} {text : List Char}
    (hPass : ∀ c, c ≠ '#' → ∀ left, read (c :: left) = none) (hFirst : read ('#' :: text) = none)
    (hText : ∀ c ∈ text, c ≠ '#') : pieces read ('#' :: text) = [] := by
  have hRest := @pieces_append_of_eq_none [] _ read text fun c hMem => hPass c (hText c hMem)
  rw [List.append_nil] at hRest
  rw [pieces_cons_of_eq_none hFirst, hRest, pieces_nil]

/-- What is left of an assignment in front of a keyword is not read. -/
theorem Setting.pieces_remnant (setting : Setting) :
    pieces UpdateStep.readSet setting.remnant = [] ∧
      pieces UpdateStep.readSetIfAbsent setting.remnant = [] := by
  unfold remnant
  cases hName : setting.name.keyword? with
  | some keyword => exact ⟨rfl, rfl⟩
  | none =>
    obtain ⟨hSet, hGuarded⟩ :=
      readSet_remnant (setting.name.toWord hName) setting.beforeSign setting.afterSign
    have hSigns : ∀ c ∈ setting.opening ++ [':'], c ≠ '#' := by
      intro c hMem
      unfold opening at hMem
      simp only [List.mem_append, List.mem_cons, List.not_mem_nil, or_false] at hMem
      rcases hMem with (hMem | hMem | rfl | hMem) | rfl
      · exact (setting.name.toWord hName).ne_numberSign hMem
      · exact setting.beforeSign.ne_of_mem hMem
      · decide
      · exact setting.afterSign.ne_of_mem hMem
      · decide
    have hText : setting.opening ++ [':'] = setting.name.chars ++
        (setting.beforeSign.chars ++ '=' :: (setting.afterSign.chars ++ [':'])) := by
      simp [opening]
    rw [hText] at hSigns
    simp only [Option.isSome_none, Bool.false_eq_true, ↓reduceIte, hText]
    exact ⟨pieces_eq_nil (fun c => readSet_of_ne) hSet hSigns,
      pieces_eq_nil (fun c => readSetIfAbsent_of_ne) hGuarded hSigns⟩

theorem Comma.ne_of_mem (comma : Comma) {c : Char} (hMem : c ∈ comma.text) : c ≠ '#' := by
  unfold text at hMem
  rw [List.mem_append, List.mem_cons] at hMem
  rcases hMem with hBefore | rfl | hAfter
  · exact comma.before.ne_of_mem hBefore
  · decide
  · exact comma.after.ne_of_mem hAfter

/-- Before the first keyword, the free assignments at the beginning of a list are read and
nothing else. -/
theorem pieces_lead (first : Setting) (rest : List (Comma × Setting)) :
    pieces UpdateStep.readSet (lead (listText Setting.text first rest)) =
        ((first :: rest.map Prod.snd).takeWhile Setting.isFree).map Setting.step ∧
      pieces UpdateStep.readSetIfAbsent (lead (listText Setting.text first rest)) = [] := by
  -- a free assignment and its comma are followed by the same question for the rest of the
  -- list, and any other assignment is the end of the clause
  induction rest generalizing first with
  | nil =>
    rw [lead_singleton]
    cases hFree : first.isFree with
    | true =>
      have hAlone := @Setting.pieces_of_isFree first [] hFree (by simp [Breaks])
      rw [List.append_nil] at hAlone
      simpa [hFree] using hAlone
    | false => simpa [hFree] using first.pieces_remnant
  | cons link rest ih =>
    obtain ⟨comma, next⟩ := link
    rw [lead_cons]
    cases hFree : first.isFree with
    | true =>
      obtain ⟨hSet, hGuarded⟩ := first.pieces_of_isFree hFree (comma.breaks_append
        (lead (listText Setting.text next rest)))
      obtain ⟨hNextSet, hNextGuarded⟩ := ih next
      have hCommaSet : ∀ c ∈ comma.text, ∀ left, UpdateStep.readSet (c :: left) = none :=
        fun c hMem => readSet_of_ne (comma.ne_of_mem hMem)
      have hCommaGuarded : ∀ c ∈ comma.text, ∀ left, UpdateStep.readSetIfAbsent (c :: left) = none :=
        fun c hMem => readSetIfAbsent_of_ne (comma.ne_of_mem hMem)
      rw [if_pos rfl, hSet, hGuarded, pieces_append_of_eq_none hCommaSet,
        pieces_append_of_eq_none hCommaGuarded, hNextSet, hNextGuarded]
      simp [hFree]
    | false => simpa [hFree] using first.pieces_remnant

end Reading

section Solidity

theorem Setting.solid_remnant (setting : Setting) : Solid setting.remnant := by
  unfold remnant
  split
  · exact Solid.singleton (by decide)
  · exact (Solid.singleton (by decide)).append setting.opening (Solid.singleton (by decide))

theorem Setting.solid_text {setting : Setting} (hFree : setting.isFree = true) :
    Solid setting.text := by
  obtain ⟨hName, hValue⟩ := isFree_iff.mp hFree
  exact (setting.toElement hName hValue).solid_text

theorem solid_lead (first : Setting) (rest : List (Comma × Setting)) :
    Solid (lead (listText Setting.text first rest)) := by
  induction rest generalizing first with
  | nil =>
    rw [lead_singleton]
    split
    · next hFree => exact Setting.solid_text hFree
    · exact first.solid_remnant
  | cons link rest ih =>
    obtain ⟨comma, next⟩ := link
    rw [lead_cons]
    split
    · next hFree => exact (Setting.solid_text hFree).append comma.text (ih next)
    · exact first.solid_remnant

end Solidity

/-- An update that lists assignments, as it is printed. -/
def settingText (before : Gap) (list : Listing Setting) : String :=
  String.ofList (Keyword.set.text.toList ++ (before.chars ++ list.text Setting.text))

section Updates

variable (before : Gap) (list : Listing Setting)

/-- The clause that sets attributes comes first, and the placeholders begin the others. -/
theorem exists_ofText_settingText :
    ∃ others, Clause.ofText (settingText before list).toList =
        ⟨.set, before.chars ++ lead (list.text Setting.text)⟩ :: others ∧
      others.map Clause.keyword = list.entries.flatMap Setting.keywords := by
  have hBefore : ∀ c ∈ before.chars, isWord c = false := fun c => before.isWord_of_mem
  have hList : Keyword.endsWord (list.text Setting.text ++ []) = true :=
    endsWord_listText (fun _ _ => rfl) list.first list.rest []
  rw [List.append_nil] at hList
  refine ⟨_, ?_, keywordsOf_listText list.first list.rest⟩
  unfold settingText Clause.ofText
  rw [String.toList_ofList, Clause.split_keyword .set (before.endsWord_append_of_endsWord hList),
    split_append_of_marks hBefore]
  rfl

/-- The assignments before the first placeholder that spells a keyword are set. -/
theorem setsOfText_settingText :
    UpdateStep.setsOfText (settingText before list) =
      (list.entries.takeWhile Setting.isFree).map Setting.step := by
  obtain ⟨others, hClauses, -⟩ := exists_ofText_settingText before list
  obtain ⟨hSet, hGuarded⟩ := pieces_lead list.first list.rest
  have hFirst : clauseOf .set before (lead (list.text Setting.text)) .nothing =
      ⟨.set, before.chars ++ lead (list.text Setting.text)⟩ := by
    simp [clauseOf]
  rw [← hFirst] at hClauses
  have hBody := body?_of_ofText hClauses (solid_lead list.first list.rest)
    (List.find?_cons_of_pos rfl)
  unfold UpdateStep.setsOfText
  rw [hBody]
  simp only [hSet, hGuarded, List.append_nil]
  rfl

/-- A clause that removes attributes gives no step that sets one. -/
theorem removesOfText_ne_step {text : String} {step : UpdateStep}
    (hMem : step ∈ UpdateStep.removesOfText text) (setting : Setting) : setting.step ≠ step := by
  unfold UpdateStep.removesOfText at hMem
  split at hMem
  · obtain ⟨name, -, rfl⟩ := List.mem_map.mp hMem
    exact UpdateStep.noConfusion
  · exact absurd hMem List.not_mem_nil

/-- Where no placeholder spells a keyword nothing is removed. -/
theorem removesOfText_settingText (hFree : ∀ setting ∈ list.entries, setting.isFree = true) :
    UpdateStep.removesOfText (settingText before list) = [] := by
  obtain ⟨others, hClauses, hKeywords⟩ := exists_ofText_settingText before list
  have hNone : list.entries.flatMap Setting.keywords = [] := by
    rw [List.flatMap_eq_nil_iff]
    exact fun setting hMem => List.isEmpty_iff.mp (hFree setting hMem)
  rw [hNone, List.map_eq_nil_iff] at hKeywords
  rw [hKeywords] at hClauses
  have hBody : Clause.body? .remove (settingText before list).toList = none :=
    body?_of_ofText_of_none hClauses rfl
  unfold UpdateStep.removesOfText
  rw [hBody]

end Updates

/-- Of an update that lists assignments those before the first placeholder that spells a
keyword are set, so it is read as its list exactly when no placeholder spells one. -/
theorem settings_read_up_to_keyword (before : Gap) (list : Listing Setting) :
    UpdateStep.setsOfText (settingText before list) =
        (list.entries.takeWhile Setting.isFree).map Setting.step ∧
      (UpdateStep.ofText (settingText before list) = list.entries.map Setting.step ↔
        ∀ setting ∈ list.entries, setting.isFree = true) := by
  have hSets := setsOfText_settingText before list
  refine ⟨hSets, ?_, fun hFree => ?_⟩
  · intro hRead
    unfold UpdateStep.ofText at hRead
    rw [hSets] at hRead
    -- the removals would be assignments of the list, so there are none
    have hNone : UpdateStep.removesOfText (settingText before list) = [] := by
      refine List.eq_nil_iff_forall_not_mem.mpr fun step hMem => ?_
      have hListed := List.mem_append_right
        ((list.entries.takeWhile Setting.isFree).map Setting.step) hMem
      rw [hRead] at hListed
      obtain ⟨setting, -, hStep⟩ := List.mem_map.mp hListed
      exact removesOfText_ne_step hMem setting hStep
    rw [hNone, List.append_nil] at hRead
    have hLength : (list.entries.takeWhile Setting.isFree).length = list.entries.length := by
      simpa using congrArg List.length hRead
    exact List.takeWhile_eq_self_iff.mp
      ((List.takeWhile_prefix Setting.isFree).eq_of_length hLength)
  · unfold UpdateStep.ofText
    rw [hSets, removesOfText_settingText before list hFree, List.append_nil,
      List.takeWhile_eq_self_iff.mpr hFree]

/-- A placeholder that spells a keyword is taken for a clause: of `SET #SET = :v` nothing
is read. -/
theorem keyword_behind_sign_read_as_clause :
    ¬∀ list : Listing Setting,
      UpdateStep.ofText (settingText .blank list) = list.entries.map Setting.step := by
  intro hRead
  let name : Label := ⟨"SET".toList, by decide, List.all_eq_true.mp (by decide)⟩
  let value : Label := ⟨['v'], by decide, List.all_eq_true.mp (by decide)⟩
  have hNothing := hRead ⟨⟨name, .blank, .blank, value⟩, []⟩
  exact absurd hNothing (by decide)

end SingleTable.Expression
