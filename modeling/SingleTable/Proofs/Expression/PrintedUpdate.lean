import SingleTable.Proofs.Expression.Printed

/-!
# Reading printed updates

Assignments and removals are printed as lists, with commas between them, and lists as
clauses.  Reading an update gives the steps back: first the plain assignments, then the
conditional ones, then the removals, each in the order of the text.
-/

namespace SingleTable.Expression

open Text

/-- A comma with white space around it. -/
structure Comma where
  before : Gap
  after : Gap

/-- The comma as it is printed. -/
def Comma.text (comma : Comma) : List Char :=
  comma.before.chars ++ ',' :: comma.after.chars

/-- A list as it is printed, with a comma before each further entry. -/
def listText {α : Type} (text : α → List Char) (first : α) : List (Comma × α) → List Char
  | [] => text first
  | (comma, next) :: rest => text first ++ (comma.text ++ listText text next rest)

namespace Comma

variable (comma : Comma)

theorem isWord_of_mem {c : Char} (hMem : c ∈ comma.text) : isWord c = false := by
  unfold text at hMem
  rw [List.mem_append, List.mem_cons] at hMem
  rcases hMem with hBefore | rfl | hAfter
  · exact comma.before.isWord_of_mem hBefore
  · decide
  · exact comma.after.isWord_of_mem hAfter

theorem breaks_append (rest : List Char) : Breaks (comma.text ++ rest) := by
  have hHead : ∀ c ∈ (comma.text ++ rest).head?, (c == ',' || isSpace c) = true := by
    unfold text
    rw [List.append_assoc, List.cons_append]
    refine head?_append_cons ?_ (by simp) comma.before.space
    intro c hSpace
    simp [hSpace]
  intro c hMem
  simpa using hHead c hMem

theorem endsWord_append (rest : List Char) : Keyword.endsWord (comma.text ++ rest) = true := by
  obtain ⟨c, chars, hText⟩ : ∃ c chars, comma.text = c :: chars := by
    refine List.exists_cons_of_ne_nil ?_
    simp [text]
  rw [hText, List.cons_append, Keyword.endsWord_cons, comma.isWord_of_mem (by simp [hText])]
  rfl

end Comma

section Lists

variable {α : Type} {text : α → List Char} {tail : List Char}

/-- The ends of a list are those of its first and last entry. -/
theorem solid_listText (hSolid : ∀ entry, Solid (text entry)) (first : α)
    (rest : List (Comma × α)) : Solid (listText text first rest) := by
  induction rest generalizing first with
  | nil => exact hSolid first
  | cons link rest ih =>
    obtain ⟨comma, next⟩ := link
    exact (hSolid first).append comma.text (ih next)

/-- A list begins as its first entry does. -/
theorem endsWord_listText
    (hStart : ∀ entry rest, Keyword.endsWord (text entry ++ rest) = true) (first : α)
    (rest : List (Comma × α)) (tail : List Char) :
    Keyword.endsWord (listText text first rest ++ tail) = true := by
  cases rest with
  | nil => exact hStart first tail
  | cons link rest =>
    rw [listText, List.append_assoc]
    exact hStart first _

/-- No keyword stands in a list if none stands in its entries. -/
theorem quiet_listText
    (hQuiet : ∀ entry rest, Keyword.endsWord rest = true →
      quiet false (text entry ++ rest) = quiet false rest)
    (hTail : Keyword.endsWord tail = true) (first : α) (rest : List (Comma × α)) :
    quiet false (listText text first rest ++ tail) = quiet false tail := by
  induction rest generalizing first with
  | nil => exact hQuiet first tail hTail
  | cons link rest ih =>
    obtain ⟨comma, next⟩ := link
    rw [listText, List.append_assoc, List.append_assoc, hQuiet first _ (comma.endsWord_append _),
      quiet_append_of_marks (fun c => comma.isWord_of_mem), ih next]

/-- The pieces of a list are those of its entries. -/
theorem pieces_listText {β : Type} {read : Reader β} {part : α → List β}
    (hPass : ∀ c, isSpace c = true ∨ c = ',' → ∀ left, read (c :: left) = none)
    (hEntry : ∀ entry rest, Breaks rest →
      pieces read (text entry ++ rest) = part entry ++ pieces read rest)
    (first : α) (rest : List (Comma × α)) :
    pieces read (listText text first rest) = (first :: rest.map Prod.snd).flatMap part := by
  induction rest generalizing first with
  | nil =>
    have hAlone := hEntry first [] (by simp [Breaks])
    simpa [listText] using hAlone
  | cons link rest ih =>
    obtain ⟨comma, next⟩ := link
    have hComma : ∀ c ∈ comma.text, ∀ left, read (c :: left) = none := by
      intro c hMem left
      refine hPass c ?_ left
      unfold Comma.text at hMem
      rw [List.mem_append, List.mem_cons] at hMem
      rcases hMem with hBefore | hSign | hAfter
      · exact Or.inl (comma.before.space c hBefore)
      · exact Or.inr hSign
      · exact Or.inl (comma.after.space c hAfter)
    rw [listText, hEntry first _ (comma.breaks_append _), pieces_append_of_eq_none hComma,
      ih next]
    rfl

end Lists

/-- A list of assignments is read as the plain steps and then the conditional ones. -/
theorem pieces_assignments (first : Element) (rest : List (Comma × Element)) :
    pieces UpdateStep.readSet (listText Element.text first rest) ++
        pieces UpdateStep.readSetIfAbsent (listText Element.text first rest) =
      ((first :: rest.map Prod.snd).filter Element.isPlain ++
        (first :: rest.map Prod.snd).filter (!·.isPlain)).map Element.step := by
  have hSigns : ∀ c, isSpace c = true ∨ c = ',' → c ≠ '#' := by
    rintro c hCase rfl
    exact absurd hCase (by decide)
  have hCounted : ∀ (counts : Element → Bool) (elements : List Element),
      elements.flatMap (fun element => if counts element then [element.step] else []) =
        (elements.filter counts).map Element.step := by
    intro counts elements
    induction elements with
    | nil => rfl
    | cons element others ih => cases hCounts : counts element <;> simp [hCounts, ih]
  rw [pieces_listText (fun c hCase => readSet_of_ne (hSigns c hCase))
      fun element rest => pieces_readSet element,
    pieces_listText (fun c hCase => readSetIfAbsent_of_ne (hSigns c hCase))
      fun element rest _ => pieces_readSetIfAbsent element rest,
    hCounted, hCounted (!·.isPlain), List.map_append]

theorem not_mem_removalText (name : Word) : ',' ∉ removalText name := by
  unfold removalText
  rw [List.mem_cons, not_or]
  exact ⟨by decide, fun hMem => name.ne_of_mem hMem (by decide) rfl⟩

theorem Gap.not_mem_comma (gap : Gap) : ',' ∉ gap.chars := by
  intro hMem
  exact absurd (gap.space ',' hMem) (by decide)

/-- A list of removals is cut into its entries. -/
theorem map_trim_splitCommas (lead : Gap) (first : Word) (rest : List (Comma × Word)) :
    (UpdateStep.splitCommas (lead.chars ++ listText removalText first rest)).map trim =
      (first :: rest.map Prod.snd).map removalText := by
  have hNone : ∀ name : Word, ∀ before after : Gap,
      ',' ∉ before.chars ++ (removalText name ++ after.chars) := by
    intro name before after
    simp [not_mem_removalText, Gap.not_mem_comma]
  have hTrim : ∀ name : Word, ∀ before after : Gap,
      trim (before.chars ++ (removalText name ++ after.chars)) = removalText name :=
    fun name before after => (solid_removalText name).trim_append before.space after.space
  induction rest generalizing lead first with
  | nil =>
    have hAlone := hNone first lead .nothing
    have hAloneTrim := hTrim first lead .nothing
    rw [Gap.chars_nothing, List.append_nil] at hAlone hAloneTrim
    rw [listText, UpdateStep.splitCommas_of_not_mem hAlone, List.map_singleton, hAloneTrim]
    rfl
  | cons link rest ih =>
    obtain ⟨⟨before, after⟩, next⟩ := link
    -- the white space before the comma belongs to one part, that behind it to the next
    have hText : lead.chars ++ listText removalText first ((⟨before, after⟩, next) :: rest) =
        (lead.chars ++ (removalText first ++ before.chars)) ++
          ',' :: (after.chars ++ listText removalText next rest) := by
      simp [listText, Comma.text]
    rw [hText, UpdateStep.splitCommas_append (hNone first lead before), List.map_cons,
      hTrim first lead before, ih after next]
    rfl

/-- The clause of a list, with white space around the list. -/
def clauseOf (keyword : Keyword) (before : Gap) (list : List Char) (after : Gap) : Clause :=
  ⟨keyword, before.chars ++ (list ++ after.chars)⟩

/-- White space before a text does not make it begin with a word. -/
theorem Gap.endsWord_append_of_endsWord (gap : Gap) {rest : List Char}
    (hRest : Keyword.endsWord rest = true) : Keyword.endsWord (gap.chars ++ rest) = true := by
  cases hChars : gap.chars with
  | nil => exact hRest
  | cons c chars =>
    rw [List.cons_append, Keyword.endsWord_cons, gap.isWord_of_mem (by simp [hChars])]
    rfl

/-- A text that ends in white space does not end in a word. -/
theorem Gap.wordAfter_append (gap : Gap) (hFilled : gap.chars ≠ []) (inWord : Bool)
    (text : List Char) : wordAfter inWord (text ++ gap.chars) = false := by
  have hLast : gap.chars = gap.chars.dropLast ++ [gap.chars.getLast hFilled] :=
    (List.dropLast_concat_getLast hFilled).symm
  rw [hLast, ← List.append_assoc, Expression.wordAfter_append]
  exact gap.isWord_of_mem (List.getLast_mem hFilled)

/-- In the clause of a list no keyword stands if none stands in the list. -/
theorem quiet_clauseOf (keyword : Keyword) (before after : Gap) {list : List Char}
    (hStart : Keyword.endsWord (list ++ after.chars) = true)
    (hQuiet : ∀ tail, Keyword.endsWord tail = true →
      quiet false (list ++ tail) = quiet false tail) :
    Keyword.endsWord (clauseOf keyword before list after).body = true ∧
      quiet false (clauseOf keyword before list after).body = true := by
  refine ⟨before.endsWord_append_of_endsWord hStart, ?_⟩
  have hAfter : Keyword.endsWord after.chars = true := by
    simpa using after.endsWord_append_of_endsWord Keyword.endsWord_nil
  have hNone : quiet false (after.chars ++ []) = quiet false [] :=
    quiet_append_of_marks (fun c => after.isWord_of_mem) []
  unfold clauseOf
  rw [quiet_append_of_marks (fun c => before.isWord_of_mem), hQuiet _ hAfter]
  rw [List.append_nil] at hNone
  exact hNone

theorem quiet_setClause (before after : Gap) (first : Element) (rest : List (Comma × Element)) :
    Keyword.endsWord
        (clauseOf .set before (listText Element.text first rest) after).body = true ∧
      quiet false
        (clauseOf .set before (listText Element.text first rest) after).body = true := by
  refine quiet_clauseOf .set before after ?_ fun tail hTail => ?_
  · exact endsWord_listText (fun _ _ => rfl) first rest _
  · exact quiet_listText (fun element rest hRest => element.quiet_text hRest) hTail first rest

theorem quiet_removeClause (before after : Gap) (first : Word) (rest : List (Comma × Word)) :
    Keyword.endsWord
        (clauseOf .remove before (listText removalText first rest) after).body = true ∧
      quiet false
        (clauseOf .remove before (listText removalText first rest) after).body = true := by
  refine quiet_clauseOf .remove before after ?_ fun tail hTail => ?_
  · exact endsWord_listText (fun _ _ => rfl) first rest _
  · exact quiet_listText (fun name rest hRest => quiet_removalText name hRest) hTail first rest

section Updates

variable {clauses : List Clause} {text : String}

/-- The body of a clause is its list without the white space around it. -/
theorem body?_of_ofText {keyword : Keyword} {chars list : List Char} {before after : Gap}
    (hClauses : Clause.ofText chars = clauses) (hSolid : Solid list)
    (hFind : clauses.find? (fun clause => clause.keyword == keyword) =
      some (clauseOf keyword before list after)) :
    Clause.body? keyword chars = some list := by
  have hTrim : trim (clauseOf keyword before list after).body = list :=
    hSolid.trim_append before.space after.space
  unfold Clause.body?
  rw [hClauses, hFind]
  simp [hTrim, hSolid.filled]

theorem body?_of_ofText_of_none {keyword : Keyword} {chars : List Char}
    (hClauses : Clause.ofText chars = clauses)
    (hFind : clauses.find? (fun clause => clause.keyword == keyword) = none) :
    Clause.body? keyword chars = none := by
  unfold Clause.body?
  rw [hClauses, hFind]
  rfl

theorem body?_of_find? {keyword : Keyword} {list : List Char} {before after : Gap}
    (hText : text.toList = clauses.flatMap Clause.printed) (hSeparate : Clause.Separate clauses)
    (hSolid : Solid list)
    (hFind : clauses.find? (fun clause => clause.keyword == keyword) =
      some (clauseOf keyword before list after)) :
    Clause.body? keyword text.toList = some list :=
  body?_of_ofText (by rw [hText, Clause.ofText_flatMap_printed hSeparate]) hSolid hFind

theorem body?_of_find?_eq_none {keyword : Keyword}
    (hText : text.toList = clauses.flatMap Clause.printed) (hSeparate : Clause.Separate clauses)
    (hFind : clauses.find? (fun clause => clause.keyword == keyword) = none) :
    Clause.body? keyword text.toList = none :=
  body?_of_ofText_of_none (by rw [hText, Clause.ofText_flatMap_printed hSeparate]) hFind

/-- The steps of a printed clause that sets attributes. -/
theorem setsOfText_of_body? {first : Element} {rest : List (Comma × Element)}
    (hBody : Clause.body? .set text.toList = some (listText Element.text first rest)) :
    UpdateStep.setsOfText text =
      ((first :: rest.map Prod.snd).filter Element.isPlain ++
        (first :: rest.map Prod.snd).filter (!·.isPlain)).map Element.step := by
  unfold UpdateStep.setsOfText
  rw [hBody]
  exact pieces_assignments first rest

/-- The steps of a printed clause that removes attributes. -/
theorem removesOfText_of_body? {first : Word} {rest : List (Comma × Word)}
    (hBody : Clause.body? .remove text.toList = some (listText removalText first rest)) :
    UpdateStep.removesOfText text = (first :: rest.map Prod.snd).map removal := by
  have hNames := map_trim_splitCommas .nothing first rest
  rw [Gap.chars_nothing, List.nil_append] at hNames
  have hFilled : ((first :: rest.map Prod.snd).map removalText).filter (!·.isEmpty) =
      (first :: rest.map Prod.snd).map removalText := by
    refine List.filter_eq_self.mpr ?_
    intro name hMem
    obtain ⟨word, _, rfl⟩ := List.mem_map.mp hMem
    rfl
  unfold UpdateStep.removesOfText
  rw [hBody]
  simp only [hNames, hFilled, List.map_map]
  rfl

end Updates

end SingleTable.Expression
