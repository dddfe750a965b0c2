import Mathlib.Data.List.Nodup
import SingleTable.Proofs.Expression.PrintedUpdate

/-!
# Reading printed updates back

An update is printed as its clauses in any order, at most one for each keyword, with any
white space around their lists and between the tokens of these.  No clause but the last
one ends in a word character, so that the next keyword stands as a word of its own.  The
update is read as the plain assignments, then the conditional ones and then the removals,
each in the order of the text; what is listed to be added or deleted gives no steps.
-/

namespace SingleTable.Expression

open Text

/-- A list as it is printed: entries with commas between them. -/
structure Listing (α : Type) where
  first : α
  rest : List (Comma × α)

namespace Listing

variable {α : Type}

/-- The entries of a list in order. -/
def entries (list : Listing α) : List α :=
  list.first :: list.rest.map Prod.snd

/-- The list as it is printed. -/
def text (list : Listing α) (entryText : α → List Char) : List Char :=
  listText entryText list.first list.rest

end Listing

/-- An attribute and a value to add to it or to delete from it, as they are printed. -/
structure Pair where
  name : Word
  between : Gap
  value : Word

/-- The pair as it is printed. -/
def Pair.text (pair : Pair) : List Char :=
  '#' :: (pair.name.chars ++ (pair.between.chars ++ ':' :: pair.value.chars))

theorem Pair.quiet_text (pair : Pair) {rest : List Char} (hRest : Keyword.endsWord rest = true) :
    quiet false (pair.text ++ rest) = quiet false rest := by
  have hText : pair.text ++ rest =
      '#' :: (pair.name.chars ++ (pair.between.chars ++ ':' :: (pair.value.chars ++ rest))) := by
    simp [text]
  rw [hText, quiet_cons_of_not_isWord (by decide),
    quiet_word _ (pair.between.endsWord_append (by decide) _), quiet_gap _ (by decide),
    quiet_word _ hRest]

/-- What a clause lists.  There may be nothing to add or to delete. -/
inductive Entries where
  | sets (list : Listing Element)
  | removals (list : Listing Word)
  | additions (list : Option (Listing Pair))
  | deletions (list : Option (Listing Pair))

namespace Entries

/-- The keyword of the clause. -/
def keyword : Entries → Keyword
  | .sets _ => .set
  | .removals _ => .remove
  | .additions _ => .add
  | .deletions _ => .delete

/-- The entries as they are printed. -/
def text : Entries → List Char
  | .sets list => list.text Element.text
  | .removals list => list.text removalText
  | .additions none => []
  | .additions (some list) => list.text Pair.text
  | .deletions none => []
  | .deletions (some list) => list.text Pair.text

theorem endsWord_append (entries : Entries) {rest : List Char}
    (hRest : Keyword.endsWord rest = true) : Keyword.endsWord (entries.text ++ rest) = true := by
  cases entries with
  | sets list => exact endsWord_listText (fun _ _ => rfl) list.first list.rest rest
  | removals list => exact endsWord_listText (fun _ _ => rfl) list.first list.rest rest
  | additions list =>
    cases list with
    | none => exact hRest
    | some list => exact endsWord_listText (fun _ _ => rfl) list.first list.rest rest
  | deletions list =>
    cases list with
    | none => exact hRest
    | some list => exact endsWord_listText (fun _ _ => rfl) list.first list.rest rest

/-- No keyword stands in what a clause lists. -/
theorem quiet_append (entries : Entries) {rest : List Char}
    (hRest : Keyword.endsWord rest = true) :
    quiet false (entries.text ++ rest) = quiet false rest := by
  have hPairs : ∀ list : Listing Pair,
      quiet false (list.text Pair.text ++ rest) = quiet false rest := fun list =>
    quiet_listText (fun pair rest => pair.quiet_text) hRest list.first list.rest
  cases entries with
  | sets list =>
    exact quiet_listText (fun element rest => element.quiet_text) hRest list.first list.rest
  | removals list =>
    exact quiet_listText (fun name rest => quiet_removalText name) hRest list.first list.rest
  | additions list =>
    cases list with
    | none => rfl
    | some list => exact hPairs list
  | deletions list =>
    cases list with
    | none => rfl
    | some list => exact hPairs list

end Entries

/-- A clause as it is printed, with white space around what it lists. -/
structure PrintedClause where
  before : Gap
  entries : Entries
  after : Gap

namespace PrintedClause

/-- The keyword of the clause. -/
def keyword (clause : PrintedClause) : Keyword :=
  clause.entries.keyword

/-- The clause as its keyword and the text behind it. -/
def clause (printed : PrintedClause) : Clause :=
  clauseOf printed.keyword printed.before printed.entries.text printed.after

/-- The clause as it is printed. -/
def text (clause : PrintedClause) : List Char :=
  clause.clause.printed

/-- The assignments that the clause lists. -/
def assignments (clause : PrintedClause) : List Element :=
  match clause.entries with
  | .sets list => list.entries
  | _ => []

/-- The removals that the clause lists. -/
def removals (clause : PrintedClause) : List Word :=
  match clause.entries with
  | .removals list => list.entries
  | _ => []

theorem quiet_body (printed : PrintedClause) :
    Keyword.endsWord printed.clause.body = true ∧ quiet false printed.clause.body = true := by
  have hAfter : Keyword.endsWord printed.after.chars = true := by
    simpa using printed.after.endsWord_append_of_endsWord Keyword.endsWord_nil
  exact quiet_clauseOf printed.keyword printed.before printed.after
    (printed.entries.endsWord_append hAfter) fun tail => printed.entries.quiet_append

end PrintedClause

/-- An update as it is printed, with white space in front of it.  No two clauses have the
same keyword, and no clause but the last one ends in a word character. -/
structure PrintedUpdate where
  lead : Gap
  clauses : List PrintedClause
  distinct : (clauses.map PrintedClause.keyword).Nodup
  apart : ∀ clause ∈ clauses.dropLast, ∀ c ∈ clause.text.getLast?, isWord c = false

namespace PrintedUpdate

/-- The update as it is printed. -/
def text (update : PrintedUpdate) : String :=
  String.ofList (update.lead.chars ++ update.clauses.flatMap PrintedClause.text)

/-- The assignments of the update in the order of the text. -/
def assignments (update : PrintedUpdate) : List Element :=
  update.clauses.flatMap PrintedClause.assignments

/-- The removals of the update in the order of the text. -/
def removals (update : PrintedUpdate) : List Word :=
  update.clauses.flatMap PrintedClause.removals

/-- The steps that the update stands for. -/
def steps (update : PrintedUpdate) : List UpdateStep :=
  (update.assignments.filter Element.isPlain).map Element.step ++
    (update.assignments.filter (!·.isPlain)).map Element.step ++ update.removals.map removal

end PrintedUpdate

/-- A text ends in a word if its last character is one of a word. -/
theorem wordAfter_of_getLast? {text : List Char} (hLast : ∀ c ∈ text.getLast?, isWord c = false) :
    wordAfter false text = false := by
  cases hText : text.getLast? with
  | none =>
    rw [List.getLast?_eq_none_iff.mp hText]
    rfl
  | some c =>
    obtain ⟨initial, rfl⟩ := List.getLast?_eq_some_iff.mp hText
    rw [wordAfter_append]
    exact hLast c hText

/-- Marks and white space in front of a text belong to no keyword. -/
theorem split_append_of_marks {marks : List Char}
    (hMarks : ∀ c ∈ marks, isWord c = false) (rest : List Char) :
    Clause.split 0 false (marks ++ rest) =
      (marks ++ (Clause.split 0 false rest).1, (Clause.split 0 false rest).2) := by
  have hQuiet : quiet false (marks ++ []) = quiet false [] := quiet_append_of_marks hMarks []
  rw [List.append_nil] at hQuiet
  have hAfter : wordAfter false marks = false :=
    wordAfter_of_getLast? fun c hLast => hMarks c (List.mem_of_getLast? hLast)
  rw [Clause.split_append hQuiet (Or.inl hAfter), hAfter]

/-- White space in front of an update belongs to no clause. -/
theorem ofText_gap_append (gap : Gap) (rest : List Char) :
    Clause.ofText (gap.chars ++ rest) = Clause.ofText rest := by
  unfold Clause.ofText
  rw [split_append_of_marks fun c => gap.isWord_of_mem]

/-- A clause that does not end in a word character is apart from the next keyword. -/
theorem PrintedClause.wordAfter_body (printed : PrintedClause)
    (hLast : ∀ c ∈ printed.text.getLast?, isWord c = false) :
    wordAfter true printed.clause.body = false := by
  have hText := wordAfter_of_getLast? hLast
  have hKeyword : wordAfter false printed.keyword.text.toList = true := by
    cases printed.keyword <;> decide
  unfold text Clause.printed at hText
  rw [wordAfter_append] at hText
  rwa [← hKeyword]

theorem separate_of_apart {clauses : List PrintedClause}
    (hApart : ∀ clause ∈ clauses.dropLast, ∀ c ∈ clause.text.getLast?, isWord c = false) :
    Clause.Separate (clauses.map PrintedClause.clause) := by
  induction clauses with
  | nil => trivial
  | cons first rest ih =>
    cases rest with
    | nil => exact ⟨first.quiet_body, Or.inl rfl, trivial⟩
    | cons next others =>
      rw [List.dropLast_cons_of_ne_nil (by simp), List.forall_mem_cons] at hApart
      exact ⟨first.quiet_body, Or.inr (first.wordAfter_body hApart.1), ih hApart.2⟩

/-- The clauses of a printed update are found again. -/
theorem PrintedUpdate.ofText_text (update : PrintedUpdate) :
    Clause.ofText update.text.toList = update.clauses.map PrintedClause.clause := by
  have hPrinted : update.clauses.flatMap PrintedClause.text =
      (update.clauses.map PrintedClause.clause).flatMap Clause.printed := by
    rw [List.flatMap_map]
    rfl
  unfold text
  rw [String.toList_ofList, ofText_gap_append, hPrinted,
    Clause.ofText_flatMap_printed (separate_of_apart update.apart)]

section OnlyClause

variable {clauses before after : List PrintedClause} {clause : PrintedClause}

/-- Either no clause has a keyword, or a single one does. -/
theorem exists_only_clause (hDistinct : (clauses.map PrintedClause.keyword).Nodup)
    (keyword : Keyword) :
    (∀ clause ∈ clauses, clause.keyword ≠ keyword) ∨
      ∃ before clause after, clauses = before ++ clause :: after ∧ clause.keyword = keyword ∧
        ∀ other ∈ before ++ after, other.keyword ≠ keyword := by
  by_cases hSome : ∃ clause ∈ clauses, clause.keyword = keyword
  · obtain ⟨clause, hMem, rfl⟩ := hSome
    obtain ⟨before, after, rfl⟩ := List.append_of_mem hMem
    refine Or.inr ⟨before, clause, after, rfl, rfl, fun other hOther hSame => ?_⟩
    rw [List.map_append, List.map_cons, List.nodup_middle, ← List.map_append,
      List.nodup_cons] at hDistinct
    exact hDistinct.1 (List.mem_map.mpr ⟨other, hOther, hSame⟩)
  · exact Or.inl fun clause hMem hKeyword => hSome ⟨clause, hMem, hKeyword⟩

theorem find?_of_no_clause {keyword : Keyword}
    (hNone : ∀ clause ∈ clauses, clause.keyword ≠ keyword) :
    (clauses.map PrintedClause.clause).find? (fun clause => clause.keyword == keyword) = none := by
  rw [List.find?_eq_none]
  intro clause hMem
  obtain ⟨printed, hPrinted, rfl⟩ := List.mem_map.mp hMem
  rw [beq_iff_eq]
  exact hNone printed hPrinted

theorem find?_of_only_clause (hOthers : ∀ other ∈ before ++ after, other.keyword ≠ clause.keyword) :
    ((before ++ clause :: after).map PrintedClause.clause).find?
      (fun other => other.keyword == clause.keyword) = some clause.clause := by
  have hBefore := find?_of_no_clause fun other hMem =>
    hOthers other (List.mem_append_left after hMem)
  rw [List.map_append, List.find?_append, hBefore, List.map_cons, Option.none_or,
    List.find?_cons_of_pos]
  simp [PrintedClause.clause, clauseOf]

/-- What only clauses with a keyword list is what the single one with it lists. -/
theorem flatMap_of_only_clause {β : Type} {part : PrintedClause → List β}
    (hPart : ∀ other, other.keyword ≠ clause.keyword → part other = [])
    (hOthers : ∀ other ∈ before ++ after, other.keyword ≠ clause.keyword) :
    (before ++ clause :: after).flatMap part = part clause := by
  have hNothing : ∀ others ⊆ before ++ after, others.flatMap part = [] := by
    intro others hSub
    rw [List.flatMap_eq_nil_iff]
    exact fun other hMem => hPart other (hOthers other (hSub hMem))
  rw [List.flatMap_append, List.flatMap_cons, hNothing before (by simp),
    hNothing after (by simp), List.nil_append, List.append_nil]

end OnlyClause

namespace PrintedUpdate

variable (update : PrintedUpdate)

/-- Of what only clauses with a keyword list, either there is nothing and no body is found,
or the body of the single clause with the keyword is found. -/
theorem body?_text_cases {β : Type} {keyword : Keyword} {part : PrintedClause → List β}
    (hPart : ∀ clause : PrintedClause, clause.keyword ≠ keyword → part clause = []) :
    (update.clauses.flatMap part = [] ∧ Clause.body? keyword update.text.toList = none) ∨
      ∃ clause : PrintedClause, clause.keyword = keyword ∧
        update.clauses.flatMap part = part clause ∧ (Solid clause.entries.text →
          Clause.body? keyword update.text.toList = some clause.entries.text) := by
  have hClauses := update.ofText_text
  rcases exists_only_clause update.distinct keyword with
    hNone | ⟨before, clause, after, hSplit, rfl, hOthers⟩
  · refine Or.inl ⟨?_, body?_of_ofText_of_none hClauses (find?_of_no_clause hNone)⟩
    exact List.flatMap_eq_nil_iff.mpr fun clause hMem => hPart clause (hNone clause hMem)
  · rw [hSplit] at hClauses ⊢
    refine Or.inr ⟨clause, rfl, flatMap_of_only_clause hPart hOthers, fun hSolid => ?_⟩
    exact body?_of_ofText hClauses hSolid (find?_of_only_clause hOthers)

/-- The clause that sets attributes is read as its assignments, plain ones first. -/
theorem setsOfText_text :
    UpdateStep.setsOfText update.text =
      (update.assignments.filter Element.isPlain ++
        update.assignments.filter (!·.isPlain)).map Element.step := by
  have hPart : ∀ clause : PrintedClause, clause.keyword ≠ .set → clause.assignments = [] := by
    rintro ⟨before, entries, after⟩ hKeyword
    cases entries with
    | sets list => exact absurd rfl hKeyword
    | _ => rfl
  unfold assignments
  rcases update.body?_text_cases hPart with
    ⟨hNothing, hNone⟩ | ⟨⟨before, entries, after⟩, hKeyword, hAll, hBody⟩
  · unfold UpdateStep.setsOfText
    rw [hNone, hNothing]
    rfl
  · cases entries with
    | sets list =>
      rw [hAll]
      exact setsOfText_of_body? (hBody (solid_listText Element.solid_text list.first list.rest))
    | _ => cases hKeyword

/-- The clause that removes attributes is read as its removals. -/
theorem removesOfText_text :
    UpdateStep.removesOfText update.text = update.removals.map removal := by
  have hPart : ∀ clause : PrintedClause, clause.keyword ≠ .remove → clause.removals = [] := by
    rintro ⟨before, entries, after⟩ hKeyword
    cases entries with
    | removals list => exact absurd rfl hKeyword
    | _ => rfl
  unfold removals
  rcases update.body?_text_cases hPart with
    ⟨hNothing, hNone⟩ | ⟨⟨before, entries, after⟩, hKeyword, hAll, hBody⟩
  · unfold UpdateStep.removesOfText
    rw [hNone, hNothing]
    rfl
  · cases entries with
    | removals list =>
      rw [hAll]
      exact removesOfText_of_body? (hBody (solid_listText solid_removalText list.first list.rest))
    | _ => cases hKeyword

end PrintedUpdate

/-- A printed update is read as its steps: the plain assignments, the conditional ones and
the removals, each in the order of the text. -/
theorem printed_update_read_back (update : PrintedUpdate) :
    UpdateStep.ofText update.text = update.steps := by
  unfold UpdateStep.ofText PrintedUpdate.steps
  rw [update.setsOfText_text, update.removesOfText_text, List.map_append]

/-- The text can stand behind the sign of a placeholder. -/
def Word.allows (text : String) : Bool :=
  !text.toList.isEmpty && text.toList.all isWord && (Keyword.ofText? text).isNone

/-- The word that a text spells. -/
def Word.ofText (text : String) (hAllowed : Word.allows text = true) : Word where
  chars := text.toList
  filled := by
    intro hChars
    simp [allows, hChars] at hAllowed
  word := by
    unfold allows at hAllowed
    rw [Bool.and_eq_true, Bool.and_eq_true] at hAllowed
    exact List.all_eq_true.mp hAllowed.1.2
  free := by
    intro keyword hChars
    rw [String.toList_inj.mp hChars] at hAllowed
    cases keyword <;> cases hAllowed

/-- A clause with white space behind it does not end in a word character. -/
theorem PrintedClause.isWord_of_getLast? (printed : PrintedClause)
    (hAfter : printed.after.chars ≠ []) : ∀ c ∈ printed.text.getLast?, isWord c = false := by
  intro c hLast
  have hText : printed.text =
      (printed.keyword.text.toList ++ (printed.before.chars ++ printed.entries.text)) ++
        printed.after.chars := by
    simp [text, clause, clauseOf, Clause.printed]
  rw [hText, List.getLast?_append_of_ne_nil _ hAfter] at hLast
  exact printed.after.isWord_of_mem (List.mem_of_getLast? hLast)

/-- An update of three clauses, with placeholders that begin like keywords. -/
def tidying : PrintedUpdate where
  lead := .nothing
  clauses :=
    [⟨.blank, .deletions (some ⟨⟨.ofText "tags" rfl, .blank, .ofText "old" rfl⟩, []⟩), .blank⟩,
      ⟨.blank, .sets ⟨⟨.ofText "SETS" rfl, .nothing, .nothing, .guarded ⟨.nothing, .nothing,
          .ofText "REMOVED" rfl, .nothing, .blank, .ofText "now" rfl, .nothing⟩⟩,
        [(⟨.nothing, .blank⟩,
          ⟨.ofText "count" rfl, .blank, .blank, .plain (.ofText "ADD_1" rfl)⟩)]⟩, .blank⟩,
      ⟨.blank, .removals ⟨.ofText "note" rfl, [(⟨.blank, .nothing⟩, .ofText "set" rfl)]⟩,
        .nothing⟩]
  distinct := by decide
  apart := by
    intro clause hMem
    refine clause.isWord_of_getLast? ?_
    rcases List.mem_pair.mp hMem with rfl | rfl <;> exact List.cons_ne_nil _ _

theorem printed_update_read_back_of_tidying :
    tidying.text =
      "DELETE #tags :old SET #SETS=if_not_exists(#REMOVED, :now), #count = :ADD_1 " ++
        "REMOVE #note ,#set" ∧
      UpdateStep.ofText tidying.text = [.set "#count" ":ADD_1",
        .setIfAbsent "#SETS" "#REMOVED" ":now", .remove "#note", .remove "#set"] :=
  ⟨by decide, printed_update_read_back tidying⟩

end SingleTable.Expression
