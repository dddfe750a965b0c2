import Mathlib.Data.List.Nodup
import SingleTable.Proofs.Expression.Application
import SingleTable.Proofs.Expression.PrintedUpdate
import SingleTable.Proofs.Outcome
import SingleTable.Service.Upsert

/-!
# The expression of a save

A save has an assignment for each column that the record has an entry for, and no two
of them share a placeholder.  Reading the expression that is printed for assignments
gives their steps back, whatever the number of columns and whichever of them are
removed.
-/

namespace SingleTable

open Outcome Expression

namespace Number

theorem natDigits_injective {n m : Nat} (hSame : natDigits n = natDigits m) : n = m := by
  have hBack := congrArg (fun digits => Nat.ofDigitChars 10 digits 0) hSame
  simpa [natDigits] using hBack

theorem intText_natCast (n : Nat) : intText n = String.ofList (natDigits n) := rfl

theorem isWord_of_mem_natDigits {n : Nat} {c : Char} (hMem : c ∈ natDigits n) :
    Text.isWord c = true := by
  have hDigit : c.isDigit = true := Nat.isDigit_of_mem_toDigits (by decide) (by decide) hMem
  have hAscii : c.toNat < 128 := by
    simp only [Char.isDigit, Bool.and_eq_true, decide_eq_true_eq, UInt32.le_iff_toNat_le] at hDigit
    exact Nat.lt_of_le_of_lt hDigit.2 (by decide)
  rw [Text.isWord, if_pos hAscii]
  simp [Text.isAsciiWord, Char.isAlphanum, hDigit]

end Number

namespace Schema

variable {values : Values} {position : Nat} {columns : List Column}
  {assignments : List Assignment}

/-- Assignments are those of a record to columns from a position on: one for each column
with an entry, in ascending positions, with the cell of the entry. -/
structure Assigns (values : Values) (position : Nat) (columns : List Column)
    (assignments : List Assignment) : Prop where
  columns_eq : assignments.map Assignment.column =
    columns.filter fun column => (values.find? column.name).isSome
  ascending : (assignments.map Assignment.position).Pairwise (· < ·)
  from_position : ∀ assignment ∈ assignments, position ≤ assignment.position
  encoded : ∀ assignment ∈ assignments, ∃ value,
    values.find? assignment.column.name = some value ∧
      assignment.column.encode value = .ok assignment.cell

theorem assigns_of_assignmentsFrom
    (hAssignments : assignmentsFrom values position columns = .ok assignments) :
    Assigns values position columns assignments := by
  -- a column takes up its position whether or not it has an entry
  induction columns generalizing position assignments with
  | nil =>
    cases hAssignments
    exact ⟨rfl, List.Pairwise.nil, by simp, by simp⟩
  | cons column rest ih =>
    rw [assignmentsFrom] at hAssignments
    cases hValue : values.find? column.name with
    | none =>
      rw [hValue] at hAssignments
      have hRest := ih hAssignments
      refine ⟨?_, hRest.ascending, ?_, hRest.encoded⟩
      · rw [hRest.columns_eq, List.filter_cons_of_neg (by simp [hValue])]
      · intro assignment hMem
        exact Nat.le_of_succ_le (hRest.from_position assignment hMem)
    | some value =>
      rw [hValue] at hAssignments
      simp only [bind_eq_ok_iff, pure_eq_ok_iff] at hAssignments
      obtain ⟨cell, hCell, others, hOthers, rfl⟩ := hAssignments
      have hRest := ih hOthers
      refine ⟨?_, ?_, ?_, ?_⟩
      · rw [List.map_cons, hRest.columns_eq, List.filter_cons_of_pos (by simp [hValue])]
      · rw [List.map_cons, List.pairwise_cons]
        refine ⟨?_, hRest.ascending⟩
        intro later hLater
        obtain ⟨assignment, hMem, rfl⟩ := List.mem_map.mp hLater
        exact hRest.from_position assignment hMem
      · intro assignment hMem
        rcases List.mem_cons.mp hMem with rfl | hOther
        · exact Nat.le_refl _
        · exact Nat.le_of_succ_le (hRest.from_position assignment hOther)
      · intro assignment hMem
        rcases List.mem_cons.mp hMem with rfl | hOther
        · exact ⟨value, hValue, hCell⟩
        · exact hRest.encoded assignment hOther

namespace Assigns

variable (hAssigns : Assigns values position columns assignments)

include hAssigns

theorem mem_columns {assignment : Assignment} (hMem : assignment ∈ assignments) :
    assignment.column ∈ columns := by
  have hColumn : assignment.column ∈ assignments.map Assignment.column :=
    List.mem_map.mpr ⟨assignment, hMem, rfl⟩
  rw [hAssigns.columns_eq] at hColumn
  exact (List.mem_filter.mp hColumn).1

/-- A column with an entry has an assignment. -/
theorem exists_assignment {column : Column} {value : Value} (hMem : column ∈ columns)
    (hValue : values.find? column.name = some value) :
    ∃ assignment ∈ assignments, assignment.column = column ∧
      column.encode value = .ok assignment.cell := by
  have hColumn : column ∈ assignments.map Assignment.column := by
    rw [hAssigns.columns_eq]
    exact List.mem_filter.mpr ⟨hMem, by simp [hValue]⟩
  obtain ⟨assignment, hAssignment, rfl⟩ := List.mem_map.mp hColumn
  obtain ⟨entry, hEntry, hCell⟩ := hAssigns.encoded assignment hAssignment
  rw [hValue] at hEntry
  cases hEntry
  exact ⟨assignment, hAssignment, rfl, hCell⟩

theorem nodup_positions : (assignments.map Assignment.position).Nodup :=
  hAssigns.ascending.imp Nat.ne_of_lt

/-- Where columns have attributes of their own, so have assignments. -/
theorem nodup_attributes (hNodup : (columns.map Column.attributeName).Nodup) :
    (assignments.map fun assignment => assignment.column.attributeName).Nodup := by
  have hMap : (assignments.map fun assignment => assignment.column.attributeName) =
      (assignments.map Assignment.column).map Column.attributeName := by
    rw [List.map_map]
    rfl
  rw [hMap, hAssigns.columns_eq]
  exact (List.filter_sublist.map Column.attributeName).nodup hNodup

end Assigns

namespace Assignment

/-- The word of a placeholder: a letter and the digits of a position. -/
def word (letter : Char) (hLetter : letter = 'k' ∨ letter = 'v') (position : Nat) : Word where
  chars := letter :: Number.natDigits position
  filled := List.cons_ne_nil _ _
  word c hMem := by
    rcases List.mem_cons.mp hMem with rfl | hDigit
    · rcases hLetter with rfl | rfl <;> decide
    · exact Number.isWord_of_mem_natDigits hDigit
  free keyword := by
    intro hSame
    have hHead : some letter = keyword.text.toList.head? := by rw [← hSame]; rfl
    -- keywords are written in capitals
    rcases hLetter with rfl | rfl <;> revert hHead <;> cases keyword <;> decide

variable (assignment : Assignment)

/-- The word of the attribute's placeholder. -/
def nameWord : Word :=
  word 'k' (Or.inl rfl) assignment.position

/-- The word of the value's placeholder. -/
def valueWord : Word :=
  word 'v' (Or.inr rfl) assignment.position

theorem placeholder_nameWord :
    UpdateStep.placeholder '#' assignment.nameWord.chars = assignment.name := by
  rw [← String.toList_inj]
  simp [UpdateStep.placeholder, nameWord, word, name, Number.intText_natCast]

theorem placeholder_valueWord :
    UpdateStep.placeholder ':' assignment.valueWord.chars = assignment.value := by
  rw [← String.toList_inj]
  simp [UpdateStep.placeholder, valueWord, word, value, Number.intText_natCast]

theorem name_injective {assignment other : Assignment} (hSame : assignment.name = other.name) :
    assignment.position = other.position := by
  rw [← placeholder_nameWord, ← placeholder_nameWord, ← String.toList_inj] at hSame
  exact Number.natDigits_injective (by simpa [UpdateStep.placeholder, nameWord, word] using hSame)

theorem value_injective {assignment other : Assignment} (hSame : assignment.value = other.value) :
    assignment.position = other.position := by
  rw [← placeholder_valueWord, ← placeholder_valueWord, ← String.toList_inj] at hSame
  exact Number.natDigits_injective (by simpa [UpdateStep.placeholder, valueWord, word] using hSame)

/-- The part of an assignment that sets its column, as it is printed. -/
def element : Element where
  name := assignment.nameWord
  beforeSign := .nothing
  afterSign := .nothing
  source :=
    if assignment.column.name = "created_at" then
      .guarded ⟨.nothing, .nothing, assignment.nameWord, .nothing, .blank,
        assignment.valueWord, .nothing⟩
    else .plain assignment.valueWord

/-- The step that an assignment comes to. -/
def step : UpdateStep :=
  if assignment.cell.isNone then .remove assignment.name
  else if assignment.column.name = "created_at" then
    .setIfAbsent assignment.name assignment.name assignment.value
  else .set assignment.name assignment.value

@[simp]
theorem name_step : assignment.step.name = assignment.name := by
  unfold step
  split
  · rfl
  · split <;> rfl

theorem toList_setText : assignment.setText.toList = assignment.element.text := by
  have hName : assignment.name.toList = '#' :: assignment.nameWord.chars := by
    rw [← placeholder_nameWord, UpdateStep.placeholder, String.toList_ofList]
  have hValue : assignment.value.toList = ':' :: assignment.valueWord.chars := by
    rw [← placeholder_valueWord, UpdateStep.placeholder, String.toList_ofList]
  have hGuard : "=if_not_exists(".toList = '=' :: (guardName ++ ['(']) := by decide
  unfold setText element
  split
  · simp [hName, hValue, hGuard, Element.text, Element.opening, Source.text, Guard.opening,
      Guard.closing]
  · simp [hName, hValue, Element.text, Element.opening, Source.text]

theorem step_of_element (hCell : assignment.cell.isSome = true) :
    assignment.element.step = assignment.step := by
  have hSet : assignment.cell.isNone = false := by simpa using hCell
  unfold Element.step step element
  rw [hSet]
  by_cases hCreated : assignment.column.name = "created_at" <;>
    simp [hCreated, placeholder_nameWord, placeholder_valueWord]

theorem step_of_removal (hCell : assignment.cell.isSome = false) :
    removal assignment.nameWord = assignment.step := by
  have hSet : assignment.cell.isNone = true := by simpa using hCell
  unfold removal step
  rw [placeholder_nameWord, hSet]
  rfl

theorem toList_name : assignment.name.toList = removalText assignment.nameWord := by
  rw [← placeholder_nameWord, UpdateStep.placeholder, String.toList_ofList, removalText]

end Assignment

/-- A list that is joined by commas and blanks is a printed list. -/
theorem toList_intercalate {α β : Type} {shown : α → String} {entry : α → β}
    {text : β → List Char} (hText : ∀ a, (shown a).toList = text (entry a)) (first : α)
    (rest : List α) :
    (", ".intercalate ((first :: rest).map shown)).toList =
      listText text (entry first) (rest.map fun a => (⟨.nothing, .blank⟩, entry a)) := by
  induction rest generalizing first with
  | nil => simp [listText, hText]
  | cons next rest ih =>
    have hNext := ih next
    simp only [List.map_cons, String.intercalate_cons_cons, String.toList_append] at hNext ⊢
    rw [hNext, hText]
    simp [listText, Comma.text]

section Reading

/-- The clause that sets attributes, if there are any to set. -/
def setClauses (after : Gap) : List Assignment → List Clause
  | [] => []
  | first :: rest =>
    [clauseOf .set .blank (listText Element.text first.element
      (rest.map fun a => (⟨.nothing, .blank⟩, a.element))) after]

/-- The clause that removes attributes, if there are any to remove. -/
def removeClauses : List Assignment → List Clause
  | [] => []
  | first :: rest =>
    [clauseOf .remove .blank (listText removalText first.nameWord
      (rest.map fun a => (⟨.nothing, .blank⟩, a.nameWord))) .nothing]

/-- The clauses of an update. -/
def clausesOf (sets removes : List Assignment) : List Clause :=
  setClauses (if removes.isEmpty then .nothing else .blank) sets ++ removeClauses removes

/-- The clauses of an update can be told apart. -/
theorem separate_clausesOf (sets removes : List Assignment) :
    Clause.Separate (clausesOf sets removes) := by
  have hRemoves : Clause.Separate (removeClauses removes) := by
    cases removes with
    | nil => trivial
    | cons first rest => exact ⟨quiet_removeClause _ _ _ _, Or.inl rfl, trivial⟩
  unfold clausesOf
  cases sets with
  | nil => exact hRemoves
  | cons first rest =>
    refine ⟨quiet_setClause _ _ _ _, ?_, hRemoves⟩
    cases removes with
    | nil => exact Or.inl rfl
    | cons other others =>
      -- the clause for the removals is kept apart by the blank that joins the clauses
      refine Or.inr ?_
      show wordAfter true (Gap.blank.chars ++ (listText _ _ _ ++ Gap.blank.chars)) = false
      rw [← List.append_assoc]
      exact Gap.blank.wordAfter_append (by simp) true _

/-- The text of a clause that sets attributes. -/
theorem toList_setClause (first : Assignment) (rest : List Assignment) (after : Gap) :
    ("SET" ++ " " ++ ", ".intercalate ((first :: rest).map Assignment.setText)).toList ++
        after.chars =
      (setClauses after (first :: rest)).flatMap Clause.printed := by
  rw [String.toList_append, toList_intercalate Assignment.toList_setText]
  simp [setClauses, Clause.printed, clauseOf, Keyword.text]

/-- The text of a clause that removes attributes. -/
theorem toList_removeClause (first : Assignment) (rest : List Assignment) :
    ("REMOVE" ++ " " ++ ", ".intercalate ((first :: rest).map Assignment.name)).toList =
      (removeClauses (first :: rest)).flatMap Clause.printed := by
  rw [String.toList_append, toList_intercalate Assignment.toList_name]
  simp [removeClauses, Clause.printed, clauseOf, Keyword.text]

/-- The assignments that set their column. -/
def setsOf (assignments : List Assignment) : List Assignment :=
  assignments.filter (·.cell.isSome)

/-- The assignments that remove their column. -/
def removesOf (assignments : List Assignment) : List Assignment :=
  assignments.filter (!·.cell.isSome)

/-- The expression of assignments, taken apart. -/
theorem toList_expressionOf (assignments : List Assignment) :
    ((expressionOf assignments).getD "").toList =
      (clausesOf (setsOf assignments) (removesOf assignments)).flatMap Clause.printed := by
  have hExpression : expressionOf assignments =
      if (clauseText "SET" ((setsOf assignments).map Assignment.setText) ++
          clauseText "REMOVE" ((removesOf assignments).map Assignment.name)).isEmpty then none
      else some (" ".intercalate (clauseText "SET" ((setsOf assignments).map Assignment.setText) ++
          clauseText "REMOVE" ((removesOf assignments).map Assignment.name))) := by
    unfold expressionOf
    rw [List.partition_eq_filter_filter]
    rfl
  rw [hExpression]
  cases setsOf assignments with
  | nil =>
    cases removesOf assignments with
    | nil => rfl
    | cons first rest => exact toList_removeClause first rest
  | cons first rest =>
    cases removesOf assignments with
    | nil =>
      have hClause := toList_setClause first rest .nothing
      rw [Gap.chars_nothing, List.append_nil] at hClause
      exact hClause.trans (by simp [clausesOf, removeClauses])
    | cons other others =>
      have hTwo : ∀ set remove : String, (" ".intercalate [set, remove]).toList =
          (set.toList ++ Gap.blank.chars) ++ remove.toList := by
        intro set remove
        simp [String.intercalate_cons_cons]
      refine (hTwo _ _).trans ?_
      rw [toList_setClause first rest .blank, toList_removeClause other others]
      exact List.flatMap_append.symm

theorem setsOfText_expressionOf (assignments : List Assignment) :
    UpdateStep.setsOfText ((expressionOf assignments).getD "") =
      ((setsOf assignments).filter (·.element.isPlain) ++
        (setsOf assignments).filter (!·.element.isPlain)).map Assignment.step := by
  have hText := toList_expressionOf assignments
  have hSeparate := separate_clausesOf (setsOf assignments) (removesOf assignments)
  have hCells : ∀ assignment ∈ setsOf assignments, assignment.cell.isSome = true :=
    fun assignment hMem => (List.mem_filter.mp hMem).2
  cases hSets : setsOf assignments with
  | nil =>
    rw [hSets] at hText hSeparate
    have hNone : (clausesOf [] (removesOf assignments)).find?
        (fun clause => clause.keyword == .set) = none := by
      cases removesOf assignments <;> rfl
    unfold UpdateStep.setsOfText
    rw [body?_of_find?_eq_none hText hSeparate hNone]
    rfl
  | cons first rest =>
    rw [hSets] at hText hSeparate hCells
    have hFind : (clausesOf (first :: rest) (removesOf assignments)).find?
        (fun clause => clause.keyword == .set) = some (clauseOf .set _ _ _) := rfl
    have hBody := body?_of_find? hText hSeparate
      (solid_listText Element.solid_text first.element _) hFind
    have hElements : first.element ::
        (rest.map fun a => ((⟨.nothing, .blank⟩ : Comma), a.element)).map Prod.snd =
          (first :: rest).map Assignment.element := by
      simp
    rw [setsOfText_of_body? hBody, hElements, List.filter_map, List.filter_map,
      ← List.map_append, List.map_map]
    refine List.map_congr_left fun assignment hMem => assignment.step_of_element ?_
    refine hCells assignment ?_
    rcases List.mem_append.mp hMem with hPlain | hGuarded
    · exact (List.mem_filter.mp hPlain).1
    · exact (List.mem_filter.mp hGuarded).1

theorem removesOfText_expressionOf (assignments : List Assignment) :
    UpdateStep.removesOfText ((expressionOf assignments).getD "") =
      (removesOf assignments).map Assignment.step := by
  have hText := toList_expressionOf assignments
  have hSeparate := separate_clausesOf (setsOf assignments) (removesOf assignments)
  have hCells : ∀ assignment ∈ removesOf assignments, assignment.cell.isSome = false := by
    intro assignment hMem
    simpa using (List.mem_filter.mp hMem).2
  cases hRemoves : removesOf assignments with
  | nil =>
    rw [hRemoves] at hText hSeparate
    have hNone : (clausesOf (setsOf assignments) []).find?
        (fun clause => clause.keyword == .remove) = none := by
      cases setsOf assignments <;> rfl
    unfold UpdateStep.removesOfText
    rw [body?_of_find?_eq_none hText hSeparate hNone]
    rfl
  | cons first rest =>
    rw [hRemoves] at hText hSeparate hCells
    have hFind : (clausesOf (setsOf assignments) (first :: rest)).find?
        (fun clause => clause.keyword == .remove) = (removeClauses (first :: rest)).head? := by
      cases setsOf assignments <;> rfl
    have hBody := body?_of_find? hText hSeparate
      (solid_listText solid_removalText first.nameWord _) hFind
    have hNames : first.nameWord ::
        (rest.map fun a => ((⟨.nothing, .blank⟩ : Comma), a.nameWord)).map Prod.snd =
          (first :: rest).map Assignment.nameWord := by
      simp
    rw [removesOfText_of_body? hBody, hNames, List.map_map]
    exact List.map_congr_left fun assignment hMem =>
      assignment.step_of_removal (hCells assignment hMem)

/-- Reading the printed expression of assignments gives their steps: those that set a
column, with the conditional ones last, and then those that remove one. -/
theorem ofText_expressionOf (assignments : List Assignment) :
    UpdateStep.ofText ((expressionOf assignments).getD "") =
      ((setsOf assignments).filter (·.element.isPlain) ++
        (setsOf assignments).filter (!·.element.isPlain) ++
          removesOf assignments).map Assignment.step := by
  unfold UpdateStep.ofText
  rw [setsOfText_expressionOf, removesOfText_expressionOf, ← List.map_append]

/-- The steps of a save are those of its assignments. -/
theorem mem_ofText_expressionOf {step : UpdateStep} :
    step ∈ UpdateStep.ofText ((expressionOf assignments).getD "") ↔
      ∃ assignment ∈ assignments, assignment.step = step := by
  -- the steps come in another order, but each assignment is in one of the three lists
  have hMem : ∀ assignment : Assignment,
      assignment ∈ (setsOf assignments).filter (·.element.isPlain) ++
        (setsOf assignments).filter (!·.element.isPlain) ++ removesOf assignments ↔
          assignment ∈ assignments := by
    intro assignment
    simp only [setsOf, removesOf, List.mem_append, List.mem_filter]
    cases assignment.cell.isSome <;> cases assignment.element.isPlain <;> simp
  rw [ofText_expressionOf, List.mem_map]
  simp only [hMem]

end Reading

namespace Assigns

variable (hAssigns : Assigns values position columns assignments)

include hAssigns

theorem eq_of_position {assignment other : Assignment} (hMem : assignment ∈ assignments)
    (hOther : other ∈ assignments) (hSame : assignment.position = other.position) :
    assignment = other :=
  List.inj_on_of_nodup_map hAssigns.nodup_positions hMem hOther hSame

theorem nodup_of_injective {key : Assignment → String}
    (hKey : ∀ assignment other : Assignment, key assignment = key other →
      assignment.position = other.position) : (assignments.map key).Nodup := by
  refine List.Nodup.map_on ?_ hAssigns.nodup_positions.of_map
  intro assignment hMem other hOther hSame
  exact hAssigns.eq_of_position hMem hOther (hKey assignment other hSame)

/-- The placeholder of an assignment stands for its attribute. -/
theorem name_bindingsOf {assignment : Assignment} (hMem : assignment ∈ assignments) :
    (bindingsOf assignments).name assignment.name = .ok assignment.column.attributeName := by
  have hPlaceholder : Text.startsWith assignment.name "#" = true := by
    simp [Text.startsWith_iff, Assignment.toList_name, removalText]
  have hTarget : (bindingsOf assignments).names.find? assignment.name =
      some assignment.column.attributeName := by
    refine NameMap.find?_ofList_of_mem ?_ (List.mem_map.mpr ⟨assignment, hMem, rfl⟩)
    rw [List.map_map]
    exact hAssigns.nodup_of_injective fun a b => Assignment.name_injective
  exact Bindings.name_of_find? hPlaceholder hTarget

/-- The placeholder of a value stands for the cell of its assignment. -/
theorem find?_bindingsOf {assignment : Assignment} {cell : Cell}
    (hMem : assignment ∈ assignments) (hCell : assignment.cell = some cell) :
    (bindingsOf assignments).values.find? assignment.value = some cell := by
  -- the assignments with a cell are the ones that set their column
  have hKeys : ∀ list : List Assignment, (list.filterMap fun a =>
      a.cell.map fun cell => (a.value, cell)).map Prod.fst =
        (setsOf list).map Assignment.value := by
    intro list
    induction list with
    | nil => rfl
    | cons first rest ih =>
      cases hFirst : first.cell <;> simpa [setsOf, hFirst] using ih
  refine NameMap.find?_ofList_of_mem ?_
    (List.mem_filterMap.mpr ⟨assignment, hMem, by simp [hCell]⟩)
  rw [hKeys]
  exact (List.filter_sublist.map Assignment.value).nodup
    (hAssigns.nodup_of_injective fun a b => Assignment.value_injective)

/-- A step of the save is about the attribute of its assignment. -/
theorem target?_step {assignment : Assignment} (hMem : assignment ∈ assignments) :
    (bindingsOf assignments).target? assignment.step.name =
      some assignment.column.attributeName := by
  rw [Assignment.name_step, Bindings.target?_eq_some_iff]
  exact hAssigns.name_bindingsOf hMem

/-- The placeholders of a step stand for something. -/
theorem resolves_step {assignment : Assignment} (hMem : assignment ∈ assignments) :
    assignment.step.Resolves (bindingsOf assignments) := by
  have hName := hAssigns.name_bindingsOf hMem
  unfold Assignment.step
  cases hCell : assignment.cell with
  | none => exact ⟨_, hName⟩
  | some cell =>
    have hValue := Bindings.value_eq_ok_iff.mpr (hAssigns.find?_bindingsOf hMem hCell)
    simp only [Option.isNone_some, Bool.false_eq_true, ↓reduceIte]
    split
    · exact ⟨⟨_, hName⟩, ⟨_, hValue⟩, ⟨_, hName⟩⟩
    · exact ⟨⟨_, hName⟩, ⟨_, hValue⟩⟩

end Assigns

end Schema

end SingleTable
