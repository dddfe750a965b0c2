import SingleTable.Proofs.Expression.Application

/-!
# Conditions that cannot be decided

A condition is looked at only as far as it takes to decide it.  A name that stands for nothing
is always found out, but a value placeholder is looked up only on a row that has the attribute,
as a row without it does not satisfy the condition anyway.  Of several conditions those behind
the first one that a row does not satisfy are not looked at.  `Fault` lists the reasons why a
condition cannot be decided on a row; `TurnAway` and `GetStuck` say what comes of several.
-/

namespace SingleTable

open Outcome

namespace Expression

variable {α : Type} {read : Reader α} {Holds : α → Prop}

theorem forall_mem_piecesFrom
    (hRead : ∀ text piece rest, read text = some (piece, rest) → Holds piece) (skip : Nat)
    (text : List Char) : ∀ piece ∈ piecesFrom read skip text, Holds piece := by
  induction text generalizing skip with
  | nil =>
    intro piece hMem
    cases skip <;> cases hMem
  | cons c rest ih =>
    cases skip with
    | succ skip => exact ih skip
    | zero =>
      rw [piecesFrom]
      cases hPiece : read (c :: rest) with
      | none => exact ih 0
      | some found =>
        rintro piece (_ | ⟨_, hMem⟩)
        · exact hRead _ _ _ hPiece
        · exact ih _ piece hMem

/-- What holds of whatever a reader reads holds of all pieces of a text. -/
theorem forall_mem_pieces
    (hRead : ∀ text piece rest, read text = some (piece, rest) → Holds piece)
    (text : List Char) : ∀ piece ∈ pieces read text, Holds piece :=
  forall_mem_piecesFrom hRead 0 text

end Expression

namespace Condition

variable {bindings : Bindings} {row : Item} {condition : Condition} {conditions : List Condition}
  {error : ExpressionError}

open Expression

/-- Only an interval condition has two operands. -/
def Readable (condition : Condition) : Prop :=
  ∀ low high, condition.operand = .range low high → condition.operator = .between

theorem operand_of_readComparison {text rest : List Char} {written : Written}
    (hRead : readComparison text = some (written, rest)) :
    ∃ value, written.operand = .single value := by
  unfold readComparison at hRead
  simp only [Option.bind_eq_bind, Option.bind_eq_some_iff] at hRead
  obtain ⟨⟨name, _⟩, _, ⟨symbol, afterSymbol⟩, _, hValue⟩ := hRead
  -- either a value follows the symbol, or its last character is the value
  cases hRun : run? endsValue (Text.trimStart afterSymbol) with
  | some found =>
    simp only [hRun] at hValue
    cases hValue
    exact ⟨_, rfl⟩
  | none =>
    simp only [hRun] at hValue
    by_cases hShort : symbol.length < 2
    · simp [hShort] at hValue
    · rw [if_neg hShort] at hValue
      cases hValue
      exact ⟨_, rfl⟩

theorem operand_of_readCall {text rest : List Char} {written : Written}
    (hRead : readCall text = some (written, rest)) :
    ∃ value, written.operand = .single value := by
  unfold readCall at hRead
  simp only [Option.bind_eq_bind, Option.bind_eq_some_iff] at hRead
  obtain ⟨⟨function, _⟩, _, _, _, ⟨name, _⟩, _, _, _, ⟨value, _⟩, _, _, _, hWritten⟩ := hRead
  cases hWritten
  exact ⟨_, rfl⟩

theorem readable_of_single {value : String} (hOperand : condition.operand = .single value) :
    condition.Readable := by
  intro low high hRange
  rw [hOperand] at hRange
  cases hRange

theorem readable_of_ofWritten {operator? : String → Option Operator}
    {cause : String → ExpressionError} {written : Written} {value : String}
    (hOperand : written.operand = .single value)
    (hCondition : ofWritten operator? cause written = .ok condition) : condition.Readable := by
  unfold ofWritten at hCondition
  cases hOperator : operator? written.operator with
  | none => simp [hOperator] at hCondition
  | some operator =>
    simp only [hOperator, Except.ok.injEq] at hCondition
    subst hCondition
    exact readable_of_single hOperand

/-- What is read from an expression are intervals with two operands, and other conditions with
one. -/
theorem readable_of_ofText {text : String} (hRead : ofText text = .ok conditions) :
    ∀ condition ∈ conditions, condition.Readable := by
  unfold ofText at hRead
  simp only [bind_eq_ok_iff, pure_eq_ok_iff] at hRead
  obtain ⟨comparisons, hComparisons, calls, hCalls, rfl⟩ := hRead
  intro condition hMem
  rcases List.mem_append.mp hMem with hMem | hCall
  · rcases List.mem_append.mp hMem with hRange | hComparison
    · obtain ⟨written, _, rfl⟩ := List.mem_map.mp hRange
      intro _ _ _
      rfl
    · obtain ⟨written, hWritten, hCondition⟩ := exists_of_mem_mapM hComparisons hComparison
      obtain ⟨value, hOperand⟩ := forall_mem_pieces
        (fun _ _ _ => operand_of_readComparison) _ written hWritten
      exact readable_of_ofWritten hOperand hCondition
  · obtain ⟨written, hWritten, hCondition⟩ := exists_of_mem_mapM hCalls hCall
    obtain ⟨value, hOperand⟩ := forall_mem_pieces (fun _ _ _ => operand_of_readCall) _ written
      hWritten
    exact readable_of_ofWritten hOperand hCondition

/-- The value placeholders of a condition, in the order in which they are looked up. -/
def values (condition : Condition) : List String :=
  match condition.operand with
  | .single value => [value]
  | .range low high => [low, high]

/-- A placeholder of the condition stands for nothing. -/
def Unresolved (bindings : Bindings) (condition : Condition) : Prop :=
  (Text.startsWith condition.name "#" = true ∧ bindings.names.find? condition.name = none) ∨
    ∃ reference ∈ condition.values, bindings.values.find? reference = none

/-- Why a value placeholder cannot be compared with. -/
inductive ValueFault (bindings : Bindings) (reference : String) : ExpressionError → Prop
  | unresolved (hMissing : bindings.values.find? reference = none) :
      ValueFault bindings reference (.unresolvedValue reference)
  | notComparable {cell : Cell} (hCell : bindings.values.find? reference = some cell)
      (hText : cell.text? = none) :
      ValueFault bindings reference (Bindings.notComparable reference cell)

/-- Why a condition cannot be decided on a row: its name stands for nothing; or the row has the
attribute, and either the cell there or the first value that is not a text cannot be compared. -/
inductive Fault (bindings : Bindings) (row : Item) (condition : Condition) :
    ExpressionError → Prop
  | name (hPlaceholder : Text.startsWith condition.name "#" = true)
      (hMissing : bindings.names.find? condition.name = none) :
      Fault bindings row condition (.unresolvedName condition.name)
  | stored {target : String} {cell : Cell} (hName : bindings.name condition.name = .ok target)
      (hCell : row.find? target = some cell) (hText : cell.text? = none) :
      Fault bindings row condition (Bindings.notComparable ("attribute " ++ target) cell)
  | value {target text : String} {cell : Cell} {error : ExpressionError}
      (hName : bindings.name condition.name = .ok target)
      (hCell : row.find? target = some cell) (hText : cell.text? = some text)
      (hFault : Reaches (fun reference => ∃ text, bindings.valueText reference = .ok text)
        (fun reference => ValueFault bindings reference error) condition.values) :
      Fault bindings row condition error

theorem name_eq_error_iff {reference : String} :
    bindings.name reference = .error error ↔
      Text.startsWith reference "#" = true ∧ bindings.names.find? reference = none ∧
        error = .unresolvedName reference := by
  unfold Bindings.name
  cases Text.startsWith reference "#" with
  | false => simp
  | true => cases bindings.names.find? reference <;> simp [eq_comm]

theorem valueText_eq_error_iff {reference : String} :
    bindings.valueText reference = .error error ↔ ValueFault bindings reference error := by
  cases hCell : bindings.values.find? reference with
  | none =>
    have hValue : bindings.value reference = .error (.unresolvedValue reference) := by
      simp [Bindings.value, hCell]
    unfold Bindings.valueText
    rw [bind_error hValue]
    constructor
    · rintro ⟨⟩
      exact .unresolved hCell
    · intro hFault
      cases hFault with
      | unresolved _ => rfl
      | notComparable hOther _ => simp [hCell] at hOther
  | some cell =>
    have hValue : bindings.value reference = .ok cell := Bindings.value_eq_ok_iff.mpr hCell
    unfold Bindings.valueText
    rw [bind_ok hValue]
    cases hText : cell.text? with
    | some text =>
      constructor
      · rintro ⟨⟩
      · intro hFault
        cases hFault with
        | unresolved hMissing => simp [hCell] at hMissing
        | notComparable hOther hNone =>
          rw [hCell, Option.some.injEq] at hOther
          simp [← hOther, hText] at hNone
    | none =>
      constructor
      · rintro ⟨⟩
        exact .notComparable hCell hText
      · intro hFault
        cases hFault with
        | unresolved hMissing => simp [hCell] at hMissing
        | notComparable hOther _ =>
          rw [hCell, Option.some.injEq] at hOther
          rw [hOther]
          rfl

theorem exists_find?_of_valueText {reference text : String}
    (hText : bindings.valueText reference = .ok text) :
    ∃ cell, bindings.values.find? reference = some cell := by
  unfold Bindings.valueText at hText
  rw [bind_eq_ok_iff] at hText
  obtain ⟨cell, hCell, _⟩ := hText
  exact ⟨cell, Bindings.value_eq_ok_iff.mp hCell⟩

/-- A text is compared with all values of a condition, so the first one that cannot be compared
with is found out. -/
theorem admits_eq_error_iff (hReadable : condition.Readable) {actual : String} :
    condition.admits bindings actual = .error error ↔
      Reaches (fun reference => ∃ text, bindings.valueText reference = .ok text)
        (fun reference => ValueFault bindings reference error) condition.values := by
  cases hOperand : condition.operand with
  | single value =>
    simp only [admits, values, hOperand, bind_eq_error_iff, valueText_eq_error_iff, reaches_cons,
      reaches_nil, and_false, or_false]
    constructor
    · rintro (hFault | ⟨_, _, ⟨⟩⟩)
      exact hFault
    · exact Or.inl
  | range low high =>
    simp only [admits, values, hOperand, hReadable low high hOperand, if_true, bind_eq_error_iff,
      valueText_eq_error_iff, reaches_cons, reaches_nil, and_false, or_false]
    constructor
    · rintro (hFault | ⟨text, hText, hFault | ⟨_, _, ⟨⟩⟩⟩)
      · exact Or.inl hFault
      · exact Or.inr ⟨⟨text, hText⟩, hFault⟩
    · rintro (hFault | ⟨⟨text, hText⟩, hFault⟩)
      · exact Or.inl hFault
      · exact Or.inr ⟨text, hText, Or.inl hFault⟩

/-- A text that a condition admits has been compared with all its values. -/
theorem exists_find?_of_admits (hReadable : condition.Readable) {actual : String}
    (hAdmits : condition.admits bindings actual = .ok true) :
    ∀ reference ∈ condition.values, ∃ cell, bindings.values.find? reference = some cell := by
  cases hOperand : condition.operand with
  | single value =>
    simp only [admits, values, hOperand, bind_eq_ok_iff] at hAdmits ⊢
    obtain ⟨text, hText, _⟩ := hAdmits
    intro reference hMem
    rw [List.mem_singleton.mp hMem]
    exact exists_find?_of_valueText hText
  | range low high =>
    simp only [admits, values, hOperand, hReadable low high hOperand, if_true,
      bind_eq_ok_iff] at hAdmits ⊢
    obtain ⟨lowText, hLow, highText, hHigh, _⟩ := hAdmits
    intro reference hMem
    rcases List.mem_cons.mp hMem with rfl | hMem
    · exact exists_find?_of_valueText hLow
    · rw [List.mem_singleton.mp hMem]
      exact exists_find?_of_valueText hHigh

/-- A condition fails on a row for one of its faults. -/
theorem holds_eq_error_iff (hReadable : condition.Readable) :
    condition.holds bindings row = .error error ↔ condition.Fault bindings row error := by
  unfold holds
  rw [bind_eq_error_iff, name_eq_error_iff]
  constructor
  · rintro (⟨hPlaceholder, hMissing, rfl⟩ | ⟨target, hName, hError⟩)
    · exact .name hPlaceholder hMissing
    · cases hCell : row.find? target with
      | none =>
        rw [hCell] at hError
        cases hError
      | some cell =>
        cases hText : cell.text? with
        | none =>
          simp only [hCell, hText] at hError
          cases hError
          exact .stored hName hCell hText
        | some text =>
          simp only [hCell, hText] at hError
          exact .value hName hCell hText ((admits_eq_error_iff hReadable).mp hError)
  · intro hFault
    cases hFault with
    | name hPlaceholder hMissing => exact Or.inl ⟨hPlaceholder, hMissing, rfl⟩
    | stored hName hCell hText =>
      refine Or.inr ⟨_, hName, ?_⟩
      simp only [hCell, hText]
      rfl
    | value hName hCell hText hFault =>
      refine Or.inr ⟨_, hName, ?_⟩
      simp only [hCell, hText]
      exact (admits_eq_error_iff hReadable).mpr hFault

/-- A condition with a placeholder that stands for nothing holds of no row. -/
theorem holds_ne_true_of_unresolved (hReadable : condition.Readable)
    (hUnresolved : condition.Unresolved bindings) (row : Item) :
    condition.holds bindings row ≠ .ok true := by
  intro hHolds
  unfold holds at hHolds
  rw [bind_eq_ok_iff] at hHolds
  obtain ⟨target, hName, hRest⟩ := hHolds
  rcases hUnresolved with ⟨hPlaceholder, hMissing⟩ | ⟨reference, hMem, hMissing⟩
  · have hError := name_eq_error_iff.mpr ⟨hPlaceholder, hMissing, rfl⟩
    rw [hName] at hError
    cases hError
  · -- the condition has looked at the attribute, and so at all its values
    cases hCell : row.find? target with
    | none =>
      rw [hCell] at hRest
      cases hRest
    | some cell =>
      cases hText : cell.text? with
      | none =>
        simp only [hCell, hText] at hRest
        cases hRest
      | some text =>
        simp only [hCell, hText] at hRest
        obtain ⟨found, hFound⟩ := exists_find?_of_admits hReadable hRest reference hMem
        rw [hMissing] at hFound
        cases hFound

/-- The conditions in front hold of the row, and the next one comes to an outcome. -/
def ComeTo (conditions : List Condition) (bindings : Bindings) (row : Item)
    (outcome : Except ExpressionError Bool) : Prop :=
  Reaches (fun condition => condition.holds bindings row = .ok true)
    (fun condition => condition.holds bindings row = outcome) conditions

/-- Several conditions come to what the first one that does not hold comes to. -/
theorem allHold_eq_iff_comeTo {outcome : Except ExpressionError Bool}
    (hOutcome : outcome ≠ .ok true) :
    allHold conditions bindings row = outcome ↔ ComeTo conditions bindings row outcome := by
  unfold ComeTo
  induction conditions with
  | nil => simp [allHold, Ne.symm hOutcome]
  | cons condition rest ih =>
    rw [reaches_cons, allHold]
    cases hFirst : condition.holds bindings row with
    | error error =>
      show Except.error error = outcome ↔ _
      simp
    | ok holds =>
      cases holds with
      | false =>
        show Except.ok false = outcome ↔ _
        simp
      | true =>
        show allHold rest bindings row = outcome ↔ _
        rw [ih]
        simp [Ne.symm hOutcome]

theorem allHold_eq_true_iff :
    allHold conditions bindings row = .ok true ↔
      ∀ condition ∈ conditions, condition.holds bindings row = .ok true := by
  induction conditions with
  | nil => simp [allHold]
  | cons condition rest ih =>
    rw [allHold, List.forall_mem_cons, bind_eq_ok_iff]
    constructor
    · rintro ⟨holds, hFirst, hRest⟩
      cases holds with
      | false => cases hRest
      | true => exact ⟨hFirst, ih.mp hRest⟩
    · rintro ⟨hFirst, hRest⟩
      exact ⟨true, hFirst, ih.mpr hRest⟩

/-- The row does not satisfy one of the conditions, and satisfies those in front of it. -/
def TurnAway (conditions : List Condition) (bindings : Bindings) (row : Item) : Prop :=
  ComeTo conditions bindings row (.ok false)

/-- One of the conditions cannot be decided on the row, which satisfies those in front of it. -/
def GetStuck (conditions : List Condition) (bindings : Bindings) (row : Item)
    (error : ExpressionError) : Prop :=
  Reaches (fun condition => condition.holds bindings row = .ok true)
    (fun condition => condition.Fault bindings row error) conditions

theorem allHold_eq_error_iff (hReadable : ∀ condition ∈ conditions, condition.Readable) :
    allHold conditions bindings row = .error error ↔
      GetStuck conditions bindings row error := by
  have hOutcome : (.error error : Except ExpressionError Bool) ≠ .ok true := by simp
  rw [allHold_eq_iff_comeTo hOutcome]
  apply reaches_congr
  · exact fun _ _ => Iff.rfl
  · exact fun condition hMem => holds_eq_error_iff (hReadable condition hMem)

end Condition

end SingleTable
