import SingleTable.Proofs.Expression.Faults
import SingleTable.Proofs.Table.TextQuery
import SingleTable.Proofs.Table.History

/-!
# Queries with unresolved placeholders

A query resolves the placeholders of its conditions while it looks at the rows, and a condition
with a placeholder that stands for nothing holds of none of them.  So the query never lists a
row, but it fails only if some row makes it look up something that is missing or that cannot
be compared; where every row of the view is turned away before that, the query succeeds.
-/

namespace SingleTable

open Outcome

namespace Condition

variable {bindings : Bindings} {row : Item} {conditions : List Condition}

/-- Where one of several conditions has an unresolved placeholder, no row satisfies them all. -/
theorem allHold_ne_true_of_unresolved (hReadable : ∀ condition ∈ conditions, condition.Readable)
    (hUnresolved : ∃ condition ∈ conditions, condition.Unresolved bindings) (row : Item) :
    allHold conditions bindings row ≠ .ok true := by
  intro hHolds
  obtain ⟨condition, hMem, hOwn⟩ := hUnresolved
  exact holds_ne_true_of_unresolved (hReadable condition hMem) hOwn row
    (allHold_eq_true_iff.mp hHolds condition hMem)

theorem turnAway_iff :
    TurnAway conditions bindings row ↔ allHold conditions bindings row = .ok false := by
  have hOutcome : (.ok false : Except ExpressionError Bool) ≠ .ok true := by simp
  exact (allHold_eq_iff_comeTo hOutcome).symm

/-- Conditions that a row does not satisfy turn it away when they are decided. -/
theorem decided_iff_turnAway (hNone : allHold conditions bindings row ≠ .ok true) :
    (∃ holds, allHold conditions bindings row = .ok holds) ↔ TurnAway conditions bindings row := by
  rw [turnAway_iff]
  constructor
  · rintro ⟨holds, hDecided⟩
    cases holds with
    | true => exact absurd hDecided hNone
    | false => exact hDecided
  · exact fun hFalse => ⟨false, hFalse⟩

end Condition

namespace Table

variable {bindings : Bindings} {conditions : List Condition} {rows found : List Item}
  {error : ExpressionError}

theorem select_cons_eq_ok_iff {row : Item} :
    select conditions bindings (row :: rows) = .ok found ↔
      ∃ holds, Condition.allHold conditions bindings row = .ok holds ∧
        ∃ rest, select conditions bindings rows = .ok rest ∧
          (if holds then row :: rest else rest) = found := by
  rw [select]
  simp only [bind_eq_ok_iff, pure_eq_ok_iff]

theorem select_cons_eq_error_iff {row : Item} :
    select conditions bindings (row :: rows) = .error error ↔
      Condition.allHold conditions bindings row = .error error ∨
        ∃ holds, Condition.allHold conditions bindings row = .ok holds ∧
          select conditions bindings rows = .error error := by
  rw [select, bind_eq_error_iff]
  refine or_congr_right (exists_congr fun holds => and_congr_right fun _ => ?_)
  rw [bind_eq_error_iff]
  constructor
  · rintro (hRest | ⟨_, _, ⟨⟩⟩)
    exact hRest
  · exact Or.inl

/-- The conditions have been decided on all rows among which some were selected. -/
theorem decided_of_select (hSelect : select conditions bindings rows = .ok found) :
    ∀ row ∈ rows, ∃ holds, Condition.allHold conditions bindings row = .ok holds := by
  induction rows generalizing found with
  | nil => simp
  | cons row rest ih =>
    obtain ⟨holds, hRow, selected, hRest, _⟩ := select_cons_eq_ok_iff.mp hSelect
    exact List.forall_mem_cons.mpr ⟨⟨holds, hRow⟩, ih hRest⟩

/-- A selection fails on the first row on which the conditions cannot be decided. -/
theorem select_eq_error_iff :
    select conditions bindings rows = .error error ↔
      Reaches (fun row => ∃ holds, Condition.allHold conditions bindings row = .ok holds)
        (fun row => Condition.allHold conditions bindings row = .error error) rows := by
  induction rows with
  | nil => simp [select]
  | cons row rest ih =>
    rw [select_cons_eq_error_iff, ih, reaches_cons, exists_and_right]

/-- If the conditions hold of no row, a selection that succeeds has turned every row away. -/
theorem select_eq_ok_iff_of_none
    (hNone : ∀ row, Condition.allHold conditions bindings row ≠ .ok true) :
    select conditions bindings rows = .ok found ↔
      found = [] ∧ ∀ row ∈ rows, Condition.TurnAway conditions bindings row := by
  have hNothing (hAway : ∀ row ∈ rows, Condition.TurnAway conditions bindings row) :
      select conditions bindings rows = .ok [] := by
    rw [select_eq_filter fun row hMem => Condition.turnAway_iff.mp (hAway row hMem)]
    simp
  constructor
  · intro hSelect
    have hAway : ∀ row ∈ rows, Condition.TurnAway conditions bindings row := by
      intro row hMem
      exact (Condition.decided_iff_turnAway (hNone row)).mp (decided_of_select hSelect row hMem)
    rw [hNothing hAway] at hSelect
    exact ⟨(Except.ok.inj hSelect).symm, hAway⟩
  · rintro ⟨rfl, hAway⟩
    exact hNothing hAway

/-- A query in which some condition has an unresolved placeholder lists no row.  It succeeds
exactly when every row of the view is turned away by a condition that does not hold of it, with
all conditions in front holding, and fails exactly when a row gets stuck after rows that are
turned away, with the error of that row. -/
theorem unresolved_query_decided_by_rows (table : Table) (view : Option View)
    {expression : String} {bindings : Bindings} {conditions : List Condition}
    (hRead : Condition.ofText expression = .ok conditions)
    (hUnresolved : ∃ condition ∈ conditions, condition.Unresolved bindings) :
    let rows := table.items.filter (table.inView view)
    (∀ found, table.query view expression bindings = .ok found ↔
      found = [] ∧ ∀ row ∈ rows, Condition.TurnAway conditions bindings row) ∧
    ∀ error, table.query view expression bindings = .error error ↔
      Reaches (Condition.TurnAway conditions bindings)
        (fun row => Condition.GetStuck conditions bindings row error) rows := by
  intro rows
  have hReadable := Condition.readable_of_ofText hRead
  have hNone := Condition.allHold_ne_true_of_unresolved hReadable hUnresolved
  have hQuery : table.query view expression bindings = select conditions bindings rows := by
    unfold query
    rw [bind_ok hRead]
  rw [hQuery]
  constructor
  · intro found
    exact select_eq_ok_iff_of_none hNone
  · intro error
    rw [select_eq_error_iff]
    apply reaches_congr
    · exact fun row _ => Condition.decided_iff_turnAway (hNone row)
    · exact fun row _ => Condition.allHold_eq_error_iff hReadable

/-- The bindings of `#g = :g` without the value. -/
def onlyName : Bindings where
  names := .ofList [("#g", "g1k")]
  values := .ofList []

/-- A row without the attribute that the name stands for. -/
def bareRow : Item :=
  .ofList [("pk", .string "a"), ("sk", .string "b")]

/-- A row with that attribute. -/
def globalRow : Item :=
  .ofList [("g1k", .string "x"), ("pk", .string "a"), ("sk", .string "c")]

theorem unresolved_onlyName :
    ∃ condition ∈ [(⟨.equal, "#g", .single ":g"⟩ : Condition)], condition.Unresolved onlyName :=
  ⟨_, List.mem_singleton_self _, Or.inr ⟨":g", List.mem_singleton_self _, rfl⟩⟩

/-- The row without the attribute is turned away, and the one behind it misses the value. -/
theorem unresolved_query_decided_by_rows_of_second_row :
    (Condition.ofText "#g = :g" = .ok [⟨.equal, "#g", .single ":g"⟩] ∧
      ∃ condition ∈ [(⟨.equal, "#g", .single ":g"⟩ : Condition)],
        condition.Unresolved onlyName) ∧
    ((empty {}).run [.addRow bareRow, .addRow globalRow]).query none "#g = :g" onlyName =
      .error (.unresolvedValue ":g") := by
  have hRead : Condition.ofText "#g = :g" = .ok [⟨.equal, "#g", .single ":g"⟩] := rfl
  refine ⟨⟨hRead, unresolved_onlyName⟩, ?_⟩
  have hFails := (unresolved_query_decided_by_rows
    ((empty {}).run [.addRow bareRow, .addRow globalRow]) none hRead unresolved_onlyName).2
  have hAway : Condition.TurnAway [⟨.equal, "#g", .single ":g"⟩] onlyName bareRow :=
    reaches_cons.mpr (Or.inl rfl)
  have hFault : Condition.ValueFault onlyName ":g" (.unresolvedValue ":g") := .unresolved rfl
  have hStuck : Condition.GetStuck [⟨.equal, "#g", .single ":g"⟩] onlyName globalRow
      (.unresolvedValue ":g") :=
    reaches_cons.mpr (Or.inl (.value rfl rfl rfl (reaches_cons.mpr (Or.inl hFault))))
  exact (hFails _).mpr (reaches_cons.mpr (Or.inr ⟨hAway, reaches_cons.mpr (Or.inl hStuck)⟩))

/-- The row without the attribute alone lets a query succeed that lacks a value. -/
theorem query_without_value_succeeds :
    ¬∀ (layout : Layout) (writes : List Write) (view : Option View) (expression : String)
      (bindings : Bindings) (conditions : List Condition),
      Condition.ofText expression = .ok conditions →
      (∃ condition ∈ conditions, condition.Unresolved bindings) →
      ∃ reference, ((empty layout).run writes).query view expression bindings =
          .error (.unresolvedName reference) ∨
        ((empty layout).run writes).query view expression bindings =
          .error (.unresolvedValue reference) := by
  intro hAlways
  have hQuery : ((empty {}).run [.addRow bareRow]).query none "#g = :g" onlyName = .ok [] := rfl
  obtain ⟨reference, hName | hValue⟩ := hAlways {} [.addRow bareRow] none "#g = :g" onlyName
    [⟨.equal, "#g", .single ":g"⟩] rfl unresolved_onlyName
  · rw [hQuery] at hName
    cases hName
  · rw [hQuery] at hValue
    cases hValue

end Table

end SingleTable
