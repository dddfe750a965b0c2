import SingleTable.Proofs.Expression.Application
import SingleTable.Proofs.Table.History

/-!
# When updates succeed

An update looks up everything that its steps refer to, whether the steps then set anything
or not.  So the request alone decides whether it succeeds, and why it fails if it does not:
which rows are stored plays no part (`failure?_updateByExpression`).
-/

namespace SingleTable

open Outcome

namespace UpdateStep

/-- The attribute of a step is given and lies outside of the primary key. -/
def TargetsFree (layout : Layout) (bindings : Bindings) (step : UpdateStep) : Prop :=
  ∃ name, bindings.name step.name = .ok name ∧ layout.isPrimary name = false

/-- What a step asks of a request.  The value of a conditional step has to be given even
where the step does not set it. -/
def Permitted (layout : Layout) (bindings : Bindings) (step : UpdateStep) : Prop :=
  step.TargetsFree layout bindings ∧
    match step with
    | .set _ value => (bindings.values.find? value).isSome = true
    | .setIfAbsent _ other value =>
      (bindings.values.find? value).isSome = true ∧ ∃ guarded, bindings.name other = .ok guarded
    | .remove _ => True

variable {layout : Layout} {bindings : Bindings}

theorem exists_value_eq_ok_iff {reference : String} :
    (∃ cell, bindings.value reference = .ok cell) ↔
      (bindings.values.find? reference).isSome = true := by
  simp only [Bindings.value_eq_ok_iff, Option.isSome_iff_exists]

/-- A step is permitted if its attribute is free and all its placeholders are given. -/
theorem permitted_iff {step : UpdateStep} :
    step.Permitted layout bindings ↔
      step.TargetsFree layout bindings ∧ step.Resolves bindings := by
  refine and_congr_right ?_
  rintro ⟨name, hName, _⟩
  cases step with
  | set target value =>
    rw [Resolves, exists_value_eq_ok_iff]
    exact ⟨fun hValue => ⟨⟨name, hName⟩, hValue⟩, And.right⟩
  | setIfAbsent target other value =>
    rw [Resolves, exists_value_eq_ok_iff]
    exact ⟨fun hRest => ⟨⟨name, hName⟩, hRest⟩, And.right⟩
  | remove target => exact ⟨fun _ => ⟨name, hName⟩, fun _ => trivial⟩

/-- Setting steps fail alike, whatever the item before and the item so far. -/
theorem failure?_assign (start current other next : Item) (step : UpdateStep) :
    failure? (step.assign bindings start current) =
      failure? (step.assign bindings other next) := by
  cases step with
  | set target value =>
    exact failure?_bind_congr rfl fun _ _ => failure?_bind_congr rfl fun _ _ => rfl
  | setIfAbsent target other value =>
    exact failure?_bind_congr rfl fun _ _ => failure?_bind_congr rfl fun _ _ =>
      failure?_bind_congr rfl fun _ _ => rfl
  | remove target => rfl

theorem failure?_drop (current next : Item) (step : UpdateStep) :
    failure? (step.drop bindings current) = failure? (step.drop bindings next) := by
  cases step with
  | set target value => rfl
  | setIfAbsent target other value => rfl
  | remove target => exact failure?_bind_congr rfl fun _ _ => rfl

/-- Steps fail alike on every item. -/
theorem failure?_applyAll (steps : List UpdateStep) (item other : Item) :
    failure? (applyAll steps bindings item) = failure? (applyAll steps bindings other) :=
  failure?_bind_congr (failure?_foldlM (fun current next => failure?_assign _ current _ next) ..)
    fun _ _ => failure?_foldlM failure?_drop ..

end UpdateStep

namespace Table

variable {table : Table} {keyItem : Item} {expression : String} {bindings : Bindings}

/-- Tables with one layout let the same updates fail, for the same reasons. -/
theorem failure?_updateByExpression (table : Table) (rows : List (Key × Item)) :
    failure? ({ table with rows }.updateByExpression keyItem expression bindings) =
      failure? (table.updateByExpression keyItem expression bindings) := by
  unfold updateByExpression
  refine failure?_bind_congr rfl fun key other => failure?_bind_congr rfl fun _ _ =>
    failure?_bind_congr ?_ fun _ _ => rfl
  rw [failure?_mapError, failure?_mapError, UpdateStep.failure?_applyAll]

theorem exists_updateByExpression_eq_ok_iff :
    (∃ row next, table.updateByExpression keyItem expression bindings = .ok (row, next)) ↔
      (∃ key, table.primaryKey keyItem = .ok key) ∧
        ∀ step ∈ UpdateStep.ofText expression, step.Permitted table.layout bindings := by
  simp only [updateByExpression_eq_ok_iff, checkTarget_eq_ok_iff, UpdateStep.permitted_iff]
  constructor
  · rintro ⟨row, _, key, hKey, hTargets, hApply, rfl⟩
    have hResolves := (UpdateStep.exists_applyAll_eq_ok_iff _).mp ⟨row, hApply⟩
    exact ⟨⟨key, hKey⟩, fun step hMem => ⟨hTargets step hMem, hResolves step hMem⟩⟩
  · rintro ⟨⟨key, hKey⟩, hSteps⟩
    obtain ⟨row, hApply⟩ := (UpdateStep.exists_applyAll_eq_ok_iff (table.startOf key keyItem)).mpr
      fun step hMem => (hSteps step hMem).2
    exact ⟨row, _, key, hKey, fun step hMem => (hSteps step hMem).1, hApply, rfl⟩

/-- On every table an update succeeds exactly if the key item has a primary key, the attribute
of each step is given and lies outside of the primary key, and the values and attributes that
the steps refer to are given, also those of a conditional step that sets nothing.  So which
rows are stored decides neither whether an update fails nor why.  One that fails leaves the
table as it is. -/
theorem update_decided_by_request (table : Table) (keyItem : Item) (expression : String)
    (bindings : Bindings) :
    ((∃ row next, table.updateByExpression keyItem expression bindings = .ok (row, next)) ↔
      (∃ key, table.primaryKey keyItem = .ok key) ∧
        ∀ step ∈ UpdateStep.ofText expression, step.Permitted table.layout bindings) ∧
    (∀ rows, failure? ({ table with rows }.updateByExpression keyItem expression bindings) =
      failure? (table.updateByExpression keyItem expression bindings)) ∧
    ((∃ row, table.updateByExpression keyItem expression bindings =
        .ok (row, table.after (.updateByExpression keyItem expression bindings))) ∨
      ∃ error, table.updateByExpression keyItem expression bindings = .error error ∧
        table.after (.updateByExpression keyItem expression bindings) = table) := by
  refine ⟨exists_updateByExpression_eq_ok_iff, table.failure?_updateByExpression, ?_⟩
  simp only [after]
  cases table.updateByExpression keyItem expression bindings with
  | error error => exact Or.inr ⟨error, rfl, rfl⟩
  | ok given => exact Or.inl ⟨given.1, rfl⟩

-- The value of a conditional step is missed also where the step would set nothing.
example :
    failure? (((empty {}).run [.addRow (.ofList [("day", .string "monday"), ("pk", .string "a"),
      ("sk", .string "b")])]).updateByExpression (.ofList [("pk", .string "a"), ("sk", .string "b")])
        "SET #d = if_not_exists(#d, :d)" ⟨.ofList [("#d", "day")], .empty⟩) =
      some (.expression (.unresolvedValue ":d")) := rfl

end Table

end SingleTable
