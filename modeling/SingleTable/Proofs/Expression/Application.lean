import SingleTable.Expression.Evaluation
import SingleTable.Proofs.Outcome

/-!
# What update steps do to an item

When steps can be applied to an item, and what every attribute of the result holds.
A removal wins over everything; otherwise the last step that sets the attribute
counts; otherwise the attribute is as it was.  Whether a conditional step sets
anything depends on the item before the update alone.
-/

namespace SingleTable

open Outcome

theorem Bindings.value_eq_ok_iff {bindings : Bindings} {reference : String} {cell : Cell} :
    bindings.value reference = .ok cell ↔ bindings.values.find? reference = some cell := by
  unfold value
  cases bindings.values.find? reference <;> simp

theorem Bindings.name_of_find? {bindings : Bindings} {reference target : String}
    (hPlaceholder : Text.startsWith reference "#" = true)
    (hTarget : bindings.names.find? reference = some target) :
    bindings.name reference = .ok target := by
  simp [name, hPlaceholder, hTarget]

theorem Bindings.valueText_of_find? {bindings : Bindings} {reference text : String}
    (hText : bindings.values.find? reference = some (.string text)) :
    bindings.valueText reference = .ok text := by
  have hCell : bindings.value reference = .ok (.string text) := value_eq_ok_iff.mpr hText
  unfold valueText
  rw [bind_ok hCell]
  rfl

/-- A search in which only one entry can be a hit gives what that entry gives. -/
theorem findSome?_eq_of_only {α β : Type} {test : α → Option β} {entries : List α} {entry : α}
    (hMem : entry ∈ entries) (hOnly : ∀ other ∈ entries, other ≠ entry → test other = none) :
    entries.findSome? test = test entry := by
  induction entries with
  | nil => cases hMem
  | cons first rest ih =>
    rw [List.findSome?_cons]
    by_cases hFirst : first = entry
    · -- the entry may stand in the rest as well, and gives the same there
      subst hFirst
      cases hTest : test first with
      | some found => rfl
      | none =>
        refine List.findSome?_eq_none_iff.mpr fun other hRest => ?_
        by_cases hSame : other = first
        · rw [hSame, hTest]
        · exact hOnly other (List.mem_cons_of_mem first hRest) hSame
    · have hRest : entry ∈ rest := (List.mem_cons.mp hMem).resolve_left (Ne.symm hFirst)
      rw [hOnly first List.mem_cons_self hFirst]
      exact ih hRest fun other hOther => hOnly other (List.mem_cons_of_mem first hOther)

/-- The attribute that a name refers to, if it refers to one. -/
def Bindings.target? (bindings : Bindings) (reference : String) : Option String :=
  (bindings.name reference).toOption

theorem Bindings.target?_eq_some_iff {bindings : Bindings} {reference name : String} :
    bindings.target? reference = some name ↔ bindings.name reference = .ok name := by
  unfold target?
  cases bindings.name reference <;> simp [Except.toOption]

namespace UpdateStep

/-- The placeholders of a step stand for something. -/
def Resolves (bindings : Bindings) : UpdateStep → Prop
  | .set name value =>
    (∃ target, bindings.name name = .ok target) ∧ ∃ cell, bindings.value value = .ok cell
  | .setIfAbsent name other value =>
    (∃ target, bindings.name name = .ok target) ∧ (∃ cell, bindings.value value = .ok cell) ∧
      ∃ guarded, bindings.name other = .ok guarded
  | .remove name => ∃ target, bindings.name name = .ok target

/-- The cell that a step sets an attribute to, where the item was `start` before. -/
def written? (bindings : Bindings) (start : Item) (name : String) : UpdateStep → Option Cell
  | .set target value =>
    if bindings.target? target = some name then bindings.values.find? value else none
  | .setIfAbsent target other value =>
    if bindings.target? target = some name ∧ ((bindings.target? other).any start.holds) = false
    then bindings.values.find? value else none
  | .remove _ => none

/-- The step removes an attribute. -/
def removes (bindings : Bindings) (name : String) : UpdateStep → Bool
  | .remove target => bindings.target? target == some name
  | _ => false

variable {bindings : Bindings} {start current next row : Item}

/-- What an attribute holds after one more setting step. -/
theorem find?_of_assign {step : UpdateStep} (hStep : step.assign bindings start current = .ok next)
    (name : String) :
    next.find? name = (step.written? bindings start name).or (current.find? name) := by
  cases step with
  | set target value =>
    unfold assign at hStep
    simp only [bind_eq_ok_iff, pure_eq_ok_iff] at hStep
    obtain ⟨resolved, hTarget, cell, hCell, rfl⟩ := hStep
    rw [Bindings.value_eq_ok_iff] at hCell
    rw [← Bindings.target?_eq_some_iff] at hTarget
    by_cases hName : resolved = name <;> simp [written?, hTarget, hCell, hName]
  | setIfAbsent target other value =>
    unfold assign at hStep
    simp only [bind_eq_ok_iff, pure_eq_ok_iff] at hStep
    obtain ⟨resolved, hTarget, cell, hCell, guarded, hGuarded, rfl⟩ := hStep
    rw [Bindings.value_eq_ok_iff] at hCell
    rw [← Bindings.target?_eq_some_iff] at hTarget hGuarded
    cases hHolds : start.holds guarded with
    | true => simp [written?, hGuarded, hHolds]
    | false =>
      by_cases hName : resolved = name <;>
        simp [written?, hTarget, hCell, hName, hGuarded, hHolds]
  | remove target =>
    unfold assign at hStep
    cases hStep
    simp [written?]

/-- What an attribute holds after one more removing step. -/
theorem find?_of_drop {step : UpdateStep} (hStep : step.drop bindings current = .ok next)
    (name : String) :
    next.find? name = if step.removes bindings name then none else current.find? name := by
  cases step with
  | remove target =>
    unfold drop at hStep
    simp only [bind_eq_ok_iff, pure_eq_ok_iff] at hStep
    obtain ⟨resolved, hTarget, rfl⟩ := hStep
    rw [← Bindings.target?_eq_some_iff] at hTarget
    simp [removes, hTarget]
  | set target value =>
    cases hStep
    rfl
  | setIfAbsent target other value =>
    cases hStep
    rfl

/-- What an attribute holds after several setting steps: the last one that sets it wins. -/
theorem find?_of_foldlM_assign {steps : List UpdateStep}
    (hFold : steps.foldlM (assign bindings start) current = .ok next) (name : String) :
    next.find? name =
      (steps.reverse.findSome? (written? bindings start name)).or (current.find? name) :=
  @foldlM_writes _ _ _ _ _ (NameMap.find? · name) _ _ _ _
    (fun _ _ _ hStep => find?_of_assign hStep name) hFold

/-- What an attribute holds after several removing steps. -/
theorem find?_of_foldlM_drop {steps : List UpdateStep}
    (hFold : steps.foldlM (drop bindings) current = .ok next) (name : String) :
    next.find? name =
      if steps.any (removes bindings name) then none else current.find? name := by
  induction steps generalizing current with
  | nil =>
    rw [List.foldlM_nil, pure_eq_ok_iff] at hFold
    simp [hFold]
  | cons step rest ih =>
    rw [List.foldlM_cons, bind_eq_ok_iff] at hFold
    obtain ⟨middle, hMiddle, hRest⟩ := hFold
    rw [ih hRest, find?_of_drop hMiddle, List.any_cons]
    cases step.removes bindings name <;> simp

/-- What an attribute holds after an update. -/
theorem find?_of_applyAll {steps : List UpdateStep}
    (hApply : applyAll steps bindings start = .ok row) (name : String) :
    row.find? name =
      if steps.any (removes bindings name) then none
      else (steps.reverse.findSome? (written? bindings start name)).or (start.find? name) := by
  unfold applyAll at hApply
  rw [bind_eq_ok_iff] at hApply
  obtain ⟨assigned, hAssigned, hDropped⟩ := hApply
  rw [find?_of_foldlM_drop hDropped, find?_of_foldlM_assign hAssigned]

theorem removes_of_untouched {step : UpdateStep} {name : String}
    (hOther : bindings.target? step.name ≠ some name) : step.removes bindings name = false := by
  cases step with
  | remove target => simpa [removes, UpdateStep.name] using hOther
  | set target value => rfl
  | setIfAbsent target other value => rfl

theorem written?_of_untouched {step : UpdateStep} {name : String}
    (hOther : bindings.target? step.name ≠ some name) :
    step.written? bindings start name = none := by
  cases step with
  | remove target => rfl
  | set target value => exact if_neg hOther
  | setIfAbsent target other value => exact if_neg fun hBoth => hOther hBoth.1

/-- An attribute that no step is about is as it was. -/
theorem find?_of_applyAll_of_untouched {steps : List UpdateStep} {name : String}
    (hApply : applyAll steps bindings start = .ok row)
    (hUntouched : ∀ step ∈ steps, bindings.target? step.name ≠ some name) :
    row.find? name = start.find? name := by
  have hKept : steps.any (removes bindings name) = false := by
    rw [List.any_eq_false]
    intro step hMem
    simp [removes_of_untouched (hUntouched step hMem)]
  have hUnset : steps.reverse.findSome? (written? bindings start name) = none := by
    rw [List.findSome?_eq_none_iff]
    intro step hMem
    exact written?_of_untouched (hUntouched step (List.mem_reverse.mp hMem))
  rw [find?_of_applyAll hApply, hKept, hUnset]
  simp

/-- An attribute that a single step is about holds what that step leaves there. -/
theorem find?_of_applyAll_of_only {steps : List UpdateStep} {step : UpdateStep} {name : String}
    (hApply : applyAll steps bindings start = .ok row) (hMem : step ∈ steps)
    (hOnly : ∀ other ∈ steps, bindings.target? other.name = some name → other = step) :
    row.find? name =
      if step.removes bindings name then none
      else (step.written? bindings start name).or (start.find? name) := by
  -- no other step removes the attribute, and no other step sets it
  have hRemoved : steps.any (removes bindings name) = step.removes bindings name := by
    cases hStep : step.removes bindings name with
    | true => exact List.any_eq_true.mpr ⟨step, hMem, hStep⟩
    | false =>
      rw [List.any_eq_false]
      intro other hOther hRemoves
      by_cases hTarget : bindings.target? other.name = some name
      · rw [hOnly other hOther hTarget, hStep] at hRemoves
        exact Bool.noConfusion hRemoves
      · rw [removes_of_untouched hTarget] at hRemoves
        exact Bool.noConfusion hRemoves
  have hWritten : steps.reverse.findSome? (written? bindings start name) =
      step.written? bindings start name := by
    refine findSome?_eq_of_only (List.mem_reverse.mpr hMem) fun other hOther hNe => ?_
    refine written?_of_untouched fun hTarget => hNe ?_
    exact hOnly other (List.mem_reverse.mp hOther) hTarget
  rw [find?_of_applyAll hApply, hRemoved, hWritten]

theorem exists_assign_eq_ok_iff (bindings : Bindings) (start current : Item)
    (step : UpdateStep) :
    (∃ next, step.assign bindings start current = .ok next) ↔
      match step with
      | .remove _ => True
      | step => step.Resolves bindings := by
  cases step with
  | set name value =>
    cases hName : bindings.name name <;> cases hValue : bindings.value value <;>
      simp [assign, Resolves, hName, hValue]
  | setIfAbsent name other value =>
    cases hName : bindings.name name <;> cases hValue : bindings.value value <;>
      cases hOther : bindings.name other <;> simp [assign, Resolves, hName, hValue, hOther]
  | remove name => simp [assign]

theorem exists_drop_eq_ok_iff (bindings : Bindings) (current : Item) (step : UpdateStep) :
    (∃ next, step.drop bindings current = .ok next) ↔
      match step with
      | .remove name => (UpdateStep.remove name).Resolves bindings
      | _ => True := by
  cases step with
  | set name value => simp [drop]
  | setIfAbsent name other value => simp [drop]
  | remove name => cases hName : bindings.name name <;> simp [drop, Resolves, hName]

/-- Steps can be applied to an item when all their placeholders stand for something. -/
theorem exists_applyAll_eq_ok_iff {steps : List UpdateStep} (item : Item) :
    (∃ row, applyAll steps bindings item = .ok row) ↔
      ∀ step ∈ steps, step.Resolves bindings := by
  have hAssign := exists_foldlM_eq_ok_iff (exists_assign_eq_ok_iff bindings item) steps item
  have hDrop := exists_foldlM_eq_ok_iff (exists_drop_eq_ok_iff bindings) steps
  unfold applyAll
  simp only [bind_eq_ok_iff]
  -- either pass resolves the placeholders of its own steps and leaves out the others
  constructor
  · rintro ⟨row, assigned, hAssigned, hRow⟩ step hMem
    have hSet := hAssign.mp ⟨assigned, hAssigned⟩ step hMem
    have hRemoved := (hDrop assigned).mp ⟨row, hRow⟩ step hMem
    cases step with
    | set name value => exact hSet
    | setIfAbsent name other value => exact hSet
    | remove name => exact hRemoved
  · intro hResolves
    obtain ⟨assigned, hAssigned⟩ := hAssign.mpr fun step hMem => by
      cases step with
      | set name value => exact hResolves _ hMem
      | setIfAbsent name other value => exact hResolves _ hMem
      | remove name => trivial
    obtain ⟨row, hRow⟩ := (hDrop assigned).mpr fun step hMem => by
      cases step with
      | set name value => trivial
      | setIfAbsent name other value => trivial
      | remove name => exact hResolves _ hMem
    exact ⟨row, assigned, hAssigned, hRow⟩

end UpdateStep

end SingleTable
