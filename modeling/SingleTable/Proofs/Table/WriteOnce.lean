import SingleTable.Proofs.Expression.Application
import SingleTable.Proofs.Table.Locality

/-!
# Attributes that are set once

A conditional step that guards an attribute by the attribute itself never replaces a value
that is there.  The guard is asked of the row before the update, so neither the order of the
steps nor other names for the same attribute matter.  Hence the attribute of a row keeps its
first value for as long as the row is neither removed nor merged into, and no update of the
row has any other step on the attribute.
-/

namespace SingleTable

open Outcome

namespace UpdateStep

variable {steps : List UpdateStep} {bindings : Bindings} {start row : Item} {name : String}
  {cell : Cell}

/-- The step sets an attribute only where the attribute itself has no value yet. -/
def SetsIfAbsent (bindings : Bindings) (name : String) (step : UpdateStep) : Prop :=
  ∃ target other value, step = .setIfAbsent target other value ∧
    bindings.target? other = some name

/-- A conditional step writes nothing over a value. -/
theorem SetsIfAbsent.written?_eq_none {step : UpdateStep}
    (hStep : step.SetsIfAbsent bindings name) (hHolds : start.holds name = true) :
    step.written? bindings start name = none := by
  obtain ⟨target, other, value, rfl, hOther⟩ := hStep
  simp [written?, hOther, hHolds]

theorem SetsIfAbsent.removes_eq_false {step : UpdateStep}
    (hStep : step.SetsIfAbsent bindings name) : step.removes bindings name = false := by
  obtain ⟨target, other, value, rfl, _⟩ := hStep
  rfl

/-- Steps that set an attribute only where there is no value leave the value that is there. -/
theorem find?_of_applyAll_of_setsIfAbsent (hApply : applyAll steps bindings start = .ok row)
    (hSteps : ∀ step ∈ steps, bindings.target? step.name = some name →
      step.SetsIfAbsent bindings name)
    (hHolds : start.holds name = true) : row.find? name = start.find? name := by
  -- steps about other attributes and conditional ones have in common that they change nothing
  have hRemoved : steps.any (removes bindings name) = false := by
    rw [List.any_eq_false]
    intro step hMem
    by_cases hTarget : bindings.target? step.name = some name
    · simp [(hSteps step hMem hTarget).removes_eq_false]
    · simp [removes_of_untouched hTarget]
  have hWritten : steps.reverse.findSome? (written? bindings start name) = none := by
    rw [List.findSome?_eq_none_iff]
    intro step hMem
    by_cases hTarget : bindings.target? step.name = some name
    · exact (hSteps step (List.mem_reverse.mp hMem) hTarget).written?_eq_none hHolds
    · exact written?_of_untouched hTarget
  rw [find?_of_applyAll hApply, hRemoved, hWritten]
  simp

end UpdateStep

/-- A value other than the empty string is held. -/
theorem Item.holds_of_find? {item : Item} {name : String} {cell : Cell}
    (hCell : item.find? name = some cell) (hFilled : cell.isBlank = false) :
    item.holds name = true := by
  simp [holds, hCell, hFilled]

/-- The write sets an attribute of its row at most where it has no value yet: it is an insertion,
or an update in which all steps on the attribute are conditional on the attribute itself. -/
def RowWrite.SetsIfAbsent (name : String) : RowWrite → Prop
  | .add _ _ _ _ _ => True
  | .addRow _ => True
  | .updateRow _ => False
  | .updateByExpression _ expression bindings =>
    ∀ step ∈ UpdateStep.ofText expression, bindings.target? step.name = some name →
      step.SetsIfAbsent bindings name
  | .deleteKey _ => False
  | .deleteRow _ => False

namespace Table

variable {table next : Table} {key : Key} {name : String} {cell : Cell}

/-- Every write of the row under a key that a history carries out sets an attribute at most
where it has no value yet, and the table is never cleared. -/
def SetsIfAbsent (key : Key) (name : String) : Table → List Write → Prop
  | _, [] => True
  | table, write :: rest =>
    write ≠ .clear ∧
      (∀ part ∈ table.carriedOut write, part.key table.layout = .ok key →
        part.SetsIfAbsent name) ∧
      SetsIfAbsent key name (table.after write) rest

/-- The row under a key holds a value at an attribute. -/
def HoldsAt (table : Table) (key : Key) (name : String) (cell : Cell) : Prop :=
  ∃ row, table.get? key = some row ∧ row.find? name = some cell

/-- The key that a write sets is its own. -/
theorem Sets.key_eq {write : RowWrite} {row : Option Item} (hSets : Sets table write key row) :
    write.key table.layout = .ok key := by
  cases hSets with
  | add hGiven hKey _ _ =>
    obtain rfl := eq_itemOf_iff.mpr hGiven
    exact hKey
  | addRow hKey _ _ => exact hKey
  | updateAbsent hKey _ _ => exact hKey
  | updatePresent hKey _ _ => exact hKey
  | reviseAbsent hKey _ _ _ => exact hKey
  | revisePresent hKey _ _ => exact hKey
  | deleteKey => rfl
  | deleteRow hKey => exact hKey

/-- A write that sets an attribute at most where it has no value leaves the value there. -/
theorem HoldsAt.set {write : RowWrite} {row : Option Item} (hHolds : table.HoldsAt key name cell)
    (hFilled : cell.isBlank = false) (hSets : Sets table write key row)
    (hWrite : write.SetsIfAbsent name) : (table.set key row).HoldsAt key name cell := by
  obtain ⟨old, hOld, hCell⟩ := hHolds
  cases hSets with
  | add _ _ hAbsent _ => simp [hOld] at hAbsent
  | addRow _ hAbsent _ => simp [hOld] at hAbsent
  | updateAbsent _ _ _ => exact hWrite.elim
  | updatePresent _ _ _ => exact hWrite.elim
  | deleteKey => exact hWrite.elim
  | deleteRow _ => exact hWrite.elim
  | reviseAbsent _ hAbsent _ _ => simp [hOld] at hAbsent
  | revisePresent _ hPresent hRow =>
    obtain rfl := Option.some.inj (hOld.symm.trans hPresent)
    have hKept := UpdateStep.find?_of_applyAll_of_setsIfAbsent hRow.applied hWrite
      (Item.holds_of_find? hCell hFilled)
    exact ⟨_, by simp, hKept.trans hCell⟩

/-- A write that succeeds leaves the value, if it sets the attribute at most where it has none
or is about another row. -/
theorem HoldsAt.outcome {write : RowWrite} (hHolds : table.HoldsAt key name cell)
    (hFilled : cell.isBlank = false)
    (hWrite : write.key table.layout = .ok key → write.SetsIfAbsent name)
    (hNext : table.outcome write = .ok next) :
    next.layout = table.layout ∧ next.HoldsAt key name cell := by
  obtain ⟨other, row, hSets, rfl⟩ := outcome_eq_ok_iff.mp hNext
  refine ⟨layout_set table other row, ?_⟩
  by_cases hSame : other = key
  · subst hSame
    exact hHolds.set hFilled hSets (hWrite hSets.key_eq)
  · obtain ⟨old, hOld, hCell⟩ := hHolds
    exact ⟨old, by simp [hSame, hOld], hCell⟩

/-- One write of a history leaves the value. -/
theorem HoldsAt.after {write : Write} (hHolds : table.HoldsAt key name cell)
    (hFilled : cell.isBlank = false) (hClear : write ≠ .clear)
    (hParts : ∀ part ∈ table.carriedOut write, part.key table.layout = .ok key →
      part.SetsIfAbsent name) :
    (table.after write).HoldsAt key name cell := by
  -- the layout is carried along, as it decides which parts are about the row
  have hBoth : (table.after write).layout = table.layout ∧
      (table.after write).HoldsAt key name cell := by
    refine @holds_after_of_carriedOut
      (fun current => current.layout = table.layout ∧ current.HoldsAt key name cell) table write
      ?_ ?_ ⟨rfl, hHolds⟩
    · rintro part hMem current next ⟨hLayout, hCurrent⟩ hNext
      have hPart := hParts part hMem
      rw [← hLayout] at hPart ⊢
      exact hCurrent.outcome hFilled hPart hNext
    · exact fun hSame => absurd hSame hClear
  exact hBoth.2

/-- On every table whose row under a key holds a value other than the empty string at an
attribute, and in every history that goes on from there in which the row is not removed and
nothing is merged into it, and in which all steps on the attribute in updates of the row are
conditional on the attribute itself: the row holds that value at every moment. -/
theorem first_value_stays (table : Table) (writes : List Write)
    (hHolds : table.HoldsAt key name cell) (hFilled : cell.isBlank = false)
    (hWrites : table.SetsIfAbsent key name writes) :
    ∀ done, done <+: writes → (table.run done).HoldsAt key name cell := by
  induction writes generalizing table with
  | nil =>
    intro done hDone
    rw [List.prefix_nil.mp hDone]
    exact hHolds
  | cons write rest ih =>
    obtain ⟨hClear, hParts, hRest⟩ := hWrites
    intro done hDone
    cases done with
    | nil => exact hHolds
    | cons first done =>
      obtain ⟨rfl, hThen⟩ := List.cons_prefix_cons.mp hDone
      exact ih (table.after first) (hHolds.after hFilled hClear hParts) hRest done hThen

/-- An update that notes a day in a row unless one is noted there. -/
def noteDay (day : String) : Write :=
  .updateByExpression (.ofList [("pk", .string "user"), ("sk", .string "7")])
    "SET #d = if_not_exists(#d, :d)" ⟨.ofList [("#d", "day")], .ofList [(":d", .string day)]⟩

/-- A transaction that deletes the row and fails after that. -/
def failedDeletion : Write :=
  .transactWrite ⟨[⟨none, some ⟨"NA", .ofList [("pk", .string "user"), ("sk", .string "7")]⟩,
    none, none⟩, ⟨none, none, none, none⟩]⟩

theorem setsIfAbsent_noteDay (layout : Layout) (key : Key) (day : String) :
    ∀ part ∈ (noteDay day).parts, part.key layout = .ok key → part.SetsIfAbsent "day" := by
  intro part hMem _
  rw [List.mem_singleton.mp hMem]
  intro step hStep hTarget
  have hOnly : step = .setIfAbsent "#d" "#d" ":d" := List.mem_singleton.mp hStep
  subst hOnly
  exact ⟨"#d", "#d", ":d", rfl, hTarget⟩

/-- The first day stays noted, whatever day a later update brings, and also when a deletion is
taken back. -/
theorem first_value_stays_of_day :
    let table : Table := (empty {}).run [noteDay "monday"]
    let key : Key := ⟨"user", some "7"⟩
    (table.HoldsAt key "day" (.string "monday") ∧
      table.SetsIfAbsent key "day" [noteDay "tuesday", failedDeletion, noteDay "friday"]) ∧
      (table.run [noteDay "tuesday", failedDeletion, noteDay "friday"]).HoldsAt key "day"
        (.string "monday") := by
  intro table key
  have hHolds : table.HoldsAt key "day" (.string "monday") := ⟨_, rfl, rfl⟩
  have hWrites : table.SetsIfAbsent key "day"
      [noteDay "tuesday", failedDeletion, noteDay "friday"] := by
    refine ⟨nofun, ?_, nofun, ?_, nofun, ?_, trivial⟩
    · exact fun part hMem => setsIfAbsent_noteDay _ key "tuesday" part
        (carriedOut_subset _ _ hMem)
    · -- the second action fails, so the first one is not carried out either
      intro part hMem
      cases hMem
    · exact fun part hMem => setsIfAbsent_noteDay _ key "friday" part (carriedOut_subset _ _ hMem)
  exact ⟨⟨hHolds, hWrites⟩, first_value_stays table _ hHolds rfl hWrites _ (List.prefix_refl _)⟩

end Table

end SingleTable
