import SingleTable.Proofs.Expression.Application

/-!
# Updates attribute by attribute

What an update leaves at an attribute can be told from the steps that concern it: nothing
if a step removes it, else the cell of the last step that sets it, else what was there
(`Leaves`).  Steps that have no attribute in common therefore do not see each other, and
may be written in any order.
-/

namespace SingleTable.UpdateStep

/-- The step sets an attribute of an item to a cell.  A conditional step does so only where
the attribute that it asks for is missing in the item or holds the empty string. -/
inductive Writes (bindings : Bindings) (item : Item) (name : String) (cell : Cell) :
    UpdateStep → Prop
  | set {target value : String} (hName : bindings.name target = .ok name)
      (hValue : bindings.value value = .ok cell) : Writes bindings item name cell (.set target value)
  | setIfAbsent {target other value guarded : String} (hName : bindings.name target = .ok name)
      (hValue : bindings.value value = .ok cell) (hOther : bindings.name other = .ok guarded)
      (hAbsent : item.find? guarded = none ∨ item.find? guarded = some (.string "")) :
      Writes bindings item name cell (.setIfAbsent target other value)

/-- Some step removes the attribute. -/
def Removed (bindings : Bindings) (steps : List UpdateStep) (name : String) : Prop :=
  ∃ target, .remove target ∈ steps ∧ bindings.name target = .ok name

/-- What steps leave at an attribute of an item. -/
inductive Leaves (bindings : Bindings) (steps : List UpdateStep) (item : Item) (name : String) :
    Option Cell → Prop
  | removed (hRemoved : Removed bindings steps name) : Leaves bindings steps item name none
  | written {before after : List UpdateStep} {step : UpdateStep} {cell : Cell}
      (hKept : ¬Removed bindings steps name) (hSteps : steps = before ++ step :: after)
      (hWrites : step.Writes bindings item name cell)
      (hLast : ∀ later ∈ after, ∀ other, ¬later.Writes bindings item name other) :
      Leaves bindings steps item name (some cell)
  | untouched (hKept : ¬Removed bindings steps name)
      (hNone : ∀ step ∈ steps, ∀ cell, ¬step.Writes bindings item name cell) :
      Leaves bindings steps item name (item.find? name)

/-- The step is one that sets the attribute, on a condition or not. -/
def assignsTo (bindings : Bindings) (name : String) : UpdateStep → Bool
  | .remove _ => false
  | step => bindings.target? step.name == some name

/-- The last entry for which a search gives something. -/
theorem findSome?_reverse_eq_some_iff {α β : Type} {search : α → Option β} {entries : List α}
    {found : β} :
    entries.reverse.findSome? search = some found ↔
      ∃ before entry after, entries = before ++ entry :: after ∧ search entry = some found ∧
        ∀ later ∈ after, search later = none := by
  rw [List.findSome?_eq_some_iff]
  constructor
  · rintro ⟨after, entry, before, hSplit, hFound, hNone⟩
    refine ⟨before.reverse, entry, after.reverse, ?_, hFound, ?_⟩
    · rw [List.reverse_eq_iff.mp hSplit]
      simp
    · exact fun later hLater => hNone later (List.mem_reverse.mp hLater)
  · rintro ⟨before, entry, after, rfl, hFound, hNone⟩
    refine ⟨after.reverse, entry, before.reverse, by simp, hFound, ?_⟩
    exact fun later hLater => hNone later (List.mem_reverse.mp hLater)

/-- A search need not look at entries that give nothing. -/
theorem findSome?_filter {α β : Type} {search : α → Option β} {keep : α → Bool}
    (hNone : ∀ entry, keep entry = false → search entry = none) (entries : List α) :
    (entries.filter keep).findSome? search = entries.findSome? search := by
  induction entries with
  | nil => rfl
  | cons entry rest ih =>
    rw [List.filter_cons, List.findSome?_cons]
    cases hKeep : keep entry with
    | true => simp [List.findSome?_cons, ih]
    | false => simp [hNone entry hKeep, ih]

variable {bindings : Bindings} {item row : Item} {steps others : List UpdateStep} {name : String}

theorem holds_eq_false_iff :
    item.holds name = false ↔ item.find? name = none ∨ item.find? name = some (.string "") := by
  unfold Item.holds
  cases item.find? name with
  | none => simp
  | some cell => simp [Cell.isBlank_eq_true_iff]

/-- A step that resolves sets an attribute to the cell that it writes there. -/
theorem written?_eq_some_iff {step : UpdateStep} {cell : Cell}
    (hResolves : step.Resolves bindings) :
    step.written? bindings item name = some cell ↔ step.Writes bindings item name cell := by
  cases step with
  | set target value =>
    rw [written?, Option.ite_none_right_eq_some, Bindings.target?_eq_some_iff,
      ← Bindings.value_eq_ok_iff]
    constructor
    · rintro ⟨hName, hValue⟩
      exact .set hName hValue
    · rintro ⟨hName, hValue⟩
      exact ⟨hName, hValue⟩
  | setIfAbsent target other value =>
    obtain ⟨_, _, guarded, hOther⟩ := hResolves
    rw [written?, Option.ite_none_right_eq_some, Bindings.target?_eq_some_iff,
      ← Bindings.value_eq_ok_iff, Bindings.target?_eq_some_iff.mpr hOther, Option.any_some,
      holds_eq_false_iff]
    constructor
    · rintro ⟨⟨hName, hAbsent⟩, hValue⟩
      exact .setIfAbsent hName hValue hOther hAbsent
    · intro hWrites
      cases hWrites with
      | setIfAbsent hName hValue hSame hAbsent =>
        rw [hOther] at hSame
        cases hSame
        exact ⟨⟨hName, hAbsent⟩, hValue⟩
  | remove target =>
    constructor
    · rintro ⟨⟩
    · rintro ⟨⟩

theorem written?_eq_none_iff {step : UpdateStep} (hResolves : step.Resolves bindings) :
    step.written? bindings item name = none ↔
      ∀ cell, ¬step.Writes bindings item name cell := by
  simp only [← written?_eq_some_iff hResolves, Option.eq_none_iff_forall_ne_some, ne_eq]

theorem any_removes_iff : steps.any (removes bindings name) = true ↔ Removed bindings steps name := by
  rw [List.any_eq_true]
  constructor
  · rintro ⟨step, hMem, hRemoves⟩
    cases step with
    | remove target =>
      exact ⟨target, hMem, Bindings.target?_eq_some_iff.mp (by simpa [removes] using hRemoves)⟩
    | set target value => cases hRemoves
    | setIfAbsent target other value => cases hRemoves
  · rintro ⟨target, hMem, hName⟩
    exact ⟨_, hMem, by simp [removes, Bindings.target?_eq_some_iff.mpr hName]⟩

/-- The cell that the last writing step sets an attribute to. -/
theorem lastWritten_eq_some_iff {cell : Cell} (hResolves : ∀ step ∈ steps, step.Resolves bindings) :
    steps.reverse.findSome? (written? bindings item name) = some cell ↔
      ∃ before step after, steps = before ++ step :: after ∧
        step.Writes bindings item name cell ∧
        ∀ later ∈ after, ∀ other, ¬later.Writes bindings item name other := by
  rw [findSome?_reverse_eq_some_iff]
  refine exists_congr fun before => exists_congr fun step => exists_congr fun after =>
    and_congr_right ?_
  rintro rfl
  refine and_congr (written?_eq_some_iff (hResolves step (by simp))) ?_
  exact forall₂_congr fun later hLater => written?_eq_none_iff (hResolves later (by simp [hLater]))

theorem lastWritten_eq_none_iff (hResolves : ∀ step ∈ steps, step.Resolves bindings) :
    steps.reverse.findSome? (written? bindings item name) = none ↔
      ∀ step ∈ steps, ∀ cell, ¬step.Writes bindings item name cell := by
  simp only [List.findSome?_eq_none_iff, List.mem_reverse]
  exact forall₂_congr fun step hMem => written?_eq_none_iff (hResolves step hMem)

/-- An attribute holds after an update what the steps leave there, and nothing else. -/
theorem find?_of_applyAll_eq_iff (hApply : applyAll steps bindings item = .ok row)
    {found : Option Cell} :
    row.find? name = found ↔ Leaves bindings steps item name found := by
  have hResolves := (exists_applyAll_eq_ok_iff item).mp ⟨row, hApply⟩
  rw [find?_of_applyAll hApply]
  constructor
  · rintro rfl
    by_cases hRemoved : Removed bindings steps name
    · rw [if_pos (any_removes_iff.mpr hRemoved)]
      exact .removed hRemoved
    · rw [if_neg (hRemoved ∘ any_removes_iff.mp)]
      cases hLast : steps.reverse.findSome? (written? bindings item name) with
      | none => exact .untouched hRemoved ((lastWritten_eq_none_iff hResolves).mp hLast)
      | some cell =>
        obtain ⟨_, _, _, hSteps, hWrites, hNone⟩ := (lastWritten_eq_some_iff hResolves).mp hLast
        exact .written hRemoved hSteps hWrites hNone
  · intro hLeaves
    cases hLeaves with
    | removed hRemoved => rw [if_pos (any_removes_iff.mpr hRemoved)]
    | written hKept hSteps hWrites hLast =>
      rw [if_neg (hKept ∘ any_removes_iff.mp),
        (lastWritten_eq_some_iff hResolves).mpr ⟨_, _, _, hSteps, hWrites, hLast⟩]
      rfl
    | untouched hKept hNone =>
      rw [if_neg (hKept ∘ any_removes_iff.mp), (lastWritten_eq_none_iff hResolves).mpr hNone]
      rfl

theorem written?_of_assignsTo_eq_false {step : UpdateStep}
    (hStep : step.assignsTo bindings name = false) : step.written? bindings item name = none := by
  cases step with
  | set target value => exact written?_of_untouched (by simpa [assignsTo] using hStep)
  | setIfAbsent target other value =>
    exact written?_of_untouched (by simpa [assignsTo] using hStep)
  | remove target => rfl

/-- The cell that is set in the end depends on the steps that set the attribute alone. -/
theorem lastWritten_congr
    (hSame : others.filter (assignsTo bindings name) = steps.filter (assignsTo bindings name)) :
    others.reverse.findSome? (written? bindings item name) =
      steps.reverse.findSome? (written? bindings item name) := by
  have hNone : ∀ step : UpdateStep, step.assignsTo bindings name = false →
      step.written? bindings item name = none := fun _ => written?_of_assignsTo_eq_false
  rw [← findSome?_filter hNone others.reverse, ← findSome?_filter hNone steps.reverse,
    List.filter_reverse, List.filter_reverse, hSame]

/-- Steps may be written in another order as long as those that set the same attribute keep
theirs. -/
theorem applyAll_of_perm (hApply : applyAll steps bindings item = .ok row)
    (hPerm : others.Perm steps)
    (hSame : ∀ name,
      others.filter (assignsTo bindings name) = steps.filter (assignsTo bindings name)) :
    applyAll others bindings item = .ok row := by
  have hResolves := (exists_applyAll_eq_ok_iff item).mp ⟨row, hApply⟩
  obtain ⟨other, hOther⟩ :=
    (exists_applyAll_eq_ok_iff item).mpr fun step hMem => hResolves step (hPerm.subset hMem)
  have hEqual : other = row := by
    apply NameMap.ext_find?
    intro name
    rw [find?_of_applyAll hOther, find?_of_applyAll hApply, hPerm.any_eq,
      lastWritten_congr (hSame name)]
  rw [hOther, hEqual]

/-- After an update that succeeds, each attribute holds exactly what the steps leave there:
nothing if a step removes it, else the cell of the last step that sets it, where a conditional
step counts if the attribute that it asks for was missing or empty before the update, else
what it held before.  So it neither matters where removals stand among the other steps nor
how steps that set different attributes are ordered. -/
theorem last_writing_step_counts (hApply : applyAll steps bindings item = .ok row) :
    (∀ name found, row.find? name = found ↔ Leaves bindings steps item name found) ∧
      ∀ others : List UpdateStep, others.Perm steps →
        (∀ name, others.filter (assignsTo bindings name) =
          steps.filter (assignsTo bindings name)) →
        applyAll others bindings item = .ok row :=
  ⟨fun _ _ => find?_of_applyAll_eq_iff hApply, fun _ hPerm hSame =>
    applyAll_of_perm hApply hPerm hSame⟩

/-- An item with an empty note. -/
def notedItem : Item :=
  .ofList [("count", .number "1"), ("note", .string ""), ("old", .bool true)]

/-- Placeholders with two names for one attribute. -/
def twoNames : Bindings where
  names := .ofList [("#c", "count"), ("#n", "count"), ("#note", "note"), ("#o", "old")]
  values := .ofList [(":two", .number "2"), (":three", .number "3")]

/-- The conditional step sets the count under its other name, as the note was empty before.
That the note is set as well does not matter, nor does the place of the removal. -/
theorem last_writing_step_counts_of_two_names :
    let steps : List UpdateStep := [.remove "#o", .set "#c" ":two", .set "#note" ":two",
      .setIfAbsent "#n" "#note" ":three", .set "#o" ":three"]
    let others : List UpdateStep := [.set "#c" ":two", .setIfAbsent "#n" "#note" ":three",
      .set "#o" ":three", .set "#note" ":two", .remove "#o"]
    ∃ row, applyAll steps twoNames notedItem = .ok row ∧
      Leaves twoNames steps notedItem "count" (some (.number "3")) ∧
      Leaves twoNames steps notedItem "old" none ∧
      applyAll others twoNames notedItem = .ok row := by
  intro steps others
  obtain ⟨row, hApply⟩ : ∃ row, applyAll steps twoNames notedItem = .ok row := ⟨_, rfl⟩
  obtain ⟨hLeaves, hOrder⟩ := last_writing_step_counts hApply
  cases hApply
  refine ⟨_, rfl, (hLeaves "count" _).mp rfl, (hLeaves "old" _).mp rfl, hOrder _ (by decide) ?_⟩
  intro name
  have hCount : twoNames.target? "#c" = some "count" := rfl
  have hOther : twoNames.target? "#n" = some "count" := rfl
  have hNote : twoNames.target? "#note" = some "note" := rfl
  have hOld : twoNames.target? "#o" = some "old" := rfl
  by_cases hName : name = "count"
  · subst hName
    rfl
  · by_cases hSecond : name = "note"
    · subst hSecond
      rfl
    · simp [steps, others, List.filter_cons, assignsTo, UpdateStep.name, hCount, hOther, hNote,
        hOld, Ne.symm hName, Ne.symm hSecond]

end SingleTable.UpdateStep
