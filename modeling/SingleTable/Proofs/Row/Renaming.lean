import Mathlib.Data.List.Nodup
import SingleTable.Proofs.Row.Key

/-!
# Renamed attributes

Renaming the attributes of items, layouts and placeholders by an injective map.  What is found
under a renamed name is what was found under the name before, and nothing is found under any
other name, which determines a renamed map (`NameMap.eq_rename`).  Hence renaming commutes with
every operation on items: insertions, merges, keys under views and update steps.
-/

namespace SingleTable

open Outcome

namespace Entries

variable {κ κ' α β : Type}

/-- What is found among entries with renamed keys. -/
theorem find?_map_key [DecidableEq κ] [DecidableEq κ'] {change : κ → κ'}
    (hChange : Function.Injective change) (key : κ) (entries : List (κ × α)) :
    find? (change key) (entries.map fun entry => (change entry.1, entry.2)) =
      find? key entries := by
  induction entries with
  | nil => rfl
  | cons entry rest ih =>
    obtain ⟨other, value⟩ := entry
    rw [List.map_cons, find?_cons, find?_cons, ih]
    by_cases hSame : other = key
    · simp [hSame]
    · simp [hSame, hChange.ne hSame]

theorem find?_map_key_of_ne [DecidableEq κ'] {change : κ → κ'} {other : κ'}
    (hOther : ∀ key, change key ≠ other) (entries : List (κ × α)) :
    find? other (entries.map fun entry => (change entry.1, entry.2)) = none := by
  rw [find?_eq_none_iff]
  intro value hMem
  obtain ⟨entry, _, hEntry⟩ := List.mem_map.mp hMem
  exact hOther entry.1 (congrArg Prod.fst hEntry)

/-- What is found among entries with changed values. -/
theorem find?_map_value [DecidableEq κ] (change : α → β) (key : κ) (entries : List (κ × α)) :
    find? key (entries.map fun entry => (entry.1, change entry.2)) =
      (find? key entries).map change := by
  induction entries with
  | nil => rfl
  | cons entry rest ih =>
    obtain ⟨other, value⟩ := entry
    rw [List.map_cons, find?_cons, find?_cons, ih]
    by_cases hSame : other = key <;> simp [hSame]

theorem insert_map_value [Ord κ] (change : α → β) (key : κ) (value : α)
    (entries : List (κ × α)) :
    insert key (change value) (entries.map fun entry => (entry.1, change entry.2)) =
      (insert key value entries).map fun entry => (entry.1, change entry.2) := by
  induction entries with
  | nil => rfl
  | cons entry rest ih =>
    obtain ⟨other, old⟩ := entry
    simp only [List.map_cons, insert]
    cases compare key other <;> simp [ih]

theorem erase_map_value [DecidableEq κ] (change : α → β) (key : κ) (entries : List (κ × α)) :
    erase key (entries.map fun entry => (entry.1, change entry.2)) =
      (erase key entries).map fun entry => (entry.1, change entry.2) := by
  unfold erase
  rw [List.filter_map]
  rfl

end Entries

namespace NameMap

variable {α β : Type}

/-- The map with every name replaced. -/
def rename (change : String → String) (map : NameMap α) : NameMap α :=
  ofList (map.entries.map fun entry => (change entry.1, entry.2))

/-- The map with every value replaced. -/
def mapValues (change : α → β) (map : NameMap α) : NameMap β where
  entries := map.entries.map fun entry => (entry.1, change entry.2)
  ascending := by
    unfold Entries.Ascending
    rw [List.pairwise_map]
    exact map.ascending

@[simp]
theorem find?_mapValues (change : α → β) (map : NameMap α) (name : String) :
    (map.mapValues change).find? name = (map.find? name).map change :=
  Entries.find?_map_value change name map.entries

variable {change : String → String} (hChange : Function.Injective change)
include hChange

theorem find?_rename_eq_entries (map : NameMap α) (name : String) :
    (map.rename change).find? name =
      Entries.find? name (map.entries.map fun entry => (change entry.1, entry.2)) := by
  apply find?_ofList
  have hKeys : (map.entries.map fun entry => (change entry.1, entry.2)).map Prod.fst =
      (map.entries.map Prod.fst).map change := by
    simp
  rw [hKeys]
  exact map.ascending.nodup_keys.map hChange

theorem find?_rename (map : NameMap α) (name : String) :
    (map.rename change).find? (change name) = map.find? name := by
  rw [find?_rename_eq_entries hChange]
  exact Entries.find?_map_key hChange name map.entries

theorem find?_rename_of_ne (map : NameMap α) {other : String}
    (hOther : ∀ name, change name ≠ other) : (map.rename change).find? other = none := by
  rw [find?_rename_eq_entries hChange]
  exact Entries.find?_map_key_of_ne hOther map.entries

/-- A renamed map is known by what is found under renamed names and under all others. -/
theorem eq_rename {map renamed : NameMap α}
    (hInside : ∀ name, renamed.find? (change name) = map.find? name)
    (hOutside : ∀ other, (∀ name, change name ≠ other) → renamed.find? other = none) :
    renamed = map.rename change := by
  apply ext_find?
  intro other
  by_cases hOther : ∃ name, change name = other
  · obtain ⟨name, rfl⟩ := hOther
    rw [hInside, find?_rename hChange]
  · have hNone : ∀ name, change name ≠ other := fun name hSame => hOther ⟨name, hSame⟩
    rw [hOutside other hNone, find?_rename_of_ne hChange map hNone]

theorem rename_insert (map : NameMap α) (name : String) (value : α) :
    (map.insert name value).rename change = (map.rename change).insert (change name) value := by
  symm
  apply eq_rename hChange
  · intro other
    simp [find?_rename hChange, hChange.eq_iff]
  · intro other hOther
    simp [hOther name, find?_rename_of_ne hChange map hOther]

theorem rename_erase (map : NameMap α) (name : String) :
    (map.erase name).rename change = (map.rename change).erase (change name) := by
  symm
  apply eq_rename hChange
  · intro other
    simp [find?_rename hChange, hChange.eq_iff]
  · intro other hOther
    simp [hOther name, find?_rename_of_ne hChange map hOther]

theorem rename_keep (map : NameMap α) (test : α → Bool) :
    (map.keep test).rename change = (map.rename change).keep test := by
  symm
  apply eq_rename hChange
  · intro other
    simp [find?_rename hChange]
  · intro other hOther
    simp [find?_rename_of_ne hChange map hOther]

theorem rename_overlay (map delta : NameMap α) :
    (map.overlay delta).rename change = (map.rename change).overlay (delta.rename change) := by
  symm
  apply eq_rename hChange
  · intro other
    simp [find?_rename hChange]
  · intro other hOther
    simp [find?_rename_of_ne hChange _ hOther]

end NameMap

/-- The layout with every key attribute renamed. -/
def Layout.rename (change : String → String) (layout : Layout) : Layout where
  table := layout.table
  partition := change layout.partition
  sort := layout.sort.map change
  global1 := layout.global1.map change
  global2 := layout.global2.map change
  global3 := layout.global3.map change

theorem Layout.keyOf?_rename (change : String → String) (layout : Layout) (role : Role) :
    (layout.rename change).keyOf? role = (layout.keyOf? role).map change := by
  cases role <;> rfl

/-- A view reads the renamed attributes of a renamed layout. -/
theorem View.attributes?_rename (change : String → String) (view : View) (layout : Layout) :
    view.attributes? (layout.rename change) =
      (view.attributes? layout).map fun names => (change names.1, names.2.map change) := by
  unfold attributes?
  rw [Layout.keyOf?_rename]
  cases layout.keyOf? view.partition with
  | none => rfl
  | some partition =>
    cases view.sort with
    | none => rfl
    | some role =>
      simp only [Option.map_some, Option.bind_eq_bind, Option.bind_some, Layout.keyOf?_rename]
      cases layout.keyOf? role with
      | some sort => rfl
      | none => cases view.name <;> rfl

namespace Item

variable {change : String → String} (hChange : Function.Injective change)
include hChange

theorem rename_withoutBlanks (item : Item) :
    item.withoutBlanks.rename change = withoutBlanks (item.rename change) :=
  NameMap.rename_keep hChange item _

theorem rename_merged (item delta : Item) :
    (item.merged delta).rename change = merged (item.rename change) (delta.rename change) := by
  unfold merged
  rw [rename_withoutBlanks hChange, NameMap.rename_overlay hChange]

theorem holds_rename (item : Item) (name : String) :
    holds (item.rename change) (change name) = item.holds name := by
  unfold holds
  rw [NameMap.find?_rename hChange]

theorem keyText?_rename (item : Item) (name : String) :
    keyText? (item.rename change) (change name) = item.keyText? name := by
  unfold keyText?
  rw [NameMap.find?_rename hChange]

/-- Under every view a renamed item has the key that the item has. -/
theorem key?_rename (item : Item) (view : View) (layout : Layout) :
    key? (item.rename change) view (layout.rename change) = item.key? view layout := by
  unfold key?
  rw [View.attributes?_rename]
  cases view.attributes? layout with
  | none => rfl
  | some names =>
    obtain ⟨partition, sort⟩ := names
    show keyFor? (item.rename change) (change partition) (sort.map change) =
      item.keyFor? partition sort
    cases sort with
    | none => rw [Option.map_none, keyFor?_none, keyFor?_none, keyText?_rename hChange]
    | some name =>
      rw [Option.map_some, keyFor?_some, keyFor?_some, keyText?_rename hChange,
        keyText?_rename hChange]

end Item

/-- The bindings with every attribute that a name stands for renamed. -/
def Bindings.rename (change : String → String) (bindings : Bindings) : Bindings where
  names := bindings.names.mapValues change
  values := bindings.values

/-- A placeholder stands for the renamed attribute. -/
theorem Bindings.name_rename (change : String → String) (bindings : Bindings)
    {reference : String} (hPlaceholder : Text.startsWith reference "#" = true) :
    (bindings.rename change).name reference = (bindings.name reference).map change := by
  unfold name rename
  rw [if_pos hPlaceholder, if_pos hPlaceholder, NameMap.find?_mapValues]
  cases bindings.names.find? reference <;> rfl

namespace UpdateStep

/-- The names that a step refers to attributes by. -/
def references : UpdateStep → List String
  | .set name _ => [name]
  | .setIfAbsent name other _ => [name, other]
  | .remove name => [name]

/-- The step refers to attributes by placeholders only. -/
def ByPlaceholders (step : UpdateStep) : Prop :=
  ∀ reference ∈ step.references, Text.startsWith reference "#" = true

variable {change : String → String} (hChange : Function.Injective change) {bindings : Bindings}
  {step : UpdateStep}
include hChange

/-- A setting step does to a renamed item what it does to the item. -/
theorem assign_rename (hStep : step.ByPlaceholders) (start current : Item) :
    step.assign (bindings.rename change) (start.rename change) (current.rename change) =
      (step.assign bindings start current).map (NameMap.rename change) := by
  have hValue : ∀ reference, (bindings.rename change).value reference = bindings.value reference :=
    fun _ => rfl
  cases step with
  | set name value =>
    have hName := bindings.name_rename change (hStep name (by simp [references]))
    simp only [assign, hName, hValue]
    cases bindings.name name with
    | error error => rfl
    | ok target =>
      cases bindings.value value with
      | error error => rfl
      | ok cell => exact congrArg Except.ok (NameMap.rename_insert hChange current target cell).symm
  | setIfAbsent name other value =>
    have hName := bindings.name_rename change (hStep name (by simp [references]))
    have hOther := bindings.name_rename change (hStep other (by simp [references]))
    simp only [assign, hName, hOther, hValue]
    cases bindings.name name with
    | error error => rfl
    | ok target =>
      cases bindings.value value with
      | error error => rfl
      | ok cell =>
        cases bindings.name other with
        | error error => rfl
        | ok guarded =>
          show Except.ok (if Item.holds (start.rename change) (change guarded) then _ else _) =
            Except.ok (NameMap.rename change (if start.holds guarded then _ else _))
          rw [Item.holds_rename hChange]
          cases start.holds guarded with
          | true => rfl
          | false =>
            exact congrArg Except.ok (NameMap.rename_insert hChange current target cell).symm
  | remove name => rfl

theorem drop_rename (hStep : step.ByPlaceholders) (current : Item) :
    step.drop (bindings.rename change) (current.rename change) =
      (step.drop bindings current).map (NameMap.rename change) := by
  cases step with
  | set name value => rfl
  | setIfAbsent name other value => rfl
  | remove name =>
    have hName := bindings.name_rename change (hStep name (by simp [references]))
    simp only [drop, hName]
    cases bindings.name name with
    | error error => rfl
    | ok target => exact congrArg Except.ok (NameMap.rename_erase hChange current target).symm

/-- Update steps do to a renamed item what they do to the item. -/
theorem applyAll_rename {steps : List UpdateStep} (hSteps : ∀ step ∈ steps, step.ByPlaceholders)
    (item : Item) :
    applyAll steps (bindings.rename change) (item.rename change) =
      (applyAll steps bindings item).map (NameMap.rename change) := by
  have hAssign := foldlM_image (fun step hMem current =>
    @assign_rename change hChange bindings step (hSteps step hMem) item current) item
  unfold applyAll
  rw [hAssign]
  cases steps.foldlM (assign bindings item) item with
  | error error => rfl
  | ok assigned =>
    exact foldlM_image (fun step hMem current =>
      @drop_rename change hChange bindings step (hSteps step hMem) current) assigned

end UpdateStep

end SingleTable
