import SingleTable.Proofs.Expression.Attributes
import SingleTable.Proofs.Table.Keyed
import SingleTable.Proofs.Table.UpdateSuccess

/-!
# Key items of updates

An update is told its row by a key item.  Where that row is stored, only what the key item
holds under the primary key attributes counts.  Where it is not, the key item itself is the
row to start from, so whatever else it holds is stored with the new row and is seen by the
conditional steps.  Key items that agree on the primary key therefore fail alike, but need
not leave the same row.
-/

namespace SingleTable

open Outcome

namespace Layout

/-- Two items hold the same under the primary key attributes. -/
def SameKey (layout : Layout) (item other : Item) : Prop :=
  ∀ name, layout.isPrimary name = true → item.find? name = other.find? name

/-- An item has the primary key attributes and no others. -/
def KeyOnly (layout : Layout) (item : Item) : Prop :=
  ∀ name, (item.find? name).isSome = layout.isPrimary name

/-- Outside of the primary key an item holds at most empty strings. -/
def BareKey (layout : Layout) (item : Item) : Prop :=
  ∀ name, layout.isPrimary name = false → item.holds name = false

end Layout

theorem Item.isSome_find?_withoutBlanks (item : Item) (name : String) :
    (item.withoutBlanks.find? name).isSome = item.holds name := by
  unfold withoutBlanks holds
  rw [NameMap.find?_keep]
  cases item.find? name with
  | none => rfl
  | some cell => cases hBlank : cell.isBlank <;> simp [Option.filter, hBlank]

namespace Table

variable {table : Table} {layout : Layout} {item other : Item} {key : Key} {expression : String}
  {bindings : Bindings}

/-- The primary key, or why there is none, is told by the primary key attributes. -/
theorem primaryKey_eq_of_sameKey (hSame : table.layout.SameKey item other) :
    table.primaryKey item = table.primaryKey other := by
  have hText : ∀ name, table.layout.isPrimary name = true →
      keyText item name = keyText other name := by
    intro name hPrimary
    unfold keyText
    rw [hSame name hPrimary]
  unfold primaryKey
  rw [hText _ (isPrimary_iff.mpr (Or.inl rfl))]
  cases hSort : table.layout.sort with
  | none => rfl
  | some name => simp only [hText name (isPrimary_iff.mpr (Or.inr hSort))]

/-- Of the key item an update reads its primary key and the row to start from. -/
theorem updateByExpression_congr (hKey : table.primaryKey item = table.primaryKey other)
    (hStart : ∀ key, table.primaryKey item = .ok key →
      table.startOf key item = table.startOf key other) :
    table.updateByExpression item expression bindings =
      table.updateByExpression other expression bindings := by
  unfold updateByExpression
  rw [← hKey]
  cases hPrimary : table.primaryKey item with
  | error error => rfl
  | ok key =>
    have hSame := hStart key hPrimary
    unfold startOf at hSame
    simp only [bind_ok rfl, hSame]

/-- Key items with the same primary key attributes let an update fail alike. -/
theorem failure?_updateByExpression_of_sameKey (hSame : table.layout.SameKey item other) :
    failure? (table.updateByExpression item expression bindings) =
      failure? (table.updateByExpression other expression bindings) := by
  unfold updateByExpression
  rw [primaryKey_eq_of_sameKey hSame]
  refine failure?_bind_congr rfl fun _ _ => failure?_bind_congr rfl fun _ _ =>
    failure?_bind_congr ?_ fun _ _ => rfl
  rw [failure?_mapError, failure?_mapError, UpdateStep.failure?_applyAll]

theorem startOf_of_absent (hAbsent : table.get? key = none) :
    table.startOf key item = item.withoutBlanks := by
  rw [startOf, hAbsent, Option.getD_none]

/-- A stored row is what an update starts from, whatever else the key item holds. -/
theorem updateByExpression_eq_of_stored (hSame : table.layout.SameKey item other)
    (hKey : table.primaryKey item = .ok key) (hStored : (table.get? key).isSome = true) :
    table.updateByExpression item expression bindings =
      table.updateByExpression other expression bindings := by
  refine updateByExpression_congr (primaryKey_eq_of_sameKey hSame) fun same hOther => ?_
  obtain rfl : key = same := Except.ok.inj (hKey.symm.trans hOther)
  obtain ⟨row, hRow⟩ := Option.isSome_iff_exists.mp hStored
  simp only [startOf, hRow, Option.getD_some]

/-- An item with a primary key holds something under each primary key attribute. -/
theorem holds_of_isPrimary {name : String} (hKey : table.primaryKey item = .ok key)
    (hPrimary : table.layout.isPrimary name = true) : item.holds name = true := by
  obtain ⟨hPartition, hSort, _⟩ :=
    Item.keyFor?_eq_some_iff_keyTexts.mp (primaryKey_eq_ok_iff.mp hKey)
  have hText : ∃ text, item.keyText? name = some text := by
    rcases isPrimary_iff.mp hPrimary with rfl | hName
    · exact ⟨_, hPartition⟩
    · exact Option.isSome_iff_exists.mp (hSort name hName)
  obtain ⟨text, hText⟩ := hText
  obtain ⟨cell, hCell, hCellText, hFilled⟩ := Item.keyText?_eq_some_iff.mp hText
  cases hHolds : item.holds name with
  | true => rfl
  | false =>
    -- the empty string is no key text
    rcases UpdateStep.holds_eq_false_iff.mp hHolds with hNone | hBlank
    · rw [hNone] at hCell
      cases hCell
    · rw [hBlank, Option.some.injEq] at hCell
      subst hCell
      exact absurd (Option.some.inj hCellText).symm hFilled

/-- The row that an update starts from where none is stored has no attributes besides the
primary key exactly if the key item holds nothing else. -/
theorem keyOnly_withoutBlanks_iff (hKey : table.primaryKey item = .ok key) :
    table.layout.KeyOnly item.withoutBlanks ↔ table.layout.BareKey item := by
  simp only [Layout.KeyOnly, Layout.BareKey, Item.isSome_find?_withoutBlanks]
  constructor
  · intro hOnly name hOther
    rw [hOnly name, hOther]
  · intro hBare name
    cases hPrimary : table.layout.isPrimary name with
    | true => exact holds_of_isPrimary hKey hPrimary
    | false => exact hBare name hPrimary

/-- Key items that hold nothing besides the same primary key are the same but for blanks. -/
theorem withoutBlanks_eq_of_bareKey (hSame : layout.SameKey item other)
    (hItem : layout.BareKey item) (hOther : layout.BareKey other) :
    item.withoutBlanks = other.withoutBlanks := by
  refine NameMap.ext_find? fun name => ?_
  cases hPrimary : layout.isPrimary name with
  | true => simp only [Item.withoutBlanks, NameMap.find?_keep, hSame name hPrimary]
  | false =>
    have hNone : ∀ key : Item, layout.BareKey key → key.withoutBlanks.find? name = none := by
      intro key hBare
      rw [← Option.not_isSome_iff_eq_none, Item.isSome_find?_withoutBlanks, hBare name hPrimary]
      exact Bool.false_ne_true
    rw [hNone item hItem, hNone other hOther]

/-- Where no row is stored, an update leaves at each attribute what its steps leave there of
the key item. -/
theorem leaves_of_absent {row : Item} {next : Table} (hAbsent : table.get? key = none)
    (hKey : table.primaryKey item = .ok key)
    (hUpdate : table.updateByExpression item expression bindings = .ok (row, next)) :
    next = table.put key row ∧ ∀ name found, row.find? name = found ↔
      UpdateStep.Leaves bindings (UpdateStep.ofText expression) item.withoutBlanks name found := by
  obtain ⟨same, hSame, _, hApply, hNext⟩ := updateByExpression_eq_ok_iff.mp hUpdate
  obtain rfl : key = same := Except.ok.inj (hKey.symm.trans hSame)
  rw [startOf_of_absent hAbsent] at hApply
  exact ⟨hNext, fun _ _ => UpdateStep.find?_of_applyAll_eq_iff hApply⟩

/-- Where no row is stored, key items with the same primary key attributes make no difference
exactly if the update fails or its steps leave the same of both. -/
theorem updateByExpression_eq_iff_of_absent (hSame : table.layout.SameKey item other)
    (hKey : table.primaryKey item = .ok key) (hAbsent : table.get? key = none) :
    table.updateByExpression item expression bindings =
        table.updateByExpression other expression bindings ↔
      (∃ error, table.updateByExpression item expression bindings = .error error) ∨
        ∀ name found,
          UpdateStep.Leaves bindings (UpdateStep.ofText expression) item.withoutBlanks name found ↔
          UpdateStep.Leaves bindings (UpdateStep.ofText expression) other.withoutBlanks name
            found := by
  have hFailure : failure? (table.updateByExpression item expression bindings) =
      failure? (table.updateByExpression other expression bindings) :=
    failure?_updateByExpression_of_sameKey hSame
  have hOtherKey : table.primaryKey other = .ok key := primaryKey_eq_of_sameKey hSame ▸ hKey
  cases hItem : table.updateByExpression item expression bindings with
  | error error =>
    rw [hItem] at hFailure
    rw [failure?_eq_some_iff.mp hFailure.symm]
    exact iff_of_true rfl (Or.inl ⟨error, rfl⟩)
  | ok given =>
    rw [hItem] at hFailure
    obtain ⟨otherGiven, hOther⟩ := failure?_eq_none_iff.mp hFailure.symm
    obtain ⟨hNext, hRow⟩ := leaves_of_absent hAbsent hKey hItem
    obtain ⟨hOtherNext, hOtherRow⟩ := leaves_of_absent hAbsent hOtherKey hOther
    simp only [hOther, ← hRow, ← hOtherRow, reduceCtorEq, exists_false, false_or, Except.ok.injEq]
    constructor
    · rintro rfl name found
      rfl
    · intro hLeaves
      have hRows : given.1 = otherGiven.1 :=
        NameMap.ext_find? fun name => ((hLeaves name _).mp rfl).symm
      exact Prod.ext hRows (by rw [hNext, hOtherNext, hRows])

/-- Key items that agree on the primary key attributes name the same row and let an update
fail alike, after every history.  Where the row is stored, or where neither holds anything
else, the update gives the same row and the same table for both.  Where it is not stored, the
update starts from the whole key item less its empty strings, which consists of the primary
key attributes only if the key item holds nothing else, and stores at each attribute what its
steps leave there; so it gives the same for both exactly if it fails or its steps leave the
same of the one as of the other. -/
theorem new_row_starts_from_whole_key_item (layout : Layout) (writes : List Write)
    (item other : Item) (expression : String) (bindings : Bindings)
    (hSame : layout.SameKey item other) :
    let table := (empty layout).run writes
    let update (keyItem : Item) := table.updateByExpression keyItem expression bindings
    let Leaves (keyItem : Item) := UpdateStep.Leaves bindings (UpdateStep.ofText expression)
      keyItem.withoutBlanks
    table.primaryKey item = table.primaryKey other ∧
    failure? (update item) = failure? (update other) ∧
    (layout.BareKey item → layout.BareKey other → update item = update other) ∧
    ∀ key, table.primaryKey item = .ok key →
      ((table.get? key).isSome = true → update item = update other) ∧
      (table.get? key = none →
        table.startOf key item = item.withoutBlanks ∧
        (layout.KeyOnly (table.startOf key item) ↔ layout.BareKey item) ∧
        (∀ row next, update item = .ok (row, next) → next = table.put key row ∧
          ∀ name found, row.find? name = found ↔ Leaves item name found) ∧
        (update item = update other ↔
          (∃ error, update item = .error error) ∨
            ∀ name found, Leaves item name found ↔ Leaves other name found)) := by
  intro table update Leaves
  have hLayout : table.layout = layout := layout_run layout writes
  rw [← hLayout] at hSame ⊢
  refine ⟨primaryKey_eq_of_sameKey hSame, failure?_updateByExpression_of_sameKey hSame, ?_, ?_⟩
  · intro hItem hOther
    refine updateByExpression_congr (primaryKey_eq_of_sameKey hSame) fun key _ => ?_
    rw [startOf, startOf, withoutBlanks_eq_of_bareKey hSame hItem hOther]
  · intro key hKey
    refine ⟨updateByExpression_eq_of_stored hSame hKey, fun hAbsent => ?_⟩
    rw [startOf_of_absent hAbsent]
    exact ⟨rfl, keyOnly_withoutBlanks_iff hKey, fun row next => leaves_of_absent hAbsent hKey,
      updateByExpression_eq_iff_of_absent hSame hKey hAbsent⟩

/-- A key item of nothing but the primary key. -/
def bareItem : Item :=
  .ofList [("pk", .string "a"), ("sk", .string "b")]

/-- A key item with a note. -/
def noteItem : Item :=
  .ofList [("note", .string "x"), ("pk", .string "a"), ("sk", .string "b")]

theorem sameKey_noteItem : Layout.SameKey {} noteItem bareItem := by
  intro name hPrimary
  rcases isPrimary_iff.mp hPrimary with rfl | hSort
  · rfl
  · cases hSort
    rfl

/-- Bindings for an update that sets a day. -/
def dayBindings : Bindings :=
  ⟨.ofList [("#day", "day")], .ofList [(":day", .string "monday")]⟩

/-- With a note beside the key, a new row does not start from the key alone, yet an update
fails as it does without the note. -/
theorem new_row_starts_from_whole_key_item_of_note :
    ¬Layout.KeyOnly {} ((empty {}).startOf ⟨"a", some "b"⟩ noteItem) ∧
      failure? ((empty {}).updateByExpression noteItem "SET #day = :day" dayBindings) =
        failure? ((empty {}).updateByExpression bareItem "SET #day = :day" dayBindings) := by
  obtain ⟨_, hFailure, _, hKey⟩ := new_row_starts_from_whole_key_item {} [] noteItem bareItem
    "SET #day = :day" dayBindings sameKey_noteItem
  obtain ⟨_, hOnly, _⟩ := (hKey ⟨"a", some "b"⟩ rfl).2 rfl
  exact ⟨fun hKeyOnly => Bool.noConfusion (hOnly.mp hKeyOnly "note" rfl), hFailure⟩

/-- A note beside the key is stored with the new row. -/
theorem note_of_key_item_stored :
    ¬∀ (writes : List Write) (item other : Item) (expression : String) (bindings : Bindings),
      Layout.SameKey {} item other →
      ((empty {}).run writes).updateByExpression item expression bindings =
        ((empty {}).run writes).updateByExpression other expression bindings := by
  intro hEqual
  have hNote := congrArg (fun outcome => outcome.toOption.bind fun given => given.1.find? "note")
    (hEqual [] noteItem bareItem "SET #day = :day" dayBindings sameKey_noteItem)
  exact absurd hNote (by decide +kernel)

end Table

end SingleTable
