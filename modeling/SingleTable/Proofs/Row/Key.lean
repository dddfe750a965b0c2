import SingleTable.Proofs.Expression.Application
import SingleTable.Proofs.Table.Write

/-!
# Keys of items

The order of keys in plain terms, and which attributes of an item its key depends
on.  A key text is the non-empty payload of a string or number cell, so leaving out
empty strings does not change any key.  The primary key of an item is its key over
the primary key attributes of the layout.
-/

namespace SingleTable

/-- A key comes before another one: its partition text is smaller, or the partition
texts agree and it has no sort text while the other has, or a smaller one. -/
def Key.Precedes (key other : Key) : Prop :=
  key.partition < other.partition ∨
    key.partition = other.partition ∧
      match key.sort, other.sort with
      | none, some _ => True
      | some sort, some otherSort => sort < otherSort
      | _, none => False

theorem compare_string_eq_lt_iff {text other : String} :
    compare text other = .lt ↔ text < other := by
  show String.compare text other = .lt ↔ _
  unfold String.compare
  exact compareOfLessAndEq_eq_lt

/-- The order in which a table keeps its keys. -/
theorem Key.compare_eq_lt_iff {key other : Key} :
    compare key other = .lt ↔ key.Precedes other := by
  have hSort : compare key.sort other.sort = .lt ↔
      match key.sort, other.sort with
      | none, some _ => True
      | some sort, some otherSort => sort < otherSort
      | _, none => False := by
    -- a missing text comes first
    cases key.sort with
    | none => cases other.sort <;> simp [compare]
    | some sort =>
      cases other.sort with
      | none => simp [compare]
      | some otherSort => exact compare_string_eq_lt_iff
  rw [Key.compare_def, Ordering.then_eq_lt, compare_string_eq_lt_iff,
    Std.LawfulEqOrd.compare_eq_iff_eq, hSort]
  rfl

namespace Item

variable {item other row delta : Item} {name partition : String} {sort : Option String}

theorem keyText?_eq_some_iff {text : String} :
    item.keyText? name = some text ↔
      ∃ cell, item.find? name = some cell ∧ cell.text? = some text ∧ text ≠ "" := by
  unfold keyText?
  rw [Option.filter_eq_some_iff, Option.bind_eq_some_iff]
  constructor
  · rintro ⟨⟨cell, hCell, hText⟩, hFilled⟩
    exact ⟨cell, hCell, hText, by simpa using hFilled⟩
  · rintro ⟨cell, hCell, hText, hFilled⟩
    exact ⟨⟨cell, hCell, hText⟩, by simpa using hFilled⟩

/-- A key text counts only if it is not empty, so it does not matter whether empty
strings are left out. -/
@[simp]
theorem keyText?_withoutBlanks (item : Item) (name : String) :
    item.withoutBlanks.keyText? name = item.keyText? name := by
  unfold keyText? withoutBlanks
  rw [NameMap.find?_keep]
  cases item.find? name with
  | none => rfl
  | some cell =>
    cases hBlank : cell.isBlank with
    | false => simp [Option.filter, hBlank]
    | true =>
      -- only the empty string is left out, and it is no key text
      rw [Cell.isBlank_eq_true_iff] at hBlank
      simp [Option.filter, hBlank, Cell.text?]

/-- What is merged into a row brings its own key texts. -/
theorem keyText?_merged {text : String} (hText : delta.keyText? name = some text) :
    (row.merged delta).keyText? name = some text := by
  obtain ⟨cell, hCell, hRest⟩ := keyText?_eq_some_iff.mp hText
  unfold merged
  rw [keyText?_withoutBlanks, keyText?_eq_some_iff]
  exact ⟨cell, by simp [hCell], hRest⟩

theorem keyFor?_none :
    item.keyFor? partition none = (item.keyText? partition).map fun text => ⟨text, none⟩ := by
  unfold keyFor?
  cases item.keyText? partition <;> rfl

theorem keyFor?_some :
    item.keyFor? partition (some name) =
      (item.keyText? partition).bind fun text =>
        (item.keyText? name).map fun sortText => ⟨text, some sortText⟩ := by
  unfold keyFor?
  cases item.keyText? partition with
  | none => rfl
  | some text => cases hName : item.keyText? name <;> simp [hName]

/-- The attributes that a key is made of. -/
theorem keyFor?_eq_some_iff_keyTexts {key : Key} :
    item.keyFor? partition sort = some key ↔
      item.keyText? partition = some key.partition ∧
        (∀ name, sort = some name → (item.keyText? name).isSome) ∧
        key.sort = sort.bind item.keyText? := by
  obtain ⟨keyPartition, keySort⟩ := key
  cases sort with
  | none =>
    rw [keyFor?_none]
    cases item.keyText? partition with
    | none => simp
    | some text =>
      simp only [Option.map_some, Option.some.injEq, Key.mk.injEq, Option.bind_none]
      exact ⟨fun hKey => ⟨hKey.1, by simp, hKey.2.symm⟩, fun hKey => ⟨hKey.1, hKey.2.2.symm⟩⟩
  | some name =>
    rw [keyFor?_some]
    cases item.keyText? partition with
    | none => simp
    | some text =>
      cases hName : item.keyText? name with
      | none => simp [hName]
      | some sortText =>
        simp only [Option.bind_some, Option.map_some, Option.some.injEq, Key.mk.injEq, hName]
        exact ⟨fun hKey => ⟨hKey.1, by simp [hName], hKey.2.symm⟩,
          fun hKey => ⟨hKey.1, hKey.2.2.symm⟩⟩

/-- Items with the same key texts have the same keys. -/
theorem keyFor?_congr (hPartition : other.keyText? partition = item.keyText? partition)
    (hSort : ∀ name, sort = some name → other.keyText? name = item.keyText? name) :
    other.keyFor? partition sort = item.keyFor? partition sort := by
  cases sort with
  | none => rw [keyFor?_none, keyFor?_none, hPartition]
  | some name => rw [keyFor?_some, keyFor?_some, hPartition, hSort name rfl]

end Item

namespace Table

variable {table : Table} {item other : Item} {key : Key}

theorem keyText_eq_ok_iff {name text : String} :
    keyText item name = .ok text ↔ item.keyText? name = some text := by
  unfold keyText Item.keyText?
  cases item.find? name with
  | none => simp
  | some cell =>
    cases hText : cell.text? with
    | none => simp [hText]
    | some payload =>
      by_cases hEmpty : payload = ""
      · subst hEmpty
        simp [hText]
      · simp [hText, hEmpty, Option.filter]

/-- The primary key is the key over the primary key attributes of the layout. -/
theorem primaryKey_eq_ok_iff :
    table.primaryKey item = .ok key ↔
      item.keyFor? table.layout.partition table.layout.sort = some key := by
  unfold primaryKey
  cases table.layout.sort with
  | none =>
    rw [Item.keyFor?_none, Option.map_eq_some_iff]
    simp only [Outcome.bind_eq_ok_iff, keyText_eq_ok_iff, Outcome.pure_eq_ok_iff]
  | some name =>
    rw [Item.keyFor?_some, Option.bind_eq_some_iff]
    simp only [Outcome.bind_eq_ok_iff, keyText_eq_ok_iff, Outcome.pure_eq_ok_iff,
      Option.map_eq_some_iff]

/-- An item with a text under every primary key attribute has a primary key. -/
theorem exists_primaryKey_eq_ok (hTexts : ∀ name, table.layout.isPrimary name = true →
      ∃ text, item.keyText? name = some text) :
    ∃ key, table.primaryKey item = .ok key := by
  obtain ⟨partition, hPartition⟩ := hTexts table.layout.partition (by simp [Layout.isPrimary])
  refine ⟨⟨partition, table.layout.sort.bind item.keyText?⟩, ?_⟩
  rw [primaryKey_eq_ok_iff, Item.keyFor?_eq_some_iff_keyTexts]
  refine ⟨hPartition, ?_, rfl⟩
  intro name hSort
  exact Option.isSome_iff_exists.mpr (hTexts name (by simp [Layout.isPrimary, hSort]))

theorem isPrimary_iff {layout : Layout} {name : String} :
    layout.isPrimary name = true ↔ name = layout.partition ∨ layout.sort = some name := by
  simp [Layout.isPrimary]

/-- Items with the same texts under the primary key attributes have the same primary key. -/
theorem primaryKey_congr (hTexts : ∀ name, table.layout.isPrimary name = true →
      other.keyText? name = item.keyText? name) :
    table.primaryKey other = .ok key ↔ table.primaryKey item = .ok key := by
  rw [primaryKey_eq_ok_iff, primaryKey_eq_ok_iff, Item.keyFor?_congr]
  · exact hTexts _ (isPrimary_iff.mpr (Or.inl rfl))
  · exact fun name hSort => hTexts name (isPrimary_iff.mpr (Or.inr hSort))

@[simp]
theorem primaryKey_withoutBlanks_eq_ok_iff :
    table.primaryKey item.withoutBlanks = .ok key ↔ table.primaryKey item = .ok key :=
  primaryKey_congr fun name _ => Item.keyText?_withoutBlanks item name

/-- A merged row has the primary key of what was merged into it. -/
theorem primaryKey_merged {row : Item} (hKey : table.primaryKey item = .ok key) :
    table.primaryKey (row.merged item) = .ok key := by
  rw [primaryKey_eq_ok_iff, Item.keyFor?_eq_some_iff_keyTexts] at hKey ⊢
  obtain ⟨hPartition, hSome, hSort⟩ := hKey
  have hTexts : ∀ name, table.layout.sort = some name →
      (row.merged item).keyText? name = item.keyText? name := by
    intro name hName
    obtain ⟨text, hText⟩ := Option.isSome_iff_exists.mp (hSome name hName)
    rw [hText, Item.keyText?_merged hText]
  refine ⟨Item.keyText?_merged hPartition, ?_, ?_⟩
  · intro name hName
    rw [hTexts name hName]
    exact hSome name hName
  · rw [hSort]
    cases hName : table.layout.sort with
    | none => rfl
    | some name => exact (hTexts name hName).symm

/-- Steps that pass the check leave the primary key as it is. -/
theorem primaryKey_of_applyAll {bindings : Bindings} {steps : List UpdateStep} {start row : Item}
    (hChecks : ∀ step ∈ steps, table.checkTarget bindings step = .ok ())
    (hApply : UpdateStep.applyAll steps bindings start = .ok row) :
    table.primaryKey row = .ok key ↔ table.primaryKey start = .ok key := by
  refine primaryKey_congr fun name hPrimary => ?_
  have hUntouched : row.find? name = start.find? name := by
    refine UpdateStep.find?_of_applyAll_of_untouched hApply ?_
    intro step hMem hTarget
    -- a step about a key attribute would not have passed the check
    rw [Bindings.target?_eq_some_iff] at hTarget
    obtain ⟨target, hName, hOther⟩ := checkTarget_eq_ok_iff.mp (hChecks step hMem)
    rw [hTarget, Except.ok.injEq] at hName
    rw [← hName, hPrimary] at hOther
    exact Bool.noConfusion hOther
  unfold Item.keyText?
  rw [hUntouched]

end Table

end SingleTable
