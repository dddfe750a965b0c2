import SingleTable.Proofs.Pattern.ClassText

/-!
# The set of a class

Which characters a class has, by its items: those in a range in front of the first pair of
hyphens, unless a range behind it has them too.  Case counts throughout.
-/

namespace SingleTable.Pattern

theorem CharSet.contains_unions (sets : List CharSet) (c : Char) :
    (unions sets).contains c = sets.any (·.contains c) := by
  induction sets with
  | nil => rfl
  | cons set sets ih =>
    rw [List.any_cons, ← ih]
    rfl

theorem CharSet.contains_range (low high c : Char) :
    (range low.toNat high.toNat).contains c = (low ≤ c && c ≤ high) := by
  rfl

namespace ClassItem

/-- The character is in the item's range. -/
def has (c : Char) : ClassItem → Bool
  | .range low high => low ≤ c && c ≤ high
  | .without => false

/-- The range does not run backwards. -/
def IsOrdered : ClassItem → Prop
  | .range low high => low ≤ high
  | .without => True

/-- The items denote the character. -/
def denote (items : List ClassItem) (c : Char) : Bool :=
  (items.takeWhile (· ≠ .without)).any (has c) && !(items.dropWhile (· ≠ .without)).any (has c)

end ClassItem

namespace Bracket.Level

variable {flags : Flags} {level last : Level} {items : List ClassItem}

@[simp]
theorem pending_add (level : Level) (item : Nested CharSet) :
    (level.add item).pending = level.pending := rfl

/-- A level takes items as long as no range runs backwards. -/
theorem isSome_takeAll?_iff :
    (level.takeAll? flags items).isSome ↔ ∀ item ∈ items, item.IsOrdered := by
  induction items generalizing level with
  | nil => simp [takeAll?]
  | cons item items ih =>
    rw [takeAll?_cons, List.forall_mem_cons]
    cases item with
    | without => simp [take?, ih, ClassItem.IsOrdered]
    | range low high =>
      by_cases hOrdered : low ≤ high
      · simp [take?, ih, ClassItem.IsOrdered, hOrdered]
      · simp [take?, ClassItem.IsOrdered, hOrdered]

/-- What a level does with its first item, and then with the others. -/
theorem takeAll?_cons_eq_some {item : ClassItem}
    (hTake : level.takeAll? flags (item :: items) = some last) :
    ∃ next, level.take? flags item = some next ∧ next.takeAll? flags items = some last :=
  Option.bind_eq_some_iff.mp hTake

/-- The next level after an item. -/
theorem take?_eq_some {item : ClassItem} {next : Level}
    (hTake : level.take? flags item = some next) :
    (∃ low high, item = .range low high ∧
      next = level.add (.leaf (.range low.toNat high.toNat))) ∨
    (item = .without ∧ next = level.setAside flags) := by
  cases item with
  | without =>
    cases hTake
    exact Or.inr ⟨rfl, rfl⟩
  | range low high =>
    rw [take?] at hTake
    split at hTake
    · cases hTake
      exact Or.inl ⟨low, high, rfl, rfl⟩
    · cases hTake

theorem negated_of_takeAll? (hTake : level.takeAll? flags items = some last) :
    last.negated = level.negated := by
  induction items generalizing level with
  | nil =>
    cases hTake
    rfl
  | cons item items ih =>
    obtain ⟨next, hNext, hRest⟩ := takeAll?_cons_eq_some hTake
    rw [ih hRest]
    rcases take?_eq_some hNext with ⟨low, high, -, rfl⟩ | ⟨-, rfl⟩ <;> rfl

/-- Ranges alone are added side by side. -/
theorem leaves_of_takeAll? (hTake : level.takeAll? flags items = some last)
    (hPlain : .without ∉ items) (hPending : level.pending = none)
    (hLeaves : ∀ item ∈ level.items, item.depth = 0) :
    last.pending = none ∧ ∀ item ∈ last.items, item.depth = 0 := by
  induction items generalizing level with
  | nil =>
    cases hTake
    exact ⟨hPending, hLeaves⟩
  | cons item items ih =>
    obtain ⟨next, hNext, hRest⟩ := takeAll?_cons_eq_some hTake
    obtain ⟨hFirst, hOthers⟩ := List.ne_and_not_mem_of_not_mem_cons hPlain
    rcases take?_eq_some hNext with ⟨low, high, rfl, rfl⟩ | ⟨rfl, rfl⟩
    · exact ih hRest hOthers hPending (List.forall_mem_cons.mpr ⟨rfl, hLeaves⟩)
    · exact absurd rfl hFirst

/-- The character is in the set that a level has come to. -/
def members (flags : Flags) (level : Level) (c : Char) : Bool :=
  (level.value flags).value.contains c

theorem members_of_none (hPending : level.pending = none) (c : Char) :
    level.members flags c = level.items.any (·.value.contains c) := by
  simp [members, value, hPending, Nested.ofParts, CharSet.contains_unions, Function.comp_def]

theorem members_add_of_none (hPending : level.pending = none) (set : CharSet) (c : Char) :
    (level.add (.leaf set)).members flags c = (level.members flags c || set.contains c) := by
  rw [members_of_none ((pending_add _ _).trans hPending), members_of_none hPending, Bool.or_comm]
  rfl

variable (hCase : flags.ignoreCase = false)
include hCase

theorem fold_eq (set : CharSet) : flags.fold set = set := by
  simp [Flags.fold, hCase]

theorem members_of_diff {left : Nested CharSet} (hPending : level.pending = some (.diff, left))
    (c : Char) :
    level.members flags c = (left.value.contains c && !level.items.any (·.value.contains c)) := by
  have hDiff : (level.value flags).value =
      .diff left.value (.unions (level.items.reverse.map Nested.value)) := by
    simp only [value, hPending, ClassOp.apply, fold_eq hCase, Nested.ofParts]
  have hItems : (CharSet.unions (level.items.reverse.map Nested.value)).contains c =
      level.items.any (·.value.contains c) := by
    rw [CharSet.contains_unions, List.any_map, List.any_reverse]
    rfl
  rw [members, hDiff, ← hItems]
  rfl

theorem members_add_of_diff {left : Nested CharSet}
    (hPending : level.pending = some (.diff, left)) (set : CharSet) (c : Char) :
    (level.add (.leaf set)).members flags c = (level.members flags c && !set.contains c) := by
  rw [members_of_diff hCase ((pending_add _ _).trans hPending), members_of_diff hCase hPending,
    Bool.and_assoc, ← Bool.not_or, Bool.or_comm]
  rfl

theorem members_setAside (c : Char) :
    (level.setAside flags).members flags c = level.members flags c := by
  rw [members_of_diff hCase rfl]
  exact Bool.and_true _

/-- Behind a pair of hyphens, characters only go. -/
theorem members_takeAll?_of_diff {left : Nested CharSet}
    (hPending : level.pending = some (.diff, left))
    (hTake : level.takeAll? flags items = some last) (c : Char) :
    last.members flags c = (level.members flags c && !items.any (·.has c)) := by
  induction items generalizing level left with
  | nil =>
    cases hTake
    exact (Bool.and_true _).symm
  | cons item items ih =>
    obtain ⟨next, hNext, hRest⟩ := takeAll?_cons_eq_some hTake
    rcases take?_eq_some hNext with ⟨low, high, rfl, rfl⟩ | ⟨rfl, rfl⟩
    · rw [ih ((pending_add _ _).trans hPending) hRest, members_add_of_diff hCase hPending,
        Bool.and_assoc, ← Bool.not_or]
      rfl
    · rw [ih rfl hRest, members_setAside hCase]
      rfl

/-- A bracket has the characters that its items denote. -/
theorem members_takeAll? (hPending : level.pending = none)
    (hTake : level.takeAll? flags items = some last) (c : Char) :
    last.members flags c =
      ((level.members flags c || (items.takeWhile (· ≠ .without)).any (·.has c)) &&
        !(items.dropWhile (· ≠ .without)).any (·.has c)) := by
  induction items generalizing level with
  | nil =>
    cases hTake
    simp
  | cons item items ih =>
    obtain ⟨next, hNext, hRest⟩ := takeAll?_cons_eq_some hTake
    rcases take?_eq_some hNext with ⟨low, high, rfl, rfl⟩ | ⟨rfl, rfl⟩
    · -- a range joins what the level has; the first pair of hyphens ends this phase
      rw [ih ((pending_add _ _).trans hPending) hRest, members_add_of_none hPending]
      simp [Bool.or_assoc, ClassItem.has, CharSet.contains_range]
    · rw [members_takeAll?_of_diff hCase rfl hRest, members_setAside hCase]
      simp [ClassItem.has]

end Bracket.Level

namespace Bracket

variable {flags : Flags} {negated : Bool} {items : List ClassItem} {nested : Nested CharSet}

/-- A bracket has a set if no range in it runs backwards. -/
theorem isSome_ofItems?_iff (hUnicode : flags.unicode = true) :
    (ofItems? flags negated items).isSome ↔ ∀ item ∈ items, item.IsOrdered := by
  have hClose : ∀ level : Level, (level.close? flags).isSome := by
    intro level
    simp [Level.close?, hUnicode]
  rw [← Level.isSome_takeAll?_iff, ofItems?]
  cases (Level.opened negated []).takeAll? flags items with
  | none => simp
  | some last => simp [hClose]

/-- A bracket has the characters that its items denote, or the others. -/
theorem contains_of_ofItems? (hCase : flags.ignoreCase = false)
    (hItems : ofItems? flags negated items = some nested) (c : Char) :
    nested.value.contains c = (ClassItem.denote items c != negated) := by
  obtain ⟨last, hTake, hClose⟩ := Option.bind_eq_some_iff.mp hItems
  have hMembers := Level.members_takeAll? hCase rfl hTake c
  have hNegated : last.negated = negated := Level.negated_of_takeAll? hTake
  have hNone : (Level.opened negated []).members flags c = false := rfl
  rw [hNone, Bool.false_or] at hMembers
  rw [Level.close?] at hClose
  split at hClose
  · cases hClose
  cases hClose
  show (flags.foldAndNegate last.negated (last.value flags).value).contains c = _
  rw [hNegated, ClassItem.denote, ← hMembers]
  cases negated with
  | false => simp [Flags.foldAndNegate, Level.fold_eq hCase, Level.members]
  | true => simp [Flags.foldAndNegate, Level.fold_eq hCase, Level.members, CharSet.contains]

/-- Without pairs of hyphens, a bracket is not nested. -/
theorem depth_of_ofItems?_le (hItems : ofItems? flags negated items = some nested)
    (hPlain : .without ∉ items) : nested.depth ≤ 2 := by
  obtain ⟨last, hTake, hClose⟩ := Option.bind_eq_some_iff.mp hItems
  have hLeaves := Level.leaves_of_takeAll? hTake hPlain rfl (by simp [Level.opened])
  rw [Level.close?] at hClose
  split at hClose
  · cases hClose
  cases hClose
  have hValue : last.value flags = Nested.ofParts CharSet.unions last.items.reverse := by
    simp only [Level.value, hLeaves.1]
  show (last.value flags).depth + 1 ≤ 2
  rw [hValue]
  refine Nat.succ_le_succ (Nested.depthOf_le fun depth hDepth => ?_)
  obtain ⟨item, hItem, rfl⟩ := List.mem_map.mp hDepth
  exact Nat.le_of_eq (hLeaves.2 item (List.mem_reverse.mp hItem))

end Bracket

end SingleTable.Pattern
