/-!
# Nesting

A part of an expression comes with its depth, the number of constructs that its
innermost parts stand in.  Parts side by side count as a construct of their own; a
part on its own does not.
-/

namespace SingleTable.Pattern

/-- A part of an expression with its depth. -/
structure Nested (α : Type) where
  value : α
  depth : Nat
deriving DecidableEq, Repr

namespace Nested

/-- The largest depth of an expression. -/
def limit : Nat := 250

/-- A part that has no parts. -/
def leaf {α : Type} (value : α) : Nested α := ⟨value, 0⟩

/-- The depth of parts that stand side by side. -/
def depthOf (depths : List Nat) : Nat :=
  match depths with
  | [] => 0
  | [only] => only
  | depths => depths.foldr max 0 + 1

/-- Parts side by side, made into one. -/
def ofParts {α β : Type} (make : List α → β) (parts : List (Nested α)) : Nested β :=
  ⟨make (parts.map value), depthOf (parts.map depth)⟩

/-- A construct around a part. -/
def around {α β : Type} (make : α → β) (part : Nested α) : Nested β :=
  ⟨make part.value, part.depth + 1⟩

theorem foldr_max_le {depths : List Nat} {bound : Nat} (hAll : ∀ depth ∈ depths, depth ≤ bound) :
    depths.foldr max 0 ≤ bound := by
  induction depths with
  | nil => exact Nat.zero_le bound
  | cons first rest ih =>
    obtain ⟨hFirst, hRest⟩ := List.forall_mem_cons.mp hAll
    exact Nat.max_le.mpr ⟨hFirst, ih hRest⟩

/-- Parts together are deeper than each by one at most. -/
theorem depthOf_le {depths : List Nat} {bound : Nat} (hAll : ∀ depth ∈ depths, depth ≤ bound) :
    depthOf depths ≤ bound + 1 := by
  match depths, hAll with
  | [], _ => exact Nat.zero_le _
  | [only], hAll => exact Nat.le_succ_of_le (hAll only List.mem_cons_self)
  | a :: b :: rest, hAll => exact Nat.succ_le_succ (foldr_max_le hAll)

end Nested

end SingleTable.Pattern
