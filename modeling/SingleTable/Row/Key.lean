import SingleTable.Ordered.Entries
import SingleTable.Text.Lead

/-!
# Row keys

A key tells rows of one view apart: a partition text and, where the view has a
sort attribute, a sort text.  Keys are in ascending order by partition and then
by sort, and a key without a sort text comes before those with one.
-/

namespace SingleTable

/-- The key of a row under a view. -/
structure Key where
  partition : String
  sort : Option String
deriving DecidableEq, Repr, Inhabited

namespace Key

instance : Ord Key where
  compare := compareLex (compareOn Key.partition) (compareOn Key.sort)

theorem compare_def (a b : Key) :
    compare a b = (compare a.partition b.partition).then (compare a.sort b.sort) := rfl

instance : Std.TransOrd Key :=
  inferInstanceAs (Std.TransCmp (compareLex (compareOn Key.partition) (compareOn Key.sort)))

instance : Std.LawfulEqOrd Key where
  compare_self := Std.ReflCmp.compare_self
  eq_of_compare {a b} hSame := by
    rw [compare_def, Ordering.then_eq_eq] at hSame
    obtain ⟨partition, sort⟩ := a
    obtain ⟨otherPartition, otherSort⟩ := b
    simp only [Std.LawfulEqOrd.compare_eq_iff_eq] at hSame
    simp [hSame.1, hSame.2]

/-- The sort text starts with `lead`.  A missing sort text counts as empty. -/
def sortStarts (key : Key) (lead : String) : Bool :=
  Text.startsWith (key.sort.getD "") lead

/-- The key as it is shown. -/
def text (key : Key) : String :=
  match key.sort with
  | some sort => "(" ++ key.partition ++ ", " ++ sort ++ ")"
  | none => "(" ++ key.partition ++ ")"

@[simp]
theorem sortStarts_empty (key : Key) : key.sortStarts "" = true := by
  simp [sortStarts]

end Key

end SingleTable
