import SingleTable.Character.Property
import SingleTable.Text.CaseFold
import SingleTable.Text.WordChar

/-!
# Character sets

The sets of characters that a pattern can ask for: ranges, the named classes, the
characters with a property, and what set operations make of them.  Membership is decided by recursion on the
expression; no set is ever listed.
-/

namespace SingleTable.Pattern

/-- A set of characters, by code point. -/
inductive CharSet where
  | none
  | range (low high : Nat)
  | space
  | word
  | decimal
  | having (property : Character.Property)
  | union (a b : CharSet)
  | inter (a b : CharSet)
  | diff (a b : CharSet)
  | compl (a : CharSet)
  | anyCase (a : CharSet)
deriving DecidableEq, Repr

namespace CharSet

/-- The set of one character. -/
def single (c : Char) : CharSet := .range c.toNat c.toNat

/-- All characters. -/
def all : CharSet := .compl .none

/-- The union of ranges. -/
def ofRanges (ranges : List (Char × Char)) : CharSet :=
  ranges.foldr (fun range set => .union (.range range.1.toNat range.2.toNat) set) .none

/-- The union of sets. -/
def unions (sets : List CharSet) : CharSet :=
  sets.foldr .union .none

/-- The characters that are in one of two sets but not in both. -/
def symmDiff (a b : CharSet) : CharSet :=
  .union (.diff a b) (.diff b a)

/-- The code point is in the set.  `anyCase` holds the case variants of its members. -/
def containsCode : CharSet → Nat → Bool
  | .none, _ => false
  | .range low high, code => low ≤ code && code ≤ high
  | .space, code => Text.isSpace (Char.ofNat code)
  | .word, code => Text.isWord (Char.ofNat code)
  | .decimal, code => Text.isDecimal (Char.ofNat code)
  | .having property, code => property.holds code
  | .union a b, code => a.containsCode code || b.containsCode code
  | .inter a b, code => a.containsCode code && b.containsCode code
  | .diff a b, code => a.containsCode code && !b.containsCode code
  | .compl a, code => !a.containsCode code
  | .anyCase a, code =>
    a.containsCode code || (Text.caseVariants code).any fun variant => a.containsCode variant

/-- The character is in the set. -/
def contains (set : CharSet) (c : Char) : Bool :=
  set.containsCode c.toNat

@[simp]
theorem containsCode_none (code : Nat) : containsCode .none code = false := rfl

@[simp]
theorem containsCode_range (low high code : Nat) :
    containsCode (.range low high) code = (low ≤ code && code ≤ high) := rfl

@[simp]
theorem containsCode_union (a b : CharSet) (code : Nat) :
    containsCode (.union a b) code = (a.containsCode code || b.containsCode code) := rfl

@[simp]
theorem containsCode_diff (a b : CharSet) (code : Nat) :
    containsCode (.diff a b) code = (a.containsCode code && !b.containsCode code) := rfl

@[simp]
theorem containsCode_compl (a : CharSet) (code : Nat) :
    containsCode (.compl a) code = !a.containsCode code := rfl

@[simp]
theorem contains_all (c : Char) : all.contains c = true := rfl

theorem contains_single (c d : Char) : (single c).contains d = decide (c = d) := by
  simp only [contains, single, containsCode_range]
  by_cases hSame : c = d
  · simp [hSame]
  · have hNat : c.toNat ≠ d.toNat := fun hEq => hSame (Char.toNat_inj.mp hEq)
    have : ¬(c.toNat ≤ d.toNat ∧ d.toNat ≤ c.toNat) := by omega
    simpa [hSame] using this

end CharSet

end SingleTable.Pattern
