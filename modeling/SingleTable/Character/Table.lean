import SingleTable.Number.Hexadecimal
import SingleTable.Number.Whole
import SingleTable.Text.Space

/-!
# Tables of code points

The properties of characters are written down as texts of words.  There are two
kinds of table: stretches, which label all code points from zero on, and ranges,
which list the code points of a set.  `Stretches.find?_cons` says how a label is
looked up; ranges are searched with `Text.inRanges`.
-/

namespace SingleTable.Character

/-- The pieces of a text between the characters that part it. -/
def pieces (parts : Char → Bool) (text : List Char) : List (List Char) :=
  (text.splitBy fun a b => parts a == parts b).filter fun piece => !piece.any parts

/-- The words of a text, parted by blanks and line ends. -/
def words (text : String) : List (List Char) :=
  pieces Char.isWhitespace text.toList

/-- Consecutive code points with one label: the code point behind them, and the label. -/
structure Stretch (α : Type) where
  stop : Nat
  label : α

/-- Stretches that follow one another, the first one from code point zero on. -/
abbrev Stretches (α : Type) := List (Stretch α)

namespace Stretches

variable {α : Type}

/-- The stretches that words denote from a code point on.  A word is a label of
letters and the number of code points that carry it, which is left out if it is one. -/
def ofWords (read : List Char → α) (start : Nat) : List (List Char) → Stretches α
  | [] => []
  | word :: rest =>
    let label := word.takeWhile Char.isAlpha
    let digits := word.drop label.length
    let stop := start + if digits.isEmpty then 1 else Number.natOfDigits digits
    ⟨stop, read label⟩ :: ofWords read stop rest

/-- The stretches that a text denotes. -/
def ofText (read : List Char → α) (text : String) : Stretches α :=
  ofWords read 0 (words text)

/-- The label of a code point.  Code points behind the last stretch have none. -/
def find? (table : Stretches α) (code : Nat) : Option α :=
  (List.find? (fun stretch => code < stretch.stop) table).map Stretch.label

@[simp]
theorem find?_nil (code : Nat) : find? ([] : Stretches α) code = none := rfl

theorem find?_cons (stretch : Stretch α) (rest : Stretches α) (code : Nat) :
    find? (stretch :: rest) code =
      if code < stretch.stop then some stretch.label else find? rest code := by
  by_cases hInside : code < stretch.stop <;> simp [find?, hInside]

end Stretches

/-- A range of code points, written as its ends in hexadecimal with a hyphen
between them, or as a single code point. -/
def readRange (word : List Char) : Nat × Nat :=
  let first := word.takeWhile (· != '-')
  let last := word.drop (first.length + 1)
  let low := (Number.natOfHex? first).getD 0
  (low, if last.isEmpty then low else (Number.natOfHex? last).getD 0)

/-- The ranges that a text lists. -/
def ranges (text : String) : List (Nat × Nat) :=
  (words text).map readRange

end SingleTable.Character
