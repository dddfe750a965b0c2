import SingleTable.Text.Space

/-!
# Finding pieces of expressions

Expressions are not read by a grammar: a reader recognises one piece at the start
of a text, and `pieces` collects every piece of a text from left to right.  Text
between pieces is passed over.  All runs are maximal, so a reader never goes back.
-/

namespace SingleTable.Expression

/-- A reader takes a piece off the start of a text and gives the rest. -/
abbrev Reader (α : Type) := List Char → Option (α × List Char)

/-- A run of at least one character that `stops` does not hold for. -/
def run? (stops : Char → Bool) : Reader (List Char) := fun text =>
  let chars := text.takeWhile (!stops ·)
  if chars.isEmpty then none else some (chars, text.dropWhile (!stops ·))

/-- The text after a given start. -/
def literal? : List Char → List Char → Option (List Char)
  | [], text => some text
  | _ :: _, [] => none
  | c :: start, d :: text => if c = d then literal? start text else none

/-- The text after at least one white-space character. -/
def space? (text : List Char) : Option (List Char) :=
  if (text.head?.map Text.isSpace).getD false then some (Text.trimStart text) else none

/-- The text after a given start, with white space on both sides passed over. -/
def mark? (start text : List Char) : Option (List Char) :=
  (literal? start (Text.trimStart text)).map Text.trimStart

/-- The text after a given start that white space surrounds. -/
def word? (start text : List Char) : Option (List Char) := do
  space? (← literal? start (← space? text))

/-- The pieces of a text of which the first `skip` characters belong to a piece. -/
def piecesFrom {α : Type} (read : Reader α) : Nat → List Char → List α
  | _, [] => []
  | skip + 1, _ :: rest => piecesFrom read skip rest
  | 0, c :: rest =>
    match read (c :: rest) with
    | some (piece, left) => piece :: piecesFrom read (rest.length - left.length) rest
    | none => piecesFrom read 0 rest

/-- All pieces of a text, from left to right. -/
def pieces {α : Type} (read : Reader α) (text : List Char) : List α :=
  piecesFrom read 0 text

@[simp]
theorem pieces_nil {α : Type} (read : Reader α) : pieces read [] = [] := rfl

theorem pieces_cons_of_eq_none {α : Type} {read : Reader α} {c : Char} {rest : List Char}
    (hNone : read (c :: rest) = none) : pieces read (c :: rest) = pieces read rest := by
  simp [pieces, piecesFrom, hNone]

@[simp]
theorem literal?_append (start rest : List Char) : literal? start (start ++ rest) = some rest := by
  induction start with
  | nil => cases rest <;> rfl
  | cons c start ih => simp [literal?, ih]

theorem literal?_eq_some_iff {start text rest : List Char} :
    literal? start text = some rest ↔ text = start ++ rest := by
  induction start generalizing text with
  | nil => cases text <;> simp [literal?]
  | cons c start ih =>
    cases text with
    | nil => simp [literal?]
    | cons d text =>
      simp only [literal?]
      split
      · next hSame => simp [ih, hSame]
      · next hOther =>
        simp only [reduceCtorEq, List.cons_append, List.cons.injEq, false_iff, not_and]
        exact fun hBad => absurd hBad.symm hOther

end SingleTable.Expression
