import SingleTable.Pattern.Escape
import SingleTable.Pattern.Nested

/-!
# Bracketed classes

The text of a class between square brackets: characters, ranges, escapes, named
ASCII classes, nested classes, and the operators `&&`, `--` and `~~`, which all
bind alike and from the left.  A class whose brackets start with `^` is negated;
a `]` at its start, and hyphens there, stand for themselves.
-/

namespace SingleTable.Pattern

/-- An operator between the parts of a class. -/
inductive ClassOp where
  | inter
  | diff
  | symmDiff
deriving DecidableEq

/-- The set an operator makes.  Where case is ignored its operands are folded first. -/
def ClassOp.apply (op : ClassOp) (flags : Flags) (a b : CharSet) : CharSet :=
  let a := flags.fold a
  let b := flags.fold b
  match op with
  | .inter => .inter a b
  | .diff => .diff a b
  | .symmDiff => .symmDiff a b

namespace Bracket

/-- An open bracket: whether it is negated, the operation that waits for its
right operand, and the items since then in reverse. -/
structure Level where
  negated : Bool
  pending : Option (ClassOp × Nested CharSet)
  items : List (Nested CharSet)

/-- The set of the items met so far. -/
def Level.value (level : Level) (flags : Flags) : Nested CharSet :=
  let items := Nested.ofParts CharSet.unions level.items.reverse
  match level.pending with
  | some (op, left) =>
    ⟨op.apply flags left.value items.value, max left.depth items.depth + 1⟩
  | none => items

/-- The set of a bracket at its end.  What is not ASCII cannot be asked for without
the classes of all scripts, so that a negated bracket has no set then. -/
def Level.close? (level : Level) (flags : Flags) : Option (Nested CharSet) :=
  if level.negated && !flags.unicode then none
  else some ((level.value flags).around (flags.foldAndNegate level.negated))

/-- Add an item. -/
def Level.add (level : Level) (item : Nested CharSet) : Level :=
  { level with items := item :: level.items }

/-- The class of a name between `[:` and `:]`. -/
def named? (name : List Char) : Option CharSet :=
  let letters : List (Char × Char) := [('A', 'Z'), ('a', 'z')]
  let digits : Char × Char := ('0', '9')
  if name = "alnum".toList then some (.ofRanges (digits :: letters))
  else if name = "alpha".toList then some (.ofRanges letters)
  else if name = "ascii".toList then some Flags.ascii
  else if name = "blank".toList then some (.ofRanges [('\t', '\t'), (' ', ' ')])
  else if name = "cntrl".toList then some (.union (.range 0 31) (.range 127 127))
  else if name = "digit".toList then some (.ofRanges [digits])
  else if name = "graph".toList then some (.ofRanges [('!', '~')])
  else if name = "lower".toList then some (.ofRanges [('a', 'z')])
  else if name = "print".toList then some (.ofRanges [(' ', '~')])
  else if name = "punct".toList then
    some (.ofRanges [('!', '/'), (':', '@'), ('[', '\x60'), ('\x7b', '~')])
  else if name = "space".toList then some Flags.asciiSpace
  else if name = "upper".toList then some (.ofRanges [('A', 'Z')])
  else if name = "word".toList then some Flags.asciiWord
  else if name = "xdigit".toList then some (.ofRanges [digits, ('A', 'F'), ('a', 'f')])
  else none

/-- A named class behind its opening bracket, whether it is negated, and its length
from there. -/
def readNamed? : List Char → Option (CharSet × Bool × Nat)
  | ':' :: rest =>
    let negated := rest.head? == some '^'
    let body := if negated then rest.drop 1 else rest
    let name := body.takeWhile (· != ':')
    match body.drop name.length with
    | ':' :: ']' :: _ => do
      let set ← named? name
      some (set, negated, name.length + 3 + (if negated then 1 else 0))
    | _ => none
  | _ => none

/-- A level for the text behind an opening bracket, and the length of its head:
the negation mark, and hyphens or a bracket that stand for themselves. -/
def openLevel (flags : Flags) (text : List Char) : Level × Nat :=
  let gap := flags.gapLength text
  let afterGap := text.drop gap
  let negated := afterGap.head? == some '^'
  let head := if negated then 1 else 0
  let headGap := if negated then flags.gapLength (afterGap.drop 1) else 0
  let body := afterGap.drop (head + headGap)
  let (hyphens, length) := leadingHyphens flags body body.length
  let level : Level :=
    { negated, pending := none, items := List.replicate hyphens (.leaf (.single '-')) }
  let start := gap + head + headGap + length
  if hyphens = 0 && (body.head? == some ']') then (level.add (.leaf (.single ']')), start + 1)
  else (level, start)
where
  /-- The number of leading hyphens, and their length with the gaps behind them. -/
  leadingHyphens (flags : Flags) (text : List Char) : Nat → Nat × Nat
    | 0 => (0, 0)
    | bound + 1 =>
      match text with
      | '-' :: rest =>
        let gap := flags.gapLength rest
        let (count, length) := leadingHyphens flags (rest.drop gap) bound
        (count + 1, 1 + gap + length)
      | _ => (0, 0)

/-- One character or escape of a class, and its length. -/
def item? (flags : Flags) : List Char → Option (Atom × Nat)
  | [] => none
  | '\\' :: rest => (Atom.escape? flags rest).map fun (atom, length) => (atom, length + 1)
  | c :: _ => some (.char c, 1)

/-- The set of an atom, if it has one. -/
def setOf? (flags : Flags) : Atom → Option CharSet
  | .char c => if flags.unicode || c.toNat < 128 then some (.single c) else none
  | .set set => some set
  | .look _ => none

/-- The character by which a hyphen is judged: the one behind it.  In verbose mode
white space does not count there, nor does the first number sign, though what follows
that sign in its line does. -/
def behindHyphen? (flags : Flags) (text : List Char) : Option Char :=
  if flags.verbose then
    match text.filter fun c => !Text.isSpace c with
    | '#' :: c :: _ => some c
    | ['#'] => text.head?
    | c :: _ => some c
    | [] => text.head?
  else text.head?

/-- A character, an escape or a range at the front of a text, and its length.  A
hyphen in front of another hyphen or of a closing bracket makes no range. -/
def range? (flags : Flags) (text : List Char) : Option (CharSet × Nat) := do
  let (low, lowLength) ← item? flags text
  let gap := flags.gapLength (text.drop lowLength)
  let single : Option (CharSet × Nat) := do some (← setOf? flags low, lowLength + gap)
  match text.drop (lowLength + gap) with
  | '-' :: more =>
    let behind := behindHyphen? flags more
    if behind == some ']' || behind == some '-' then single
    else do
      let gapBehind := flags.gapLength more
      let (high, highLength) ← item? flags (more.drop gapBehind)
      match low, high with
      | .char a, .char b =>
        if a ≤ b && (flags.unicode || b.toNat < 128) then
          some (.range a.toNat b.toNat, lowLength + gap + 1 + gapBehind + highLength)
        else none
      | _, _ => none
  | _ => single

/-- Read a class.  The first `skip` characters are read already; `length` counts
all of them.  `outer` are the levels around `level`. -/
def read (flags : Flags) (level : Level) (outer : List Level) (length : Nat) :
    Nat → List Char → Option (Nested CharSet × Nat)
  | _, [] => none
  | skip + 1, _ :: rest => read flags level outer (length + 1) skip rest
  | 0, c :: rest =>
    let gap := flags.gapLength (c :: rest)
    if 0 < gap then read flags level outer (length + 1) (gap - 1) rest
    else if c = '[' then
      match readNamed? rest with
      | some (set, negated, size) =>
        if negated && !flags.unicode then none
        else
          let item := Nested.leaf (flags.foldAndNegate negated set)
          read flags (level.add item) outer (length + 1) size rest
      | none =>
        let (inner, size) := openLevel flags rest
        read flags inner (level :: outer) (length + 1) size rest
    else if c = ']' then
      match level.close? flags, outer with
      | none, _ => none
      | some item, [] => some (item, length + 1)
      | some item, enclosing :: further =>
        read flags (enclosing.add item) further (length + 1) 0 rest
    else
      let operator : Option ClassOp :=
        if rest.head? == some c then
          if c = '&' then some .inter
          else if c = '-' then some .diff
          else if c = '~' then some .symmDiff
          else none
        else none
      match operator with
      | some op =>
        let next : Level :=
          { level with pending := some (op, level.value flags), items := [] }
        read flags next outer (length + 1) 1 rest
      | none =>
        match range? flags (c :: rest) with
        | some (set, size) =>
          read flags (level.add (.leaf set)) outer (length + 1) (size - 1) rest
        | none => none

/-- The class behind an opening bracket, and its length without that bracket. -/
def ofText? (flags : Flags) (text : List Char) : Option (Nested CharSet × Nat) :=
  let (level, size) := openLevel flags text
  read flags level [] 0 size text

end Bracket

end SingleTable.Pattern
