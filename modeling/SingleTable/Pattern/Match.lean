import SingleTable.Pattern.Reader
import SingleTable.Pattern.Search

/-!
# Matching with patterns and expressions

A pattern matches a text if a match of it is found anywhere in the text.  An
expression also tells the text of its named groups.
-/

namespace SingleTable

namespace Pattern

/-- The program of a pattern. -/
def program (pattern : Pattern) : Program :=
  (Program.ofPattern pattern 0).1

/-- The pattern is found in the text. -/
def isMatch (pattern : Pattern) (text : List Char) : Bool :=
  (pattern.program.search text).isSome

/-- The largest size of an expression whose repetitions are unrolled, in bytes. -/
def maxSize : Nat := 10 <<< 20

/-- An estimate of the bytes that the ranges of a set take. -/
def CharSet.extent : CharSet → Nat
  | .none => 0
  | .range _ high => if high < 128 then 8 else 48
  | .space => 400
  | .word => 54000
  | .decimal => 4000
  | .having property => 48 * property.stretchCount
  | .union a b => a.extent + b.extent
  | .inter a b => max a.extent b.extent
  | .diff a b => max a.extent b.extent
  | .compl a => a.extent + 360
  | .anyCase a => 2 * a.extent

/-- The bytes of a set: a state for every byte of a single character, or an estimate. -/
def CharSet.size : CharSet → Nat
  | .range low high =>
    if low = high then 32 * (Char.ofNat low).utf8Size else 64 + (CharSet.range low high).extent
  | set => 64 + set.extent

/-- The bytes of a pattern, when repetitions are unrolled. -/
def size : Pattern → Nat
  | .empty => 32
  | .one set => set.size
  | .look _ => 32
  | .group _ body => body.size + 64
  | .seq first second => first.size + second.size
  | .alt first second => first.size + second.size + 40
  | .repetition body least (some most) _ =>
    if most = 0 then 32 else body.size * most + 40 * (most - least) + 32
  | .repetition body least none _ => body.size * max 1 least + 40

/-- What a match of an expression captured: the text of a group, if the group took part. -/
structure Captures where
  marks : Marks
  names : List (String × Nat)
  text : List Char

/-- The text of a named group. -/
def Captures.named? (captures : Captures) (name : String) : Option String := do
  let index ← captures.names.lookup name
  let start ← captures.marks.lookup (2 * index)
  let stop ← captures.marks.lookup (2 * index + 1)
  some (String.ofList ((captures.text.drop start).take (stop - start)))

/-- The first match of an expression in a text. -/
def Expression.captures? (expression : Expression) (text : String) : Option Captures :=
  (expression.pattern.program.search text.toList).map fun marks =>
    ⟨marks, expression.names, text.toList⟩

/-- The expression that a text denotes, unless it is too large to search with. -/
def Expression.compile? (text : String) : Option Expression :=
  match Expression.ofText? text with
  | some expression => if expression.pattern.size ≤ maxSize then some expression else none
  | none => none

end Pattern

end SingleTable
