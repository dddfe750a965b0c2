import SingleTable.Number.Decimal

/-!
# JSON numbers

What a JSON number denotes.  A whole number is one without point and exponent,
and is taken exactly.  Any other number is read with the speed of a single
scaling: as many digits as fit into 64 bits are collected, the collected number
is rounded to a double, and it is multiplied or divided by a power of ten.  The
result can differ from the nearest double in its last place.
-/

namespace SingleTable.Json

open Number

/-- A JSON number in parts. -/
structure Numeral where
  negative : Bool
  whole : List Char
  fraction : Option (List Char)
  exponent : Option (Bool × List Char)
deriving DecidableEq

namespace Numeral

/-- The parts of a JSON number. -/
def ofLiteral (literal : String) : Numeral :=
  let text := literal.toList
  let negative := text.head? == some '-'
  let body := if negative then text.drop 1 else text
  let whole := body.takeWhile isDigit
  let afterWhole := body.dropWhile isDigit
  let (fraction, afterFraction) : Option (List Char) × List Char := match afterWhole with
    | '.' :: rest => (some (rest.takeWhile isDigit), rest.dropWhile isDigit)
    | rest => (none, rest)
  let exponent : Option (Bool × List Char) := match afterFraction with
    | _ :: rest => some (readSign rest)
    | [] => none
  { negative, whole, fraction, exponent }

/-- The largest number that 64 bits hold. -/
def maxWord : Nat := 1 <<< 64 - 1

/-- The whole number that is denoted, if the number is written as one that fits
into 64 bits.  Zero with a minus is not. -/
def whole? (n : Numeral) : Option Int :=
  if n.fraction.isSome || n.exponent.isSome then none
  else
    let size := natOfDigits n.whole
    if n.negative then
      if 0 < size ∧ size ≤ 1 <<< 63 then some (-(size : Int)) else none
    else if size ≤ maxWord then some size else none

/-- Collect leading digits while the number fits into 64 bits; with the digits left over. -/
def collect (start : Nat) : List Char → Nat × List Char
  | [] => (start, [])
  | c :: rest =>
    let next := start * 10 + digitValue c
    if next ≤ maxWord then collect next rest else (start, c :: rest)

/-- The collected digits and the power of ten that scales them. -/
def collected (n : Numeral) : Nat × Int :=
  let (size, left) := collect 0 n.whole
  let fraction := n.fraction.getD []
  let (size, dropped) := collect size fraction
  (size, (left.length : Int) - (fraction.length - dropped.length : Nat))

/-- The largest written exponent that is counted. -/
def maxExponent : Nat := 1 <<< 31 - 1

/-- The power of ten with the written exponent counted in, kept within 32 bits. -/
def scale (n : Numeral) (start : Int) : Int :=
  match n.exponent with
  | none => start
  | some (negative, digits) =>
    let size : Int := natOfDigits digits
    let sum := if negative then start - size else start + size
    max (-2147483648) (min 2147483647 sum)

/-- Product of a finite double and a power of ten that is rounded first. -/
def timesPower (size : Magnitude) (power : Nat) : Option Magnitude := do
  let factor ← Magnitude.nearest (Nat.pow 10 power) 1
  Magnitude.nearest (size.units * factor.units) (1 <<< 2148)

/-- Quotient of a finite double and a power of ten that is rounded first. -/
def overPower (size : Magnitude) (power : Nat) : Magnitude :=
  match Magnitude.nearest (Nat.pow 10 power) 1 with
  | some divisor => (Magnitude.nearest size.units divisor.units).getD .zero
  | none => .zero

/-- A magnitude scaled by a power of ten.  Small powers are reached by dividing
by `10 ^ 308` first; three times suffice to reach zero.  Nothing is given
beyond the largest finite double. -/
def scaled (size : Magnitude) (power : Int) : Option Magnitude :=
  if 0 ≤ power then
    if power ≤ 308 then timesPower size power.toNat
    else if size.code = 0 then some .zero else none
  else
    let below := (-power).toNat
    if below ≤ 308 then some (overPower size below)
    else
      let steps := (below - 1) / 308
      let reduced := (List.range (min steps 3)).foldl (fun m _ => overPower m 308) size
      if 3 < steps then some .zero else some (overPower reduced (below - 308 * steps))

/-- The magnitude that is denoted, if a finite double can hold it. -/
def magnitude? (n : Numeral) : Option Magnitude :=
  let (size, start) := n.collected
  match n.exponent with
  | some (negative, digits) =>
    if maxExponent < natOfDigits digits then
      if size = 0 || negative then some .zero else none
    else do scaled (← Magnitude.nearest size 1) (n.scale start)
  | none => do scaled (← Magnitude.nearest size 1) start

/-- The double that is denoted, if a finite one can hold it. -/
def double? (n : Numeral) : Option Double :=
  n.magnitude?.map (.finite n.negative)

end Numeral

/-- The number can be read at all: it is within the range of doubles. -/
def numberInRange (literal : String) : Bool :=
  (Numeral.ofLiteral literal).double?.isSome

end SingleTable.Json
