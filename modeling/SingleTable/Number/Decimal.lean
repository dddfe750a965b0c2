import SingleTable.Number.Double

/-!
# Decimal text of floating-point numbers

Reading accepts an optional sign, digits with at most one point and at least one
digit, and an optional exponent; or one of the words `inf`, `infinity` and `nan`
in any case.  The nearest double is taken.

Printing chooses the fewest digits that read back to the same double, and of
those the nearest to it; two equally near candidates give the larger.  The
layout of the digits is a `DecimalLayout`.
-/

namespace SingleTable

namespace Number

/-- The text in lower-case ASCII. -/
def asciiLower (text : List Char) : List Char :=
  text.map Char.toLower

/-- An exponent part: nothing, or `e` with an optional sign and at least one digit. -/
def readExponent? : List Char → Option Int
  | [] => some 0
  | c :: rest => if c = 'e' ∨ c = 'E' then readInt? rest else none

/-- Unsigned decimal text as digits and the power of ten they are scaled by. -/
def readDecimal? (text : List Char) : Option (Nat × Int) :=
  let whole := text.takeWhile isDigit
  let afterWhole := text.dropWhile isDigit
  let (fraction, rest) := match afterWhole with
    | '.' :: more => (more.takeWhile isDigit, more.dropWhile isDigit)
    | more => ([], more)
  if whole.isEmpty && fraction.isEmpty then none
  else
    match readExponent? rest with
    | some exponent => some (natOfDigits (whole ++ fraction), exponent - fraction.length)
    | none => none

end Number

namespace Double

open Number

/-- The double that a text denotes. -/
def ofText? (text : List Char) : Option Double :=
  let (negative, body) := readSign text
  match readDecimal? body with
  | some (digits, exponent) => some (ofDecimal negative digits exponent)
  | none =>
    let word := asciiLower body
    if word = "nan".toList then some .nan
    else if word = "inf".toList ∨ word = "infinity".toList then some (.infinite negative)
    else none

end Double

/-- Decimal digits behind the point of `0.d₁d₂…` and the power of ten that scales it. -/
structure DecimalDigits where
  digits : List Char
  point : Int
deriving DecidableEq, Repr

namespace Magnitude

open Number

/-- `num / den` is at least `10 ^ exponent`. -/
private def atLeastPower (num den : Nat) (exponent : Int) : Bool :=
  if 0 ≤ exponent then den * Nat.pow 10 exponent.toNat ≤ num
  else den ≤ num * Nat.pow 10 (-exponent).toNat

/-- The position `p` with `10 ^ (p - 1) ≤ num / den < 10 ^ p`, from the binary
length of the quotient and two comparisons. -/
def decimalPoint (size : Magnitude) : Int :=
  let guess : Int := (((Nat.log2 size.units : Int) - 1074) * 30103).fdiv 100000
  if atLeastPower size.units (1 <<< 1074) (guess + 1) then guess + 2
  else if atLeastPower size.units (1 <<< 1074) guess then guess + 1
  else guess

/-- The digits, as a number, that read back to the magnitude on the grid of
multiples of `10 ^ exponent`: the one of the two neighbours that does, the
nearer if both do, and the larger if they are equally near. -/
def onGrid? (size : Magnitude) (exponent : Int) : Option Nat :=
  let num := if 0 ≤ exponent then size.units else size.units * Nat.pow 10 (-exponent).toNat
  let den := if 0 ≤ exponent then Nat.pow 10 exponent.toNat <<< 1074 else 1 <<< 1074
  let low := num / den
  let readsBack (digits : Nat) : Bool :=
    Double.ofDecimal false digits exponent == .finite false size
  match readsBack low, readsBack (low + 1) with
  | true, true => if 2 * (num % den) < den then some low else some (low + 1)
  | true, false => some low
  | false, true => some (low + 1)
  | false, false => none

/-- The first of the grids with one to seventeen digits that holds a number
reading back; every digit of the exact value when none does. -/
def fewestDigits (size : Magnitude) : Nat × Int :=
  let point := size.decimalPoint
  let hit := (List.range 17).findSome? fun (n : Nat) =>
    let exponent := point - (n + 1 : Int)
    (size.onGrid? exponent).map fun digits => (digits, exponent)
  hit.getD (size.units * Nat.pow 5 1074, -1074)

/-- The fewest digits that read back, without zeros at their end. -/
def shortest (size : Magnitude) : DecimalDigits :=
  let (digits, exponent) := size.fewestDigits
  let all := natDigits digits
  ⟨(all.reverse.dropWhile (· == '0')).reverse, exponent + all.length⟩

end Magnitude

/-- Decisions of a layout for decimal digits: the points between which digits are
written positionally, and the words for the values that are not finite. -/
structure DecimalLayout where
  lowestPoint : Int
  highestPoint : Int
  nan : String
  infinity : String

namespace DecimalLayout

/-- Digits with a point in them and at least one digit on either side of it. -/
def positional (d : DecimalDigits) : List Char :=
  if d.point ≤ 0 then
    "0.".toList ++ List.replicate (-d.point).toNat '0' ++ d.digits
  else
    let whole := d.point.toNat
    if d.digits.length ≤ whole then
      d.digits ++ List.replicate (whole - d.digits.length) '0' ++ ".0".toList
    else d.digits.take whole ++ '.' :: d.digits.drop whole

/-- One digit, the others behind a point, and an exponent. -/
def scientific (d : DecimalDigits) : List Char :=
  let fraction := match d.digits.drop 1 with
    | [] => []
    | more => '.' :: more
  d.digits.take 1 ++ fraction ++ 'e' :: Number.intDigits (d.point - 1)

/-- The text of a magnitude. -/
def magnitude (layout : DecimalLayout) (size : Magnitude) : List Char :=
  if size.code = 0 then "0.0".toList
  else
    let d := size.shortest
    if layout.lowestPoint ≤ d.point && d.point ≤ layout.highestPoint then positional d
    else scientific d

/-- The text of a double. -/
def render (layout : DecimalLayout) : Double → List Char
  | .nan => layout.nan.toList
  | .infinite negative => (if negative then ['-'] else []) ++ layout.infinity.toList
  | .finite negative size => (if negative then ['-'] else []) ++ layout.magnitude size

end DecimalLayout

/-- Floats are written positionally from `0.0001` up to sixteen digits before the
point, and always with a fractional part. -/
def plainLayout : DecimalLayout where
  lowestPoint := -3
  highestPoint := 16
  nan := "NaN"
  infinity := "inf"

/-- The text of a double in the plain layout. -/
def Double.text (x : Double) : String :=
  String.ofList (plainLayout.render x)

end SingleTable
