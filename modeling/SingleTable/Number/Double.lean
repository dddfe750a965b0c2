import SingleTable.Number.Whole

/-!
# Binary floating point

Double-precision numbers as data: not a number, the two infinities, and signed
finite magnitudes.  A magnitude is its position in the ascending list of the
finite ones, which is also the bit pattern without the sign.  All magnitudes are
whole multiples of `2 ^ -1074`, so the arithmetic here is exact arithmetic on
natural numbers followed by one rounding.
-/

namespace SingleTable

/-- A finite magnitude, by its position among all finite magnitudes. -/
structure Magnitude where
  code : Nat
  bounded : code < 2047 <<< 52
deriving DecidableEq

namespace Magnitude

/-- Number of `2 ^ -1074` units in the magnitude. -/
def units (size : Magnitude) : Nat :=
  if size.code < 1 <<< 53 then size.code
  else (1 <<< 52 + size.code % 1 <<< 52) <<< (size.code >>> 52 - 1)

/-- The zero magnitude. -/
def zero : Magnitude := ⟨0, by decide⟩

instance : Inhabited Magnitude := ⟨zero⟩

/-- The magnitude nearest to `num / den`, a tie going to the even position.
There is none when the quotient lies beyond the largest finite magnitude. -/
def nearest (num den : Nat) : Option Magnitude :=
  let scaled := num <<< 1074
  let shift := Nat.log2 (scaled / den) - 52
  let step := den <<< shift
  let low := scaled / step
  let left := scaled % step
  let steps := if 2 * left > step || (2 * left == step && low % 2 == 1) then low + 1 else low
  let code := shift <<< 52 + steps
  if bounded : code < 2047 <<< 52 then some ⟨code, bounded⟩ else none

end Magnitude

/-- A double-precision floating-point number. -/
inductive Double where
  | nan
  | infinite (negative : Bool)
  | finite (negative : Bool) (size : Magnitude)
deriving DecidableEq

namespace Double

/-- Positive zero. -/
def zero : Double := .finite false .zero

instance : Inhabited Double := ⟨zero⟩

/-- Neither infinite nor not-a-number. -/
def isFinite : Double → Bool
  | .finite .. => true
  | _ => false

/-- One of the two zeros. -/
def isZero : Double → Bool
  | .finite _ size => size.code == 0
  | _ => false

/-- Numerical equality: the zeros are equal, and not-a-number equals nothing. -/
def same : Double → Double → Bool
  | .nan, _ => false
  | _, .nan => false
  | .infinite a, .infinite b => a == b
  | .finite a x, .finite b y => x == y && (a == b || x.code == 0)
  | _, _ => false

/-- Rounding of a signed quotient to the nearest double. -/
def ofRatio (negative : Bool) (num den : Nat) : Double :=
  match Magnitude.nearest num den with
  | some size => .finite negative size
  | none => .infinite negative

/-- The double nearest to an integer. -/
def ofInt (i : Int) : Double :=
  ofRatio (i < 0) i.natAbs 1

/-- The double nearest to `digits * 10 ^ exponent` with a sign.

Exponents far outside the range of doubles are answered without computing the
power: the quotient is then below half a unit or above every finite magnitude. -/
def ofDecimal (negative : Bool) (digits : Nat) (exponent : Int) : Double :=
  if digits = 0 then .finite negative .zero
  else if exponent > 400 then .infinite negative
  else if exponent < -(Nat.log2 digits + 1100 : Int) then .finite negative .zero
  else if 0 ≤ exponent then ofRatio negative (digits * Nat.pow 10 exponent.toNat) 1
  else ofRatio negative digits (Nat.pow 10 (-exponent).toNat)

/-- The whole part as a 64-bit integer: values beyond the range stop at its
ends, and not-a-number gives zero. -/
def truncate : Double → Int64
  | .nan => 0
  | .infinite negative => Int64.ofInt (if negative then Number.int64Min else Number.int64Max)
  | .finite negative size =>
    let whole := size.units >>> 1074
    Number.clampInt64 (if negative then -(whole : Int) else whole)

@[simp]
theorem isFinite_nan : isFinite .nan = false := rfl

@[simp]
theorem isFinite_infinite (negative : Bool) : isFinite (.infinite negative) = false := rfl

@[simp]
theorem isFinite_finite (negative : Bool) (size : Magnitude) :
    isFinite (.finite negative size) = true := rfl

theorem not_same_nan (x : Double) : same x .nan = false := by
  cases x <;> rfl

end Double

end SingleTable
