/-!
# Hexadecimal numbers

Hexadecimal digits and the numbers that runs of them denote.
-/

namespace SingleTable.Number

/-- The value of a hexadecimal digit. -/
def hexValue? (c : Char) : Option Nat :=
  if '0' ≤ c ∧ c ≤ '9' then some (c.toNat - 48)
  else if 'a' ≤ c ∧ c ≤ 'f' then some (c.toNat - 87)
  else if 'A' ≤ c ∧ c ≤ 'F' then some (c.toNat - 55)
  else none

/-- The number that hexadecimal digits denote. -/
def natOfHex? (digits : List Char) : Option Nat :=
  digits.foldlM (fun acc c => (hexValue? c).map (acc * 16 + ·)) 0

@[simp]
theorem natOfHex?_nil : natOfHex? [] = some 0 := rfl

end SingleTable.Number
