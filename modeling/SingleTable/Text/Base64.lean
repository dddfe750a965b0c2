/-!
# Base64

Three bytes are written as four letters of a sixty-four letter alphabet, and a
shorter last group is filled up with `=`.  Reading is strict: padding must be
there and the bits it cuts off must be zero, so a byte string has one text.
-/

namespace SingleTable.Text.Base64

/-- The letter of a six-bit number. -/
def letter (n : Nat) : Char :=
  if n < 26 then Char.ofNat (65 + n)
  else if n < 52 then Char.ofNat (71 + n)
  else if n < 62 then Char.ofNat (n - 4)
  else if n = 62 then '+'
  else '/'

/-- The six-bit number of a letter. -/
def letterValue? (c : Char) : Option Nat :=
  if 'A' ≤ c ∧ c ≤ 'Z' then some (c.toNat - 65)
  else if 'a' ≤ c ∧ c ≤ 'z' then some (c.toNat - 71)
  else if '0' ≤ c ∧ c ≤ '9' then some (c.toNat + 4)
  else if c = '+' then some 62
  else if c = '/' then some 63
  else none

/-- The letters of a byte string. -/
def encode : List UInt8 → List Char
  | [] => []
  | [a] =>
    let n := a.toNat * 16
    [letter (n / 64), letter (n % 64), '=', '=']
  | [a, b] =>
    let n := (a.toNat * 256 + b.toNat) * 4
    [letter (n / 4096), letter (n / 64 % 64), letter (n % 64), '=']
  | a :: b :: c :: rest =>
    let n := (a.toNat * 256 + b.toNat) * 256 + c.toNat
    letter (n / 262144) :: letter (n / 4096 % 64) :: letter (n / 64 % 64) ::
      letter (n % 64) :: encode rest

/-- The bytes of a last group of two letters and two padding marks. -/
def decodeOne? (a b : Char) : Option (List UInt8) := do
  let n := (← letterValue? a) * 64 + (← letterValue? b)
  if n % 16 = 0 then some [UInt8.ofNat (n / 16)] else none

/-- The bytes of a last group of three letters and one padding mark. -/
def decodeTwo? (a b c : Char) : Option (List UInt8) := do
  let n := ((← letterValue? a) * 64 + (← letterValue? b)) * 64 + (← letterValue? c)
  if n % 4 = 0 then some [UInt8.ofNat (n / 1024), UInt8.ofNat (n / 4 % 256)] else none

/-- The bytes of a full group. -/
def decodeThree? (a b c d : Char) : Option (List UInt8) := do
  let n := (((← letterValue? a) * 64 + (← letterValue? b)) * 64 + (← letterValue? c)) * 64 +
    (← letterValue? d)
  some [UInt8.ofNat (n / 65536), UInt8.ofNat (n / 256 % 256), UInt8.ofNat (n % 256)]

/-- The byte string that letters denote. -/
def decode? : List Char → Option (List UInt8)
  | [] => some []
  | [a, b, '=', '='] => decodeOne? a b
  | [a, b, c, '='] => decodeTwo? a b c
  | a :: b :: c :: d :: rest => do
    let bytes ← decodeThree? a b c d
    let more ← decode? rest
    some (bytes ++ more)
  | _ => none

end SingleTable.Text.Base64
