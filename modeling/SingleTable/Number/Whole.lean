/-!
# Decimal text of whole numbers

Printing of integers and the two ways in which the library reads them: any
digit run as a natural number, and a signed 64-bit integer.
-/

namespace SingleTable.Number

/-- An ASCII decimal digit. -/
def isDigit (c : Char) : Bool :=
  '0' ≤ c && c ≤ '9'

/-- The value of an ASCII decimal digit. -/
def digitValue (c : Char) : Nat :=
  c.toNat - '0'.toNat

/-- The number that a digit run denotes. -/
def natOfDigits (digits : List Char) : Nat :=
  digits.foldl (fun acc c => acc * 10 + digitValue c) 0

/-- The decimal digits of a natural number. -/
def natDigits (n : Nat) : List Char :=
  Nat.toDigits 10 n

/-- At least `width` digits, filled up with zeros on the left. -/
def paddedDigits (width n : Nat) : List Char :=
  let digits := natDigits n
  List.replicate (width - digits.length) '0' ++ digits

/-- The decimal text of an integer, with a sign only when it is negative. -/
def intDigits : Int → List Char
  | .ofNat n => natDigits n
  | .negSucc n => '-' :: natDigits (n + 1)

/-- The decimal text of an integer as a string. -/
def intText (i : Int) : String :=
  String.ofList (intDigits i)

/-- The smallest signed 64-bit integer. -/
def int64Min : Int := -9223372036854775808

/-- The largest signed 64-bit integer. -/
def int64Max : Int := 9223372036854775807

/-- A sign, where one is written: `true` for minus; and the rest of the text. -/
def readSign : List Char → Bool × List Char
  | '-' :: rest => (true, rest)
  | '+' :: rest => (false, rest)
  | text => (false, text)

/-- An integer written as an optional sign and at least one digit. -/
def readInt? (text : List Char) : Option Int :=
  let (negative, digits) := readSign text
  if digits.isEmpty || !digits.all isDigit then none
  else
    let n : Int := natOfDigits digits
    some (if negative then -n else n)

/-- A signed 64-bit integer: an optional sign, digits, and a value in range. -/
def readInt64? (text : List Char) : Option Int64 :=
  match readInt? text with
  | some n => if int64Min ≤ n ∧ n ≤ int64Max then some (Int64.ofInt n) else none
  | none => none

/-- The 64-bit integer nearest to an integer: values beyond the range stop at its ends. -/
def clampInt64 (n : Int) : Int64 :=
  if n < int64Min then Int64.ofInt int64Min
  else if int64Max < n then Int64.ofInt int64Max
  else Int64.ofInt n

end SingleTable.Number
