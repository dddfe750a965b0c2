import SingleTable.Number.Hexadecimal
import SingleTable.Number.Whole

/-!
# JSON tokens

A JSON text is cut into punctuation marks, words, numbers and strings.  The first
character run that is none of these becomes the token `bad`, after which nothing
follows.  The scanners give the length of what they recognise.
-/

namespace SingleTable.Json

/-- A token.  A string without text holds half of a surrogate pair. -/
inductive Token where
  | beginArray
  | endArray
  | beginObject
  | endObject
  | comma
  | colon
  | null
  | bool (value : Bool)
  | number (literal : String)
  | string (text : Option String)
  | bad
deriving DecidableEq

namespace Token

open Number

/-- JSON white space. -/
def isGap (c : Char) : Bool :=
  c == ' ' || c == '\n' || c == '\t' || c == '\r'

/-- The character of a one-letter escape. -/
def shortEscape? (c : Char) : Option Char :=
  if c = '"' ∨ c = '\\' ∨ c = '/' then some c
  else if c = 'b' then some '\x08'
  else if c = 'f' then some '\x0c'
  else if c = 'n' then some '\n'
  else if c = 'r' then some '\r'
  else if c = 't' then some '\t'
  else none

/-- The code units of a string up to its closing quote, and the length with the
quote.  A character stands for its code point, an escape for its number. -/
def stringUnits? : List Char → Option (List Nat × Nat)
  | [] => none
  | '"' :: _ => some ([], 1)
  | '\\' :: 'u' :: a :: b :: c :: d :: rest => do
    let unit ← natOfHex? [a, b, c, d]
    let (units, length) ← stringUnits? rest
    some (unit :: units, length + 6)
  | '\\' :: c :: rest => do
    let escaped ← shortEscape? c
    let (units, length) ← stringUnits? rest
    some (escaped.toNat :: units, length + 2)
  | c :: rest =>
    if c.toNat < 32 then none
    else do
      let (units, length) ← stringUnits? rest
      some (c.toNat :: units, length + 1)

/-- The text of code units: surrogates are joined in pairs, and none may be left over. -/
def textOfUnits? : List Nat → Option (List Char)
  | [] => some []
  | unit :: rest =>
    if 0xD800 ≤ unit ∧ unit < 0xDC00 then
      match rest with
      | low :: rest =>
        if 0xDC00 ≤ low ∧ low < 0xE000 then do
          let text ← textOfUnits? rest
          some (Char.ofNat (0x10000 + (unit - 0xD800) * 1024 + (low - 0xDC00)) :: text)
        else none
      | [] => none
    else if 0xDC00 ≤ unit ∧ unit < 0xE000 then none
    else do
      let text ← textOfUnits? rest
      some (Char.ofNat unit :: text)

/-- The length of a fraction part: none, or a point and at least one digit. -/
def fractionLength? : List Char → Option Nat
  | '.' :: rest =>
    let digits := rest.takeWhile isDigit
    if digits.isEmpty then none else some (digits.length + 1)
  | _ => some 0

/-- The length of an exponent part: none, or `e`, an optional sign and at least one digit. -/
def exponentLength? : List Char → Option Nat
  | [] => some 0
  | c :: rest =>
    if c = 'e' ∨ c = 'E' then
      let signs := (rest.take 1).takeWhile fun s => s == '+' || s == '-'
      let digits := (rest.drop signs.length).takeWhile isDigit
      if digits.isEmpty then none else some (1 + signs.length + digits.length)
    else some 0

/-- The length of a number: an optional minus, digits without a needless zero in
front, a fraction part and an exponent part. -/
def numberLength? (text : List Char) : Option Nat :=
  let signs := (text.take 1).takeWhile (· == '-')
  let digits := (text.drop signs.length).takeWhile isDigit
  if digits.isEmpty || (1 < digits.length && digits.head? == some '0') then none
  else do
    let whole := signs.length + digits.length
    let fraction ← fractionLength? (text.drop whole)
    let exponent ← exponentLength? (text.drop (whole + fraction))
    some (whole + fraction + exponent)

/-- The token at the front of a text that starts with neither white space nor
the end, and its length. -/
def scan (c : Char) (rest : List Char) : Token × Nat :=
  if c = '[' then (.beginArray, 1)
  else if c = ']' then (.endArray, 1)
  else if c = '\x7b' then (.beginObject, 1)
  else if c = '\x7d' then (.endObject, 1)
  else if c = ',' then (.comma, 1)
  else if c = ':' then (.colon, 1)
  else if c = '"' then
    match stringUnits? rest with
    | some (units, length) => (.string ((textOfUnits? units).map String.ofList), length + 1)
    | none => (.bad, 1)
  else if c = '-' ∨ isDigit c then
    match numberLength? (c :: rest) with
    | some length => (.number (String.ofList ((c :: rest).take length)), length)
    | none => (.bad, 1)
  else if c = 'n' ∧ rest.take 3 = "ull".toList then (.null, 4)
  else if c = 't' ∧ rest.take 3 = "rue".toList then (.bool true, 4)
  else if c = 'f' ∧ rest.take 4 = "alse".toList then (.bool false, 5)
  else (.bad, 1)

/-- The tokens of a text of which the first `skip` characters are already cut. -/
def cut : Nat → List Char → List Token
  | _, [] => []
  | skip + 1, _ :: rest => cut skip rest
  | 0, c :: rest =>
    if isGap c then cut 0 rest
    else
      match scan c rest with
      | (.bad, _) => [.bad]
      | (token, length) => token :: cut (length - 1) rest

/-- The tokens of a text. -/
def ofText (text : List Char) : List Token :=
  cut 0 text

end Token

end SingleTable.Json
