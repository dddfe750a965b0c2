import SingleTable.Calendar.Instant
import SingleTable.Text.Space

/-!
# Reading dates and instants

Two notations of an instant are read.  The strict one is the internet timestamp:
four-digit year, two-digit fields, and an offset.  The relaxed one has no offset
and takes fields with fewer digits, white space before a field, and signed years
of any length; date and time are separated by `T` or by optional white space.
-/

namespace SingleTable.Calendar

open Number Text

/-- Up to `most` digits, and at least `least` of them. -/
def readDigits? (least most : Nat) (text : List Char) : Option (Nat × List Char) :=
  let digits := (text.take most).takeWhile isDigit
  if least ≤ digits.length && 0 < digits.length then
    some (natOfDigits digits, text.drop digits.length)
  else none

/-- One given character. -/
def readChar? (c : Char) : List Char → Option (List Char)
  | [] => none
  | head :: rest => if head = c then some rest else none

/-- A fraction of a second behind its point, in nanoseconds: one digit or more,
of which the first nine count. -/
def readFraction? (text : List Char) : Option (Nat × List Char) :=
  let digits := text.takeWhile isDigit
  if digits.isEmpty then none
  else
    let counted := digits.take 9
    some (natOfDigits counted * Nat.pow 10 (9 - counted.length), text.dropWhile isDigit)

/-- An optional fraction of a second with its point. -/
def readOptionalFraction? : List Char → Option (Nat × List Char)
  | '.' :: rest => readFraction? rest
  | text => some (0, text)

/-- An offset from universal time in seconds: `Z`, or a sign, hours and minutes. -/
def readOffset? : List Char → Option (Int × List Char)
  | [] => none
  | c :: rest =>
    if c = 'Z' ∨ c = 'z' then some (0, rest)
    else if c = '+' ∨ c = '-' ∨ c = '−' then do
      let (hours, rest) ← readDigits? 2 2 rest
      let rest ← readChar? ':' rest
      let (minutes, rest) ← readDigits? 2 2 rest
      if minutes < 60 ∧ hours < 24 then
        let size : Int := hours * 3600 + minutes * 60
        some (if c = '+' then size else -size, rest)
      else none
    else none

/-- The instant of a date and a time of day at an offset.  Second 60 is a leap second. -/
def instantOf? (date : Date) (hour minute second nanos : Nat) (offset : Int) : Option Instant :=
  if hour < 24 ∧ minute < 60 ∧ second ≤ 60 then
    let shown := if second = 60 then 59 else second
    let extra := if second = 60 then nanosPerSecond else 0
    Instant.of? (date.dayNumber * 86400 + (hour * 3600 + minute * 60 + shown : Nat) - offset)
      (nanos + extra)
  else none

/-- An instant in the strict notation. -/
def readStrict? (text : List Char) : Option Instant := do
  let (year, rest) ← readDigits? 4 4 text
  let rest ← readChar? '-' rest
  let (month, rest) ← readDigits? 2 2 rest
  let rest ← readChar? '-' rest
  let (day, rest) ← readDigits? 2 2 rest
  let rest ← match rest with
    | c :: rest => if c = 'T' ∨ c = 't' ∨ c = ' ' then some rest else none
    | [] => none
  let (hour, rest) ← readDigits? 2 2 rest
  let rest ← readChar? ':' rest
  let (minute, rest) ← readDigits? 2 2 rest
  let rest ← readChar? ':' rest
  let (second, rest) ← readDigits? 2 2 rest
  let (nanos, rest) ← readOptionalFraction? rest
  let (offset, rest) ← readOffset? rest
  if rest.isEmpty then
    let date ← Date.of? year month day
    instantOf? date hour minute second nanos offset
  else none

/-- A field of one or two digits after optional white space. -/
def readField? (text : List Char) : Option (Nat × List Char) :=
  readDigits? 1 2 (trimStart text)

/-- A year after optional white space: up to four digits, or a sign and any number of digits. -/
def readYear? (text : List Char) : Option (Int × List Char) :=
  match trimStart text with
  | '-' :: rest => do
    let (year, rest) ← readDigits? 1 rest.length rest
    some (-(year : Int), rest)
  | '+' :: rest => do
    let (year, rest) ← readDigits? 1 rest.length rest
    some ((year : Int), rest)
  | text => do
    let (year, rest) ← readDigits? 1 4 text
    some ((year : Int), rest)

/-- A date at the front of a text, in the relaxed notation. -/
def readDatePart? (text : List Char) : Option (Date × List Char) := do
  let (year, rest) ← readYear? text
  let rest ← readChar? '-' rest
  let (month, rest) ← readField? rest
  let rest ← readChar? '-' rest
  let (day, rest) ← readField? rest
  let date ← Date.of? year month day
  some (date, rest)

/-- A time of day up to the end of the text, on a given date, in the relaxed notation. -/
def readTimePart? (date : Date) (text : List Char) : Option Instant := do
  let (hour, rest) ← readField? text
  let rest ← readChar? ':' rest
  let (minute, rest) ← readField? rest
  let rest ← readChar? ':' rest
  let (second, rest) ← readField? rest
  let (nanos, rest) ← readOptionalFraction? rest
  if rest.isEmpty then instantOf? date hour minute second nanos 0 else none

/-- An instant in the relaxed notation: `T` or optional white space before the time. -/
def readRelaxed? (text : List Char) : Option Instant := do
  let (date, rest) ← readDatePart? text
  let withT := (readChar? 'T' rest).bind (readTimePart? date)
  withT <|> readTimePart? date rest

end SingleTable.Calendar

namespace SingleTable

open Calendar

/-- A date, with white space around it ignored. -/
def Date.ofText? (text : String) : Option Date :=
  match readDatePart? (Text.trim text.toList) with
  | some (date, []) => some date
  | _ => none

/-- An instant, with white space around it ignored: the strict notation, else
the relaxed one before any number of `Z`. -/
def Instant.ofText? (text : String) : Option Instant :=
  let trimmed := Text.trim text.toList
  match readStrict? trimmed with
  | some t => some t
  | none => readRelaxed? (trimmed.reverse.dropWhile (· == 'Z')).reverse

end SingleTable
