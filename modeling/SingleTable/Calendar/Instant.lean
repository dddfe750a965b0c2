import SingleTable.Calendar.Date

/-!
# Instants

A point in universal time as whole seconds from 1970-01-01T00:00:00Z and
nanoseconds.  A leap second is the second before a full minute with a billion
nanoseconds added; it shows as second 60.
-/

namespace SingleTable

namespace Calendar

/-- The first second of the earliest date. -/
def minSecond : Int := -8334601228800

/-- The last second of the latest date. -/
def maxSecond : Int := 8210266876799

/-- Nanoseconds in a second. -/
def nanosPerSecond : Nat := 1000000000

/-- Nanoseconds are below a second, or below two in a leap second. -/
def NanosFit (seconds : Int) (nanos : Nat) : Prop :=
  nanos < nanosPerSecond ∨ nanos < 2 * nanosPerSecond ∧ seconds % 60 = 59

instance (seconds : Int) (nanos : Nat) : Decidable (NanosFit seconds nanos) := by
  unfold NanosFit; infer_instance

end Calendar

/-- A point in universal time. -/
structure Instant where
  seconds : Int
  nanos : Nat
  range : Calendar.minSecond ≤ seconds ∧ seconds ≤ Calendar.maxSecond
  nanos_fit : Calendar.NanosFit seconds nanos
deriving DecidableEq

namespace Instant

open Calendar Number

/-- The instant with the given seconds and nanoseconds, when there is one. -/
def of? (seconds : Int) (nanos : Nat) : Option Instant :=
  if range : minSecond ≤ seconds ∧ seconds ≤ maxSecond then
    if nanos_fit : NanosFit seconds nanos then
      some { seconds, nanos, range, nanos_fit }
    else none
  else none

/-- Chronological order: by seconds, then by nanoseconds. -/
def before (a b : Instant) : Bool :=
  a.seconds < b.seconds || (a.seconds == b.seconds && a.nanos < b.nanos)

/-- Year, month and day of month. -/
def civil (t : Instant) : Int × Nat × Nat :=
  civilOfDay (t.seconds / 86400)

/-- Year of the instant. -/
def year (t : Instant) : Int := t.civil.1

/-- Month of the instant. -/
def month (t : Instant) : Nat := t.civil.2.1

/-- Day of month of the instant. -/
def day (t : Instant) : Nat := t.civil.2.2

/-- Hour of the day. -/
def hour (t : Instant) : Nat := (t.seconds % 86400).toNat / 3600

/-- Minute of the hour. -/
def minute (t : Instant) : Nat := (t.seconds % 3600).toNat / 60

/-- Second of the minute without regard to a leap second. -/
def second (t : Instant) : Nat := (t.seconds % 60).toNat

/-- Second of the minute as written: 60 in a leap second. -/
def shownSecond (t : Instant) : Nat :=
  if t.nanos < nanosPerSecond then t.second else t.second + 1

/-- The date of the instant as text. -/
def dateText (t : Instant) : List Char :=
  civilText t.year t.month t.day

/-- Date and time to the second, without an offset. -/
def clockText (t : Instant) : List Char :=
  t.dateText ++ 'T' :: paddedDigits 2 t.hour ++ ':' :: paddedDigits 2 t.minute ++
    ':' :: paddedDigits 2 t.shownSecond

/-- The stored text: date and time to the second, and `Z`. -/
def text (t : Instant) : String :=
  String.ofList (t.clockText ++ ['Z'])

/-- A fraction of a second in three, six or nine digits, as few as are exact. -/
def fractionText (nanos : Nat) : List Char :=
  if nanos = 0 then []
  else if nanos % 1000000 = 0 then '.' :: paddedDigits 3 (nanos / 1000000)
  else if nanos % 1000 = 0 then '.' :: paddedDigits 6 (nanos / 1000)
  else '.' :: paddedDigits 9 nanos

/-- The full text: like the stored text, with the fraction of the second. -/
def fullText (t : Instant) : String :=
  String.ofList (t.clockText ++ fractionText (t.nanos % nanosPerSecond) ++ ['Z'])

end Instant

end SingleTable
