import SingleTable.Calendar.Instant

/-!
# Days and dates

The year that is computed for a day holds the day, the month and day of month are found
within it, and the date that they make up is the day's date (`dayOfCivil_civilOfDay`).
-/

namespace SingleTable.Calendar

/-- Later years begin later. -/
theorem daysBeforeYear_le {year later : Int} (hLater : year ≤ later) :
    daysBeforeYear year ≤ daysBeforeYear later := by
  unfold daysBeforeYear
  omega

theorem daysBeforeYear_succ (year : Int) :
    daysBeforeYear (year + 1) = daysBeforeYear year + if isLeap year then 366 else 365 := by
  have hLeap : isLeap year = true ↔ year % 4 = 0 ∧ (year % 100 ≠ 0 ∨ year % 400 = 0) := by
    simp [isLeap]
  unfold daysBeforeYear
  by_cases hYear : isLeap year = true
  · rw [if_pos hYear]
    rw [hLeap] at hYear
    omega
  · rw [if_neg hYear]
    rw [hLeap] at hYear
    omega

/-- The year of a day holds the day. -/
theorem yearOfDay_holds (day : Int) :
    daysBeforeYear (yearOfDay day) ≤ day ∧ day < daysBeforeYear (yearOfDay day + 1) := by
  unfold yearOfDay
  simp only
  generalize hGuess : 400 * day / 146097 = guess
  -- the average year is wrong by less than a year
  have hBefore : daysBeforeYear (guess - 1) ≤ day := by
    unfold daysBeforeYear
    omega
  have hAfter : day < daysBeforeYear (guess + 2) := by
    unfold daysBeforeYear
    omega
  split
  · next hEarly =>
    rw [Int.sub_add_cancel]
    exact ⟨hBefore, hEarly⟩
  · next hNotEarly =>
    split
    · next hLate =>
      rw [Int.add_assoc]
      exact ⟨hLate, hAfter⟩
    · next hNotLate => exact ⟨Int.not_lt.mp hNotEarly, Int.not_le.mp hNotLate⟩

theorem monthLength_le (year : Int) (month : Nat) : monthLength year month ≤ 31 := by
  unfold monthLength
  split
  · split <;> decide
  · split <;> decide

theorem daysBeforeMonth_succ (year : Int) {month : Nat} (hMonth : 1 ≤ month) :
    daysBeforeMonth year (month + 1) = daysBeforeMonth year month + monthLength year month := by
  obtain ⟨before, rfl⟩ : ∃ before, month = before + 1 := ⟨month - 1, by omega⟩
  rfl

/-- The months fill the year. -/
theorem daysBeforeMonth_thirteen (year : Int) :
    daysBeforeMonth year 13 = if isLeap year then 366 else 365 := by
  cases hLeap : isLeap year <;> simp [daysBeforeMonth, monthLength, hLeap]

/-- The month and day of month that a day of the year falls on. -/
structure FallsOn (year : Int) (day month dayOfMonth : Nat) : Prop where
  day_range : 1 ≤ dayOfMonth ∧ dayOfMonth ≤ monthLength year month
  day_eq : daysBeforeMonth year month + (dayOfMonth - 1) = day

/-- Among consecutive months that hold a day, the month of the day is found. -/
theorem fallsOn_of_monthOfDay {year : Int} {first count day month dayOfMonth : Nat}
    (hFirst : 1 ≤ first)
    (hDay : daysBeforeMonth year first + day < daysBeforeMonth year (first + count))
    (hFound : monthOfDay year (List.range' first count) day = (month, dayOfMonth)) :
    (first ≤ month ∧ month < first + count) ∧
      FallsOn year (daysBeforeMonth year first + day) month dayOfMonth := by
  induction count generalizing first day with
  | zero =>
    rw [Nat.add_zero] at hDay
    omega
  | succ count ih =>
    rw [List.range'_succ] at hFound
    unfold monthOfDay at hFound
    by_cases hHere : day < monthLength year first
    · rw [if_pos hHere] at hFound
      cases hFound
      exact ⟨⟨Nat.le_refl _, by omega⟩, ⟨by omega, by omega⟩, rfl⟩
    · rw [if_neg hHere] at hFound
      -- the day is counted from the start of the next month
      have hNext := daysBeforeMonth_succ year hFirst
      have hSame : daysBeforeMonth year (first + 1) + (day - monthLength year first) =
          daysBeforeMonth year first + day := by omega
      have hEnd : first + 1 + count = first + (count + 1) := by omega
      obtain ⟨hRange, hFalls⟩ := ih (by omega) (by rwa [hSame, hEnd]) hFound
      rw [hSame] at hFalls
      exact ⟨by omega, hFalls⟩

/-- A day of the calendar as year, month and day of month. -/
structure CivilDay (day year : Int) (month dayOfMonth : Nat) : Prop where
  year_holds : daysBeforeYear year ≤ day + daysBeforeEpoch ∧
    day + daysBeforeEpoch < daysBeforeYear (year + 1)
  month_range : 1 ≤ month ∧ month ≤ 12
  day_range : 1 ≤ dayOfMonth ∧ dayOfMonth ≤ monthLength year month
  day_eq : dayOfCivil year month dayOfMonth = day

theorem civilDay_of_civilOfDay {day year : Int} {month dayOfMonth : Nat}
    (hCivil : civilOfDay day = (year, month, dayOfMonth)) :
    CivilDay day year month dayOfMonth := by
  have hYear := yearOfDay_holds (day + daysBeforeEpoch)
  unfold civilOfDay at hCivil
  simp only [Prod.mk.injEq] at hCivil
  obtain ⟨rfl, hFound⟩ := hCivil
  generalize yearOfDay (day + daysBeforeEpoch) = year at hYear hFound ⊢
  generalize hWithin : (day + daysBeforeEpoch - daysBeforeYear year).toNat = within at hFound
  have hFits : daysBeforeMonth year 1 + within < daysBeforeMonth year (1 + 12) := by
    have hLength := daysBeforeYear_succ year
    rw [show 1 + 12 = 13 from rfl, daysBeforeMonth_thirteen, show daysBeforeMonth year 1 = 0 from rfl]
    split at hLength
    · next hLeap =>
      rw [if_pos hLeap]
      omega
    · next hCommon =>
      rw [if_neg hCommon]
      omega
  obtain ⟨hMonth, hFalls⟩ := fallsOn_of_monthOfDay (Nat.le_refl 1) hFits hFound
  refine ⟨hYear, ⟨hMonth.1, Nat.le_of_lt_succ hMonth.2⟩, hFalls.day_range, ?_⟩
  have hStart : daysBeforeMonth year 1 = 0 := rfl
  unfold dayOfCivil
  rw [hFalls.day_eq]
  omega

end SingleTable.Calendar

namespace SingleTable

open Calendar

/-- What is shown of a day is a date, and it is the day's. -/
theorem Date.of?_of_civilDay {day year : Int} {month dayOfMonth : Nat}
    (hCivil : CivilDay day year month dayOfMonth)
    (hYear : minYear ≤ year ∧ year ≤ maxYear) :
    ∃ date, Date.of? year month dayOfMonth = some date ∧ date.dayNumber = day := by
  let date : Date := ⟨year, month, dayOfMonth, hYear, hCivil.month_range, hCivil.day_range⟩
  exact ⟨date, date.of?_fields, hCivil.day_eq⟩

namespace Instant

theorem civilDay (t : Instant) : CivilDay (t.seconds / 86400) t.year t.month t.day :=
  civilDay_of_civilOfDay rfl

/-- An instant lies in a year that dates have. -/
theorem year_range (t : Instant) : minYear ≤ t.year ∧ t.year ≤ maxYear := by
  obtain ⟨hStart, hEnd⟩ := t.civilDay.year_holds
  have hFirst : daysBeforeYear minYear = -96465292 + daysBeforeEpoch := rfl
  have hLast : daysBeforeYear (maxYear + 1) = 95026237 + daysBeforeEpoch := rfl
  have hRange : -96465292 ≤ t.seconds / 86400 ∧ t.seconds / 86400 < 95026237 := by
    have hSeconds := t.range
    unfold minSecond maxSecond at hSeconds
    omega
  -- an earlier year would be over before the day, and a later one begin after it
  constructor
  · refine Int.not_lt.mp fun hEarly => ?_
    have hBefore := daysBeforeYear_le (show t.year + 1 ≤ minYear by omega)
    omega
  · refine Int.not_lt.mp fun hLate => ?_
    have hAfter := daysBeforeYear_le (show maxYear + 1 ≤ t.year by omega)
    omega

/-- The date of an instant, from the fields that its text shows. -/
theorem exists_date (t : Instant) :
    ∃ date, Date.of? t.year t.month t.day = some date ∧ date.dayNumber = t.seconds / 86400 :=
  Date.of?_of_civilDay t.civilDay t.year_range

end Instant

end SingleTable
