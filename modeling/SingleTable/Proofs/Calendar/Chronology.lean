import SingleTable.Proofs.Calendar.ReadBack

/-!
# The order of written instants

The text of an instant in a year of four digits has its fields at fixed places, the larger
ones in front, and each filled up with zeros.  Two such texts compare like the fields, and
the fields like the seconds that the instants lie in (`Instant.text_lt_iff`).  A leap
second is a second of its own, between the one that it lengthens and the next minute.
-/

namespace SingleTable

namespace Number

/-- Texts compare by fronts of the same length first. -/
theorem append_lt_append_iff {front other back rest : List Char}
    (hLength : front.length = other.length) :
    front ++ back < other ++ rest ↔ front < other ∨ front = other ∧ back < rest := by
  induction front generalizing other with
  | nil =>
    obtain rfl := List.eq_nil_of_length_eq_zero hLength.symm
    simp
  | cons c front ih =>
    cases other with
    | nil => cases hLength
    | cons d other =>
      have hTail := ih (Nat.succ.inj hLength)
      simp only [List.cons_append, List.cons_lt_cons_iff, List.cons.injEq, hTail]
      constructor
      · rintro (hHead | ⟨hSame, hFront | ⟨hRest, hBack⟩⟩)
        · exact Or.inl (Or.inl hHead)
        · exact Or.inl (Or.inr ⟨hSame, hFront⟩)
        · exact Or.inr ⟨⟨hSame, hRest⟩, hBack⟩
      · rintro ((hHead | ⟨hSame, hFront⟩) | ⟨⟨hSame, hRest⟩, hBack⟩)
        · exact Or.inl hHead
        · exact Or.inr ⟨hSame, Or.inl hFront⟩
        · exact Or.inr ⟨hSame, Or.inr ⟨hRest, hBack⟩⟩

theorem natOfDigits_cons (c : Char) (digits : List Char) :
    natOfDigits (c :: digits) = digitValue c * 10 ^ digits.length + natOfDigits digits := by
  have hFirst : natOfDigits [c] = digitValue c := by simp [natOfDigits]
  rw [← List.singleton_append, natOfDigits_append, hFirst]

theorem digitValue_lt {c : Char} (hDigit : isDigit c = true) : digitValue c < 10 := by
  have hRange : 48 ≤ c.toNat ∧ c.toNat ≤ 57 := by
    unfold isDigit at hDigit
    simp only [Bool.and_eq_true, decide_eq_true_eq] at hDigit
    exact hDigit
  have hZero : '0'.toNat = 48 := rfl
  unfold digitValue
  omega

/-- A run of digits denotes less than its length allows. -/
theorem natOfDigits_lt {digits : List Char} (hDigits : ∀ c ∈ digits, isDigit c = true) :
    natOfDigits digits < 10 ^ digits.length := by
  induction digits with
  | nil => decide
  | cons c digits ih =>
    have hRest := ih fun d hMem => hDigits d (List.mem_cons_of_mem c hMem)
    have hFirst := digitValue_lt (hDigits c List.mem_cons_self)
    rw [natOfDigits_cons, List.length_cons, Nat.pow_succ]
    calc digitValue c * 10 ^ digits.length + natOfDigits digits
        < digitValue c * 10 ^ digits.length + 10 ^ digits.length := by omega
      _ = (digitValue c + 1) * 10 ^ digits.length := by ring
      _ ≤ 10 * 10 ^ digits.length := Nat.mul_le_mul_right _ hFirst
      _ = 10 ^ digits.length * 10 := Nat.mul_comm _ _

/-- A smaller digit has a smaller value. -/
theorem digitValue_lt_of_lt {c d : Char} (hDigit : isDigit c = true) (hLess : c < d) :
    digitValue c < digitValue d := by
  have hLow : '0'.toNat ≤ c.toNat := by
    unfold isDigit at hDigit
    simp only [Bool.and_eq_true, decide_eq_true_eq] at hDigit
    exact hDigit.1
  have hCode : c.toNat < d.toNat := hLess
  unfold digitValue
  omega

/-- Of two runs of digits of one length, the one that comes first denotes less. -/
theorem natOfDigits_lt_of_lt {digits others : List Char} (hLength : digits.length = others.length)
    (hDigits : ∀ c ∈ digits, isDigit c = true) (hLess : digits < others) :
    natOfDigits digits < natOfDigits others := by
  induction digits generalizing others with
  | nil =>
    obtain rfl := List.eq_nil_of_length_eq_zero hLength.symm
    exact absurd hLess (List.not_lt_nil _)
  | cons c digits ih =>
    cases others with
    | nil => cases hLength
    | cons d others =>
      have hRest := fun e hMem => hDigits e (List.mem_cons_of_mem c hMem)
      have hSame : digits.length = others.length := Nat.succ.inj hLength
      rw [natOfDigits_cons, natOfDigits_cons, ← hSame]
      rcases List.cons_lt_cons_iff.mp hLess with hHead | ⟨rfl, hTail⟩
      · have hValue := digitValue_lt_of_lt (hDigits c List.mem_cons_self) hHead
        calc digitValue c * 10 ^ digits.length + natOfDigits digits
            < digitValue c * 10 ^ digits.length + 10 ^ digits.length :=
              Nat.add_lt_add_left (natOfDigits_lt hRest) _
          _ = (digitValue c + 1) * 10 ^ digits.length := by ring
          _ ≤ digitValue d * 10 ^ digits.length := Nat.mul_le_mul_right _ hValue
          _ ≤ digitValue d * 10 ^ digits.length + natOfDigits others := Nat.le_add_right _ _
      · exact Nat.add_lt_add_left (ih hSame hRest hTail) _

/-- Padded numbers that fit their field compare like the numbers. -/
theorem paddedDigits_lt {width m n : Nat} (hWidth : 0 < width) (hFits : n < 10 ^ width)
    (hLess : m < n) : paddedDigits width m < paddedDigits width n := by
  have hLength : (paddedDigits width n).length = (paddedDigits width m).length := by
    rw [length_paddedDigits hWidth hFits, length_paddedDigits hWidth (by omega)]
  rcases Std.lt_trichotomy (paddedDigits width m) (paddedDigits width n) with
    hBefore | hSame | hAfter
  · exact hBefore
  · have hValues := congrArg natOfDigits hSame
    rw [natOfDigits_paddedDigits, natOfDigits_paddedDigits] at hValues
    omega
  · have hValues := natOfDigits_lt_of_lt hLength (fun c => isDigit_of_mem_paddedDigits) hAfter
    rw [natOfDigits_paddedDigits, natOfDigits_paddedDigits] at hValues
    omega

/-- A field in front of others decides where it differs. -/
theorem paddedDigits_append_lt {width m n : Nat} {back rest : List Char} (hWidth : 0 < width)
    (hFits : n < 10 ^ width) (hLess : m < n) :
    paddedDigits width m ++ back < paddedDigits width n ++ rest := by
  have hLength : (paddedDigits width m).length = (paddedDigits width n).length := by
    rw [length_paddedDigits hWidth hFits, length_paddedDigits hWidth (by omega)]
  exact (append_lt_append_iff hLength).mpr (Or.inl (paddedDigits_lt hWidth hFits hLess))

/-- A field that agrees is passed over, with the mark behind it. -/
theorem append_cons_lt {back rest : List Char} (field : List Char) (mark : Char)
    (hLess : back < rest) : field ++ mark :: back < field ++ mark :: rest :=
  (append_lt_append_iff rfl).mpr (Or.inr ⟨rfl, List.cons_lt_cons_iff.mpr (Or.inr ⟨rfl, hLess⟩)⟩)

end Number

namespace Calendar

open Number

/-- Later months begin later in the year. -/
theorem daysBeforeMonth_le (year : Int) {month later : Nat} (hMonth : 1 ≤ month)
    (hLater : month ≤ later) : daysBeforeMonth year month ≤ daysBeforeMonth year later := by
  induction later, hLater using Nat.le_induction with
  | base => exact Nat.le_refl _
  | succ next hNext ih =>
    rw [daysBeforeMonth_succ year (Nat.le_trans hMonth hNext)]
    omega

/-- A day of the calendar before another one has the smaller year, month or day of month,
the larger unit first. -/
theorem CivilDay.lt_of_lt {day year other otherYear : Int} {month dayOfMonth otherMonth
    otherDayOfMonth : Nat} (hDay : CivilDay day year month dayOfMonth)
    (hOther : CivilDay other otherYear otherMonth otherDayOfMonth) (hLess : day < other) :
    year < otherYear ∨ year = otherYear ∧
      (month < otherMonth ∨ month = otherMonth ∧ dayOfMonth < otherDayOfMonth) := by
  have hYear : year ≤ otherYear := by
    refine Int.not_lt.mp fun hLater => ?_
    have hStart := daysBeforeYear_le (show otherYear + 1 ≤ year by omega)
    have hHolds := hDay.year_holds
    have hOtherHolds := hOther.year_holds
    omega
  rcases hYear.lt_or_eq with hBefore | rfl
  · exact Or.inl hBefore
  refine Or.inr ⟨rfl, ?_⟩
  have hEq := hDay.day_eq
  have hOtherEq := hOther.day_eq
  have hRange := hDay.day_range
  have hOtherRange := hOther.day_range
  unfold dayOfCivil at hEq hOtherEq
  have hMonth : month ≤ otherMonth := by
    refine Nat.not_lt.mp fun hLater => ?_
    have hNext := daysBeforeMonth_succ year hOther.month_range.1
    have hStart := daysBeforeMonth_le year (Nat.le_add_left 1 otherMonth) hLater
    omega
  rcases hMonth.lt_or_eq with hBefore | rfl
  · exact Or.inl hBefore
  · exact Or.inr ⟨rfl, by omega⟩

end Calendar

namespace Instant

open Calendar Number

/-- The instant at which the second begins that an instant lies in. -/
def secondStart (t : Instant) : Instant where
  seconds := t.seconds
  nanos := if t.nanos < nanosPerSecond then 0 else nanosPerSecond
  range := t.range
  nanos_fit := by
    have hFit := t.nanos_fit
    unfold NanosFit nanosPerSecond at *
    split <;> omega

variable {t u : Instant}

/-- The year has four digits and no sign. -/
def HasPlainYear (t : Instant) : Prop := 0 ≤ t.year ∧ t.year ≤ 9999

theorem before_iff : t.before u = true ↔
    t.seconds < u.seconds ∨ t.seconds = u.seconds ∧ t.nanos < u.nanos := by
  simp [before]

theorem before_secondStart_iff : t.secondStart.before u.secondStart = true ↔
    t.seconds < u.seconds ∨
      t.seconds = u.seconds ∧ t.nanos < nanosPerSecond ∧ nanosPerSecond ≤ u.nanos := by
  have hUnit : nanosPerSecond = 1000000000 := rfl
  rw [before_iff]
  unfold secondStart
  simp only
  split <;> split <;> omega

/-- Seconds begin in the order of what lies in them. -/
theorem before_of_secondStart (hBefore : t.secondStart.before u.secondStart = true) :
    t.before u = true := by
  rw [before_secondStart_iff] at hBefore
  rw [before_iff]
  omega

/-- Of two instants in different seconds one lies in the earlier second. -/
theorem secondStart_trichotomy (t u : Instant) :
    t.secondStart.before u.secondStart = true ∨ t.secondStart = u.secondStart ∨
      u.secondStart.before t.secondStart = true := by
  have hSame : t.seconds = u.seconds → (t.nanos < nanosPerSecond ↔ u.nanos < nanosPerSecond) →
      t.secondStart = u.secondStart := by
    intro hSeconds hNanos
    unfold secondStart
    simp only [hSeconds, hNanos]
  rw [before_secondStart_iff, before_secondStart_iff]
  by_cases hSeconds : t.seconds = u.seconds
  · by_cases hNanos : t.nanos < nanosPerSecond ↔ u.nanos < nanosPerSecond
    · exact Or.inr (Or.inl (hSame hSeconds hNanos))
    · -- one of the two lies in the leap second behind the other's
      omega
  · omega

/-- The text of an instant shows the start of its second. -/
@[simp]
theorem text_secondStart (t : Instant) : t.secondStart.text = t.text := by
  have hShown : t.secondStart.shownSecond = t.shownSecond := by
    have hUnit : nanosPerSecond = 1000000000 := rfl
    have hSecond : t.secondStart.second = t.second := rfl
    unfold shownSecond
    rw [hSecond]
    unfold secondStart
    simp only
    split <;> split <;> omega
  unfold text clockText
  rw [hShown]
  rfl

/-- The fields of the time of day, when whole seconds of one day come one after the other. -/
theorem fields_lt_of_seconds_lt (hDay : t.seconds / 86400 = u.seconds / 86400)
    (hLess : t.seconds < u.seconds) :
    t.hour < u.hour ∨ t.hour = u.hour ∧
      (t.minute < u.minute ∨ t.minute = u.minute ∧ t.second < u.second) := by
  unfold hour minute second
  omega

/-- The fields of the time of day, when seconds of one day come one after the other. -/
theorem clock_lt_of_before (hDay : t.seconds / 86400 = u.seconds / 86400)
    (hBefore : t.secondStart.before u.secondStart = true) :
    t.hour < u.hour ∨ t.hour = u.hour ∧
      (t.minute < u.minute ∨ t.minute = u.minute ∧ t.shownSecond < u.shownSecond) := by
  rcases before_secondStart_iff.mp hBefore with hLess | ⟨hSame, hPlain, hLeap⟩
  · rcases fields_lt_of_seconds_lt hDay hLess with
      hHours | ⟨hHours, hMinutes | ⟨hMinutes, hSeconds⟩⟩
    · exact Or.inl hHours
    · exact Or.inr ⟨hHours, Or.inl hMinutes⟩
    · -- a leap second ends its minute, so that no second comes behind it there
      have hPlain : t.nanos < nanosPerSecond := by
        refine t.nanos_fit.resolve_right fun hLast => ?_
        unfold second at hSeconds
        omega
      refine Or.inr ⟨hHours, Or.inr ⟨hMinutes, ?_⟩⟩
      rw [shownSecond, if_pos hPlain, shownSecond]
      split <;> omega
  · have hHours : t.hour = u.hour := congrArg (fun n => (n % 86400).toNat / 3600) hSame
    have hMinutes : t.minute = u.minute := congrArg (fun n => (n % 3600).toNat / 60) hSame
    have hSeconds : t.second = u.second := congrArg (fun n => (n % 60).toNat) hSame
    refine Or.inr ⟨hHours, Or.inr ⟨hMinutes, ?_⟩⟩
    rw [shownSecond, if_pos hPlain, shownSecond, if_neg (Nat.not_lt.mpr hLeap), hSeconds]
    exact Nat.lt_succ_self _

/-- The characters of an instant in a year of four digits, field by field. -/
theorem toList_text (hYear : t.HasPlainYear) : t.text.toList =
    paddedDigits 4 t.year.toNat ++ '-' :: (paddedDigits 2 t.month ++ '-' ::
      (paddedDigits 2 t.day ++ 'T' :: (paddedDigits 2 t.hour ++
        ':' :: (paddedDigits 2 t.minute ++ ':' :: (paddedDigits 2 t.shownSecond ++ ['Z']))))) := by
  unfold text
  rw [String.toList_ofList, clockText_append]
  unfold HasPlainYear at hYear
  unfold civilText yearText
  rw [if_pos hYear]
  simp

/-- An instant in an earlier second has the smaller text. -/
theorem text_lt_of_before (hYear : t.HasPlainYear) (hOther : u.HasPlainYear)
    (hBefore : t.secondStart.before u.secondStart = true) : t.text < u.text := by
  obtain ⟨hMonthFits, hDayFits, hHourFits, hMinuteFits, hSecondFits⟩ := u.fields_lt
  have hYearFits : u.year.toNat < 10 ^ 4 := by
    unfold HasPlainYear at hOther
    omega
  show t.text.toList < u.text.toList
  rw [toList_text hYear, toList_text hOther]
  -- fields that agree are passed over, and the first one that differs decides
  rcases Int.lt_trichotomy (t.seconds / 86400) (u.seconds / 86400) with hDay | hDay | hDay
  · rcases t.civilDay.lt_of_lt u.civilDay hDay with hYears | ⟨hYears, hMonths | ⟨hMonths, hDays⟩⟩
    · refine paddedDigits_append_lt (by decide) hYearFits ?_
      unfold HasPlainYear at hYear
      omega
    · rw [hYears]
      exact append_cons_lt _ _ (paddedDigits_append_lt (by decide) hMonthFits hMonths)
    · rw [hYears, hMonths]
      refine append_cons_lt _ _ (append_cons_lt _ _ ?_)
      exact paddedDigits_append_lt (by decide) hDayFits hDays
  · have hCivil : t.civil = u.civil := congrArg civilOfDay hDay
    have hYears : t.year = u.year := congrArg Prod.fst hCivil
    have hMonths : t.month = u.month := congrArg (·.2.1) hCivil
    have hDays : t.day = u.day := congrArg (·.2.2) hCivil
    rw [hYears, hMonths, hDays]
    refine append_cons_lt _ _ (append_cons_lt _ _ (append_cons_lt _ _ ?_))
    rcases clock_lt_of_before hDay hBefore with hHours | ⟨hHours, hMinutes | ⟨hMinutes, hSeconds⟩⟩
    · exact paddedDigits_append_lt (by decide) hHourFits hHours
    · rw [hHours]
      exact append_cons_lt _ _ (paddedDigits_append_lt (by decide) hMinuteFits hMinutes)
    · rw [hHours, hMinutes]
      refine append_cons_lt _ _ (append_cons_lt _ _ ?_)
      exact paddedDigits_append_lt (by decide) hSecondFits hSeconds
  · rw [before_secondStart_iff] at hBefore
    omega

/-- Texts of instants compare like the seconds that the instants lie in. -/
theorem text_lt_iff (hYear : t.HasPlainYear) (hOther : u.HasPlainYear) :
    t.text < u.text ↔ t.secondStart.before u.secondStart = true := by
  refine ⟨fun hLess => ?_, text_lt_of_before hYear hOther⟩
  rcases secondStart_trichotomy t u with hBefore | hSame | hAfter
  · exact hBefore
  · have hTexts := congrArg text hSame
    rw [text_secondStart, text_secondStart] at hTexts
    rw [hTexts] at hLess
    exact absurd hLess (String.lt_irrefl _)
  · exact absurd hLess (String.lt_asymm (text_lt_of_before hOther hYear hAfter))

theorem text_le_iff (hYear : t.HasPlainYear) (hOther : u.HasPlainYear) :
    t.text ≤ u.text ↔ u.secondStart.before t.secondStart = false := by
  rw [← String.not_lt, text_lt_iff hOther hYear, Bool.not_eq_true]

/-- Instants have the same text exactly when they lie in the same second. -/
theorem text_eq_iff (hYear : t.HasPlainYear) (hOther : u.HasPlainYear) :
    t.text = u.text ↔ t.secondStart = u.secondStart := by
  constructor
  · intro hTexts
    rcases secondStart_trichotomy t u with hBefore | hSame | hAfter
    · exact absurd hTexts (Std.ne_of_lt (text_lt_of_before hYear hOther hBefore))
    · exact hSame
    · exact absurd hTexts.symm (Std.ne_of_lt (text_lt_of_before hOther hYear hAfter))
  · intro hSame
    rw [← t.text_secondStart, hSame, text_secondStart]

/-- An instant that is not later has a text that is not greater. -/
theorem text_le_of_not_before (hYear : t.HasPlainYear) (hOther : u.HasPlainYear)
    (hOrder : u.before t = false) : t.text ≤ u.text := by
  rw [text_le_iff hYear hOther, ← Bool.not_eq_true]
  intro hBefore
  rw [before_of_secondStart hBefore] at hOrder
  cases hOrder

end Instant

end SingleTable
