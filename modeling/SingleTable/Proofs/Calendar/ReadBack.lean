import SingleTable.Calendar.Reader
import SingleTable.Proofs.Calendar.Civil
import SingleTable.Proofs.Number.Whole
import SingleTable.Proofs.Text.Trim

/-!
# Dates and instants read back

The text of a date is read as the date in every year (`Date.ofText?_text`).  The text of
an instant in a year of four digits is read in the strict notation, and that of any other
in the relaxed one, after the strict reader has stopped at the sign of the year
(`Instant.ofText?_text`).
-/

namespace SingleTable.Calendar

open Number Text

variable {rest : List Char}

/-- A run of digits is read where it fills the field, or where no other digit follows. -/
theorem readDigits?_append {least most : Nat} {run : List Char}
    (hRun : ∀ c ∈ run, isDigit c = true) (hFilled : run ≠ []) (hLeast : least ≤ run.length)
    (hMost : run.length ≤ most)
    (hEnd : run.length = most ∨ ∀ c ∈ rest.head?, isDigit c = false) :
    readDigits? least most (run ++ rest) = some (natOfDigits run, rest) := by
  -- what the field could still take starts with no digit
  have hStop : ∀ c ∈ (rest.take (most - run.length)).head?, isDigit c = false := by
    intro c hHead
    rcases hEnd with hFull | hOther
    · rw [hFull, Nat.sub_self, List.take_zero] at hHead
      cases hHead
    · rw [List.head?_take] at hHead
      split at hHead
      · cases hHead
      · exact hOther c hHead
  have hTake : (run ++ rest).take most = run ++ rest.take (most - run.length) := by
    rw [List.take_append, List.take_of_length_le hMost]
  have hLength : 0 < run.length := List.length_pos_iff.mpr hFilled
  unfold readDigits?
  rw [hTake, (span_digits hRun hStop).1]
  simp [hLeast, hLength]

/-- A padded number that fits its field is read. -/
theorem readDigits?_paddedDigits {least width n : Nat} (hWidth : 0 < width)
    (hLeast : least ≤ width) (hFits : n < 10 ^ width) :
    readDigits? least width (paddedDigits width n ++ rest) = some (n, rest) := by
  have hLength := length_paddedDigits hWidth hFits
  rw [readDigits?_append (fun c => isDigit_of_mem_paddedDigits) (paddedDigits_ne_nil width n)
    (Nat.le_trans hLeast (Nat.le_of_eq hLength.symm)) (Nat.le_of_eq hLength) (Or.inl hLength),
    natOfDigits_paddedDigits]

/-- A field starts with no white space. -/
theorem trimStart_paddedDigits (width n : Nat) :
    trimStart (paddedDigits width n ++ rest) = paddedDigits width n ++ rest := by
  obtain ⟨c, more, hDigits⟩ := List.exists_cons_of_ne_nil (paddedDigits_ne_nil width n)
  have hMem : c ∈ paddedDigits width n := by simp [hDigits]
  rw [hDigits]
  exact trimStart_cons_of_not_isSpace (isSpace_of_isDigit (isDigit_of_mem_paddedDigits hMem)) _

theorem readField?_paddedDigits {n : Nat} (hFits : n < 100) :
    readField? (paddedDigits 2 n ++ rest) = some (n, rest) := by
  unfold readField?
  rw [trimStart_paddedDigits]
  exact readDigits?_paddedDigits (by decide) (by decide) hFits

@[simp]
theorem readChar?_cons (c : Char) : readChar? c (c :: rest) = some rest := by
  simp [readChar?]

/-- The digits of a year end where the month begins. -/
theorem readDigits?_yearDigits (n : Nat) :
    readDigits? 1 (paddedDigits 4 n ++ '-' :: rest).length (paddedDigits 4 n ++ '-' :: rest) =
      some (n, '-' :: rest) := by
  have hLength := List.length_pos_iff.mpr (paddedDigits_ne_nil 4 n)
  have hHyphen : ∀ c ∈ ('-' :: rest).head?, isDigit c = false := by
    rintro c ⟨⟩
    decide
  have hRead := readDigits?_append (fun c => isDigit_of_mem_paddedDigits)
    (paddedDigits_ne_nil 4 n) hLength
    (show _ ≤ (paddedDigits 4 n ++ '-' :: rest).length by simp) (Or.inr hHyphen)
  rw [hRead, natOfDigits_paddedDigits]

/-- A year of four digits has no sign in front. -/
theorem readYear?_plain {year : Int} (hPlain : 0 ≤ year ∧ year ≤ 9999) :
    readYear? (paddedDigits 4 year.toNat ++ rest) = some (year, rest) := by
  have hFits : year.toNat < 10 ^ 4 := by omega
  have hRead : readDigits? 1 4 (paddedDigits 4 year.toNat ++ rest) = some (year.toNat, rest) :=
    readDigits?_paddedDigits (by decide) (by decide) hFits
  obtain ⟨c, more, hDigits⟩ := List.exists_cons_of_ne_nil (paddedDigits_ne_nil 4 year.toNat)
  have hMem : c ∈ paddedDigits 4 year.toNat := by simp [hDigits]
  obtain ⟨hMinus, hPlus⟩ := ne_sign_of_isDigit (isDigit_of_mem_paddedDigits hMem)
  unfold readYear?
  rw [trimStart_paddedDigits]
  split
  · next hSame =>
    rw [hDigits] at hSame
    exact absurd (List.cons.inj hSame).1 hMinus
  · next hSame =>
    rw [hDigits] at hSame
    exact absurd (List.cons.inj hSame).1 hPlus
  · rw [hRead]
    simp only [Option.bind_eq_bind, Option.bind_some]
    rw [Int.toNat_of_nonneg hPlain.1]

/-- A year is read whatever its sign and number of digits. -/
theorem readYear?_yearText (year : Int) :
    readYear? (yearText year ++ '-' :: rest) = some (year, '-' :: rest) := by
  unfold yearText
  split
  · next hPlain => exact readYear?_plain hPlain
  · next hSigned =>
    have hRead := @readDigits?_yearDigits rest year.natAbs
    rw [List.cons_append]
    split
    · next hNegative =>
      have hValue : -(year.natAbs : Int) = year := by omega
      unfold readYear?
      rw [trimStart_cons_of_not_isSpace (by decide)]
      simp only [hRead, Option.bind_eq_bind, Option.bind_some, hValue]
    · next hPositive =>
      have hValue : (year.natAbs : Int) = year := by omega
      unfold readYear?
      rw [trimStart_cons_of_not_isSpace (by decide)]
      simp only [hRead, Option.bind_eq_bind, Option.bind_some, hValue]

theorem readDatePart?_civilText {date : Date} {year : Int} {month day : Nat}
    (hDate : Date.of? year month day = some date) (hMonth : month < 100) (hDay : day < 100) :
    readDatePart? (civilText year month day ++ rest) = some (date, rest) := by
  have hText : civilText year month day ++ rest =
      yearText year ++ '-' :: (paddedDigits 2 month ++ '-' :: (paddedDigits 2 day ++ rest)) := by
    simp [civilText]
  unfold readDatePart?
  rw [hText, readYear?_yearText]
  simp only [Option.bind_eq_bind, Option.bind_some, readChar?_cons,
    readField?_paddedDigits hMonth, readField?_paddedDigits hDay, hDate]

/-- Hours, minutes and seconds with colons between them. -/
theorem readTimePart?_fields {date : Date} {hour minute second : Nat} (hHour : hour < 100)
    (hMinute : minute < 100) (hSecond : second < 100) :
    readTimePart? date (paddedDigits 2 hour ++ ':' :: (paddedDigits 2 minute ++
        ':' :: paddedDigits 2 second)) =
      instantOf? date hour minute second 0 0 := by
  have hLast : readField? (paddedDigits 2 second) = some (second, []) := by
    simpa using @readField?_paddedDigits [] second hSecond
  unfold readTimePart?
  simp only [Option.bind_eq_bind, Option.bind_some, readChar?_cons,
    readField?_paddedDigits hHour, readField?_paddedDigits hMinute, hLast, readOptionalFraction?]
  rfl

theorem bind_of_eq_some {α β : Type} {first : Option α} {a : α} (hFirst : first = some a)
    (next : α → Option β) : (first >>= next) = next a := by
  rw [hFirst]
  rfl

/-- A time of day to the second, in the strict notation. -/
theorem readStrict?_clock {date : Date} {year : Int} {month day hour minute second : Nat}
    (hYear : 0 ≤ year ∧ year ≤ 9999) (hDate : Date.of? year month day = some date)
    (hMonth : month < 100) (hDay : day < 100) (hHour : hour < 100) (hMinute : minute < 100)
    (hSecond : second < 100) :
    readStrict? (civilText year month day ++ 'T' :: (paddedDigits 2 hour ++
        ':' :: (paddedDigits 2 minute ++ ':' :: (paddedDigits 2 second ++ ['Z'])))) =
      instantOf? date hour minute second 0 0 := by
  have hFits : year.toNat < 10 ^ 4 := by omega
  have hYearField : ∀ rest, readDigits? 4 4 (paddedDigits 4 year.toNat ++ rest) =
      some (year.toNat, rest) := fun _ =>
    readDigits?_paddedDigits (by decide) (by decide) hFits
  have hField : ∀ {n}, n < 100 → ∀ rest,
      readDigits? 2 2 (paddedDigits 2 n ++ rest) = some (n, rest) :=
    fun hSmall _ => readDigits?_paddedDigits (by decide) (by decide) hSmall
  have hOffset : readOffset? ['Z'] = some (0, []) := rfl
  rw [← Int.toNat_of_nonneg hYear.1] at hDate
  unfold civilText yearText
  rw [if_pos hYear]
  simp only [List.append_assoc, List.cons_append]
  -- one step for each field and mark of the notation
  refine (bind_of_eq_some (hYearField _) _).trans ?_
  refine (bind_of_eq_some (readChar?_cons '-') _).trans ?_
  refine (bind_of_eq_some (hField hMonth _) _).trans ?_
  refine (bind_of_eq_some (readChar?_cons '-') _).trans ?_
  refine (bind_of_eq_some (hField hDay _) _).trans ?_
  refine (bind_of_eq_some (hField hHour _) _).trans ?_
  refine (bind_of_eq_some (readChar?_cons ':') _).trans ?_
  refine (bind_of_eq_some (hField hMinute _) _).trans ?_
  refine (bind_of_eq_some (readChar?_cons ':') _).trans ?_
  refine (bind_of_eq_some (hField hSecond _) _).trans ?_
  refine (bind_of_eq_some (rfl : readOptionalFraction? ['Z'] = some (0, ['Z'])) _).trans ?_
  refine (bind_of_eq_some hOffset _).trans ?_
  exact bind_of_eq_some hDate _

/-- A signed year is not read in the strict notation. -/
theorem readStrict?_signed {year : Int} (hYear : ¬(0 ≤ year ∧ year ≤ 9999)) (month day : Nat) :
    readStrict? (civilText year month day ++ rest) = none := by
  have hSign : ∀ sign, isDigit sign = false → ∀ text, readDigits? 4 4 (sign :: text) = none := by
    intro sign hOther text
    simp [readDigits?, hOther]
  unfold readStrict? civilText yearText
  rw [if_neg hYear]
  simp only [List.cons_append]
  rw [hSign]
  · rfl
  · split <;> decide

/-- The characters of a date. -/
theorem mem_civilText {c : Char} {year : Int} {month day : Nat}
    (hMem : c ∈ civilText year month day) : isDigit c = true ∨ c = '-' ∨ c = '+' := by
  have hPadded : ∀ {width n}, c ∈ paddedDigits width n → isDigit c = true ∨ c = '-' ∨ c = '+' :=
    fun hMem => Or.inl (isDigit_of_mem_paddedDigits hMem)
  have hYear : c ∈ yearText year → isDigit c = true ∨ c = '-' ∨ c = '+' := by
    intro hMem
    unfold yearText at hMem
    split at hMem
    · exact hPadded hMem
    · rcases List.mem_cons.mp hMem with hSign | hDigits
      · split at hSign
        · exact Or.inr (Or.inl hSign)
        · exact Or.inr (Or.inr hSign)
      · exact hPadded hDigits
  simp only [civilText, List.append_assoc, List.cons_append, List.mem_append, List.mem_cons] at hMem
  rcases hMem with hMem | hHyphen | hMem | hHyphen | hMem
  · exact hYear hMem
  · exact Or.inr (Or.inl hHyphen)
  · exact hPadded hMem
  · exact Or.inr (Or.inl hHyphen)
  · exact hPadded hMem

end SingleTable.Calendar

namespace SingleTable

open Calendar Number Text

namespace Date

variable {date : Date}

/-- The text of a date is read as the date. -/
theorem ofText?_text (date : Date) : ofText? date.text = some date := by
  have hSolid : ∀ c ∈ civilText date.year date.month date.day, isSpace c = false := by
    intro c hMem
    rcases mem_civilText hMem with hDigit | rfl | rfl
    · exact isSpace_of_isDigit hDigit
    · decide
    · decide
  have hMonth : date.month < 100 := by
    have hRange := date.month_range
    omega
  have hDay : date.day < 100 := by
    have hRange := date.day_range
    have hLength := monthLength_le date.year date.month
    omega
  have hRead := @readDatePart?_civilText [] _ _ _ _ date.of?_fields hMonth hDay
  rw [List.append_nil] at hRead
  unfold ofText? text
  rw [String.toList_ofList, trim_eq_self hSolid, hRead]

end Date

namespace Instant

variable {t : Instant}

theorem hour_lt (t : Instant) : t.hour < 24 := by
  unfold hour
  omega

theorem minute_lt (t : Instant) : t.minute < 60 := by
  unfold minute
  omega

theorem second_lt (t : Instant) : t.second < 60 := by
  unfold second
  omega

theorem of?_fields (t : Instant) : of? t.seconds t.nanos = some t := by
  simp [of?, t.range, t.nanos_fit]

/-- An instant without a fraction of a second has none of the nanoseconds, or those of a
leap second. -/
theorem nanos_of_whole (hWhole : t.nanos % nanosPerSecond = 0) :
    t.nanos = 0 ∨ t.nanos = nanosPerSecond ∧ t.seconds % 60 = 59 := by
  have hFit := t.nanos_fit
  unfold NanosFit at hFit
  unfold nanosPerSecond at *
  omega

/-- The fields of an instant make it up. -/
theorem instantOf?_fields {date : Date} (hDate : date.dayNumber = t.seconds / 86400)
    (hWhole : t.nanos % nanosPerSecond = 0) :
    instantOf? date t.hour t.minute t.shownSecond 0 0 = some t := by
  have hHour := t.hour_lt
  have hMinute := t.minute_lt
  have hSecond := t.second_lt
  have hSeconds : date.dayNumber * 86400 +
      ((t.hour * 3600 + t.minute * 60 + t.second : Nat) : Int) - 0 = t.seconds := by
    rw [hDate]
    unfold hour minute second
    omega
  unfold instantOf?
  rcases nanos_of_whole hWhole with hPlain | ⟨hLeap, hLast⟩
  · have hShown : t.shownSecond = t.second := by
      unfold shownSecond
      rw [hPlain]
      rfl
    rw [hShown, if_pos ⟨hHour, hMinute, Nat.le_of_lt hSecond⟩]
    simp only [if_neg (Nat.ne_of_lt hSecond), hSeconds]
    rw [Nat.add_zero, ← hPlain]
    exact t.of?_fields
  · -- a leap second is shown as second 60 of its minute
    have hMinuteEnd : t.second = 59 := by
      unfold second
      omega
    have hShown : t.shownSecond = 60 := by
      unfold shownSecond
      rw [hLeap, if_neg (Nat.lt_irrefl _), hMinuteEnd]
    rw [hShown, if_pos ⟨hHour, hMinute, Nat.le_refl 60⟩]
    simp only [if_true]
    rw [hMinuteEnd] at hSeconds
    rw [hSeconds, Nat.zero_add, ← hLeap]
    exact t.of?_fields

theorem mem_clockText {c : Char} (hMem : c ∈ t.clockText) :
    isDigit c = true ∨ c = '-' ∨ c = '+' ∨ c = 'T' ∨ c = ':' := by
  simp only [clockText, dateText, List.append_assoc, List.cons_append, List.mem_append,
    List.mem_cons] at hMem
  rcases hMem with hMem | hMark | hMem | hMark | hMem | hMark | hMem
  · rcases mem_civilText hMem with hDigit | hMinus | hPlus
    · exact Or.inl hDigit
    · exact Or.inr (Or.inl hMinus)
    · exact Or.inr (Or.inr (Or.inl hPlus))
  · simp [hMark]
  · exact Or.inl (isDigit_of_mem_paddedDigits hMem)
  · simp [hMark]
  · exact Or.inl (isDigit_of_mem_paddedDigits hMem)
  · simp [hMark]
  · exact Or.inl (isDigit_of_mem_paddedDigits hMem)

/-- Nothing of the date and time of day is taken away with the mark behind them. -/
theorem dropWhile_clockText (t : Instant) :
    ((t.clockText ++ ['Z']).reverse.dropWhile (· == 'Z')).reverse = t.clockText := by
  have hOther : ∀ c ∈ t.clockText, (c == 'Z') = false := by
    intro c hMem
    rcases mem_clockText hMem with hDigit | rfl | rfl | rfl | rfl
    · rw [beq_eq_false_iff_ne]
      rintro rfl
      exact absurd hDigit (by decide)
    all_goals decide
  rw [List.reverse_append, List.reverse_singleton, List.singleton_append,
    List.dropWhile_cons_of_pos (by decide)]
  cases hClock : t.clockText.reverse with
  | nil => exact (List.reverse_eq_nil_iff.mp hClock).symm
  | cons c more =>
    have hMem : c ∈ t.clockText := List.mem_reverse.mp (by simp [hClock])
    rw [List.dropWhile_cons_of_neg (by simp [hOther c hMem]), ← hClock, List.reverse_reverse]

theorem isSpace_of_mem_text {c : Char} (hMem : c ∈ t.clockText ++ ['Z']) : isSpace c = false := by
  rcases List.mem_append.mp hMem with hClock | hMark
  · rcases mem_clockText hClock with hDigit | rfl | rfl | rfl | rfl
    · exact isSpace_of_isDigit hDigit
    all_goals decide
  · rw [List.mem_singleton.mp hMark]
    decide

/-- Every field of an instant has two digits, the year apart. -/
theorem fields_lt (t : Instant) : t.month < 100 ∧ t.day < 100 ∧ t.hour < 100 ∧
    t.minute < 100 ∧ t.shownSecond < 100 := by
  have hMonth := t.civilDay.month_range
  have hDay := t.civilDay.day_range
  have hLength := monthLength_le t.year t.month
  have hHour := t.hour_lt
  have hMinute := t.minute_lt
  have hSecond := t.second_lt
  have hShown : t.shownSecond < 100 := by
    unfold shownSecond
    split <;> omega
  omega

/-- The date of an instant, and the marks and fields behind it. -/
theorem clockText_append (t : Instant) (rest : List Char) :
    t.clockText ++ rest = civilText t.year t.month t.day ++ 'T' :: (paddedDigits 2 t.hour ++
      ':' :: (paddedDigits 2 t.minute ++ ':' :: (paddedDigits 2 t.shownSecond ++ rest))) := by
  simp [clockText, dateText]

theorem readStrict?_text (hWhole : t.nanos % nanosPerSecond = 0)
    (hYear : 0 ≤ t.year ∧ t.year ≤ 9999) : readStrict? (t.clockText ++ ['Z']) = some t := by
  obtain ⟨date, hDate, hNumber⟩ := t.exists_date
  obtain ⟨hMonth, hDay, hHour, hMinute, hSecond⟩ := t.fields_lt
  rw [clockText_append, readStrict?_clock hYear hDate hMonth hDay hHour hMinute hSecond]
  exact instantOf?_fields hNumber hWhole

theorem readRelaxed?_clockText (hWhole : t.nanos % nanosPerSecond = 0) :
    readRelaxed? t.clockText = some t := by
  obtain ⟨date, hDate, hNumber⟩ := t.exists_date
  obtain ⟨hMonth, hDay, hHour, hMinute, hSecond⟩ := t.fields_lt
  have hFields := instantOf?_fields hNumber hWhole
  have hTime := @readTimePart?_fields date _ _ _ hHour hMinute hSecond
  rw [← List.append_nil t.clockText, clockText_append, List.append_nil]
  unfold readRelaxed?
  refine (bind_of_eq_some (readDatePart?_civilText hDate hMonth hDay) _).trans ?_
  simp only [readChar?_cons, Option.bind_some, hTime, hFields]
  rfl

/-- The text of an instant without a fraction of a second is read as the instant. -/
theorem ofText?_text (hWhole : t.nanos % nanosPerSecond = 0) : ofText? t.text = some t := by
  unfold ofText? text
  rw [String.toList_ofList, trim_eq_self fun c => isSpace_of_mem_text]
  simp only
  by_cases hYear : 0 ≤ t.year ∧ t.year ≤ 9999
  · rw [readStrict?_text hWhole hYear]
  · -- the strict reader gives up at the sign of the year
    have hStrict : readStrict? (t.clockText ++ ['Z']) = none := by
      rw [clockText_append]
      exact readStrict?_signed hYear t.month t.day
    rw [hStrict, dropWhile_clockText]
    exact readRelaxed?_clockText hWhole

end Instant

end SingleTable
