import SingleTable.Proofs.Number.DecimalText

/-!
# Whole numbers as doubles

A double keeps 53 binary digits.  A whole number that has no more of them before its zeros
is a double.  Any other one is rounded to a multiple of the place value of its 53rd digit,
the nearest there is (`NearestMultiple`).  Rounding may carry a 64-bit integer to one that
has no 64 bits; cut off to these, it is the largest there is.
-/

namespace SingleTable

namespace Number

/-- A multiple of a step that is nearest to a number, and an even multiple if there are two
equally near. -/
structure NearestMultiple (step : Nat) (n multiple : Int) : Prop where
  dvd : (step : Int) ∣ multiple
  near : 2 * (multiple - n).natAbs ≤ step
  even : 2 * (multiple - n).natAbs = step → (2 * step : Int) ∣ multiple

/-- The place value of the 53rd binary digit of a number, or one if it has fewer. -/
def lastPlace (n : Nat) : Nat :=
  2 ^ (Nat.log2 n - 52)

theorem lastPlace_pos (n : Nat) : 0 < lastPlace n := Nat.two_pow_pos _

variable {step : Nat} {n multiple other : Int}

namespace NearestMultiple

theorem neg (hNearest : NearestMultiple step n multiple) :
    NearestMultiple step (-n) (-multiple) where
  dvd := Int.dvd_neg.mpr hNearest.dvd
  near := by
    have hNear := hNearest.near
    omega
  even := by
    intro hTie
    exact Int.dvd_neg.mpr (hNearest.even (by omega))

/-- A multiple is nearest to itself, and to it no other one. -/
theorem eq_iff_dvd (hStep : 0 < step) (hNearest : NearestMultiple step n multiple) :
    multiple = n ↔ (step : Int) ∣ n := by
  constructor
  · rintro rfl
    exact hNearest.dvd
  · intro hDvd
    have hNear := hNearest.near
    have hZero : multiple - n = 0 :=
      Int.eq_zero_of_dvd_of_natAbs_lt_natAbs (Int.dvd_sub hNearest.dvd hDvd) (by omega)
    omega

/-- There is only one such multiple. -/
theorem unique (hStep : 0 < step) (hNearest : NearestMultiple step n multiple)
    (hOther : NearestMultiple step n other) : multiple = other := by
  have hNear := hNearest.near
  have hOtherNear := hOther.near
  by_cases hTie : 2 * (multiple - n).natAbs = step ∧ 2 * (other - n).natAbs = step
  · -- two even multiples differ by more than one step
    have hZero : multiple - other = 0 :=
      Int.eq_zero_of_dvd_of_natAbs_lt_natAbs
        (Int.dvd_sub (hNearest.even hTie.1) (hOther.even hTie.2)) (by omega)
    omega
  · have hZero : multiple - other = 0 :=
      Int.eq_zero_of_dvd_of_natAbs_lt_natAbs (Int.dvd_sub hNearest.dvd hOther.dvd) (by omega)
    omega

end NearestMultiple

/-- Counting steps to the nearest count gives the nearest multiple. -/
theorem nearestMultiple_nearestCount (hStep : 0 < step) (amount : Nat) :
    NearestMultiple step amount (Magnitude.nearestCount amount step * step : Nat) := by
  have hSplit : amount / step * step + amount % step = amount := Nat.div_add_mod' amount step
  have hLeft : amount % step < step := Nat.mod_lt amount hStep
  unfold Magnitude.nearestCount
  simp only [gt_iff_lt, Bool.or_eq_true, decide_eq_true_eq, Bool.and_eq_true, beq_iff_eq]
  generalize amount / step = low at hSplit ⊢
  generalize amount % step = left at hSplit hLeft ⊢
  have hNext : (low + 1) * step = low * step + step := Nat.succ_mul low step
  split
  · next hUp =>
    refine ⟨Int.natCast_dvd_natCast.mpr (Nat.dvd_mul_left step (low + 1)), by omega, ?_⟩
    intro hTie
    have hOdd : low % 2 = 1 := by omega
    have hEven : 2 ∣ low + 1 := by omega
    exact_mod_cast Nat.mul_dvd_mul_right hEven step
  · next hKeep =>
    refine ⟨Int.natCast_dvd_natCast.mpr (Nat.dvd_mul_left step low), by omega, ?_⟩
    intro hTie
    have hEven : 2 ∣ low := by omega
    exact_mod_cast Nat.mul_dvd_mul_right hEven step

/-- The numbers that are multiples of the place value of their 53rd digit are those with at
most 53 binary digits before zeros. -/
theorem lastPlace_dvd_iff {n : Nat} :
    lastPlace n ∣ n ↔ ∃ digits zeros, digits < 2 ^ 53 ∧ n = digits * 2 ^ zeros := by
  constructor
  · intro hDvd
    refine ⟨n / lastPlace n, Nat.log2 n - 52, ?_, (Nat.div_mul_cancel hDvd).symm⟩
    refine Nat.div_lt_of_lt_mul ?_
    unfold lastPlace
    rw [← Nat.pow_add]
    exact Nat.lt_of_lt_of_le Nat.lt_log2_self (Nat.pow_le_pow_right (by decide) (by omega))
  · rintro ⟨digits, zeros, hDigits, rfl⟩
    by_cases hZero : digits = 0
    · simp [hZero]
    · have hLog : Nat.log2 digits < 53 := (Nat.log2_lt hZero).mpr hDigits
      have hShifted : Nat.log2 (digits * 2 ^ zeros) = Nat.log2 digits + zeros := by
        rw [← Nat.shiftLeft_eq, Magnitude.log2_shiftLeft hZero]
      unfold lastPlace
      rw [hShifted]
      exact Nat.dvd_mul_left_of_dvd (Nat.pow_dvd_pow 2 (by omega)) digits

/-- An integer beyond the 64-bit integers is cut off to the nearest one. -/
theorem toInt_clampInt64 (i : Int) :
    (clampInt64 i).toInt =
      if i < int64Min then int64Min else if int64Max < i then int64Max else i := by
  unfold clampInt64
  split
  · rfl
  split
  · rfl
  · next hLow hHigh =>
    unfold int64Min at hLow
    unfold int64Max at hHigh
    exact Int64.toInt_ofInt_of_le (by omega) (by omega)

end Number

namespace Magnitude

open Number

/-- The position of a magnitude tells its first 53 binary digits and the zeros behind them,
also where the digits carry to one more. -/
theorem units_of_code {size : Magnitude} {shift steps : Nat}
    (hCode : size.code = shift <<< 52 + steps) (hLow : 2 ^ 52 ≤ steps) (hHigh : steps ≤ 2 ^ 53) :
    size.units = steps * 2 ^ shift := by
  rw [Nat.shiftLeft_eq] at hCode
  unfold units
  rw [hCode]
  split
  · next hSmall =>
    have hShift : shift = 0 := by
      rw [Nat.shiftLeft_eq] at hSmall
      omega
    simp [hShift]
  · next hLarge =>
    rw [Nat.shiftRight_eq_div_pow, Nat.shiftLeft_eq, Nat.shiftLeft_eq, Nat.one_mul]
    by_cases hCarry : steps = 2 ^ 53
    · have hDiv : (shift * 2 ^ 52 + steps) / 2 ^ 52 - 1 = shift + 1 := by omega
      have hMod : (shift * 2 ^ 52 + steps) % 2 ^ 52 = 0 := by omega
      rw [hDiv, hMod, hCarry, Nat.pow_succ]
      ring
    · have hDiv : (shift * 2 ^ 52 + steps) / 2 ^ 52 - 1 = shift := by omega
      have hMod : 2 ^ 52 + (shift * 2 ^ 52 + steps) % 2 ^ 52 = steps := by omega
      rw [hDiv, hMod]

/-- The steps of a number are counted in its last place, at whatever scale. -/
theorem nearestCount_scaled (num scale : Nat) :
    nearestCount (num * 2 ^ (52 + scale)) (2 ^ (Nat.log2 num + scale)) *
        2 ^ (Nat.log2 num + scale) =
      nearestCount num (lastPlace num) * lastPlace num * 2 ^ (52 + scale) := by
  by_cases hWide : 52 ≤ Nat.log2 num
  · have hStep : 2 ^ (Nat.log2 num + scale) = lastPlace num * 2 ^ (52 + scale) := by
      unfold lastPlace
      rw [← Nat.pow_add]
      congr 1
      omega
    rw [hStep, nearestCount_mul (Nat.two_pow_pos _), Nat.mul_assoc]
  · -- a number of fewer digits is counted exactly at both scales
    have hPlace : lastPlace num = 1 := by
      unfold lastPlace
      rw [Nat.sub_eq_zero_of_le (by omega), Nat.pow_zero]
    have hDvd : 2 ^ (Nat.log2 num + scale) ∣ num * 2 ^ (52 + scale) :=
      Nat.dvd_mul_left_of_dvd (Nat.pow_dvd_pow 2 (by omega)) num
    rw [hPlace, nearestCount_of_dvd (Nat.two_pow_pos _) hDvd, Nat.div_mul_cancel hDvd,
      nearestCount_of_dvd Nat.one_pos (Nat.one_dvd num), Nat.div_one, Nat.mul_one]

theorem nearestCount_le (amount step : Nat) :
    amount / step ≤ nearestCount amount step ∧ nearestCount amount step ≤ amount / step + 1 := by
  unfold nearestCount
  simp only
  split <;> omega

/-- A number of whole units, counted in steps of which 53 binary digits make it up. -/
theorem nearestCount_bounds {num : Nat} (hNum : num ≠ 0) (scale : Nat) :
    2 ^ 52 ≤ nearestCount (num * 2 ^ (52 + scale)) (2 ^ (Nat.log2 num + scale)) ∧
      nearestCount (num * 2 ^ (52 + scale)) (2 ^ (Nat.log2 num + scale)) ≤ 2 ^ 53 := by
  obtain ⟨hAtLeast, hAtMost⟩ :=
    nearestCount_le (num * 2 ^ (52 + scale)) (2 ^ (Nat.log2 num + scale))
  have hLow : 2 ^ 52 ≤ num * 2 ^ (52 + scale) / 2 ^ (Nat.log2 num + scale) := by
    refine (Nat.le_div_iff_mul_le (Nat.two_pow_pos _)).mpr ?_
    calc 2 ^ 52 * 2 ^ (Nat.log2 num + scale) = 2 ^ Nat.log2 num * 2 ^ (52 + scale) := by ring
      _ ≤ num * 2 ^ (52 + scale) := Nat.mul_le_mul_right _ (Nat.log2_self_le hNum)
  have hHigh : num * 2 ^ (52 + scale) / 2 ^ (Nat.log2 num + scale) < 2 ^ 53 := by
    refine (Nat.div_lt_iff_lt_mul (Nat.two_pow_pos _)).mpr ?_
    calc num * 2 ^ (52 + scale) < 2 ^ (Nat.log2 num + 1) * 2 ^ (52 + scale) :=
          Nat.mul_lt_mul_of_pos_right Nat.lt_log2_self (Nat.two_pow_pos _)
      _ = 2 ^ 53 * 2 ^ (Nat.log2 num + scale) := by ring
  omega

/-- The magnitude nearest to a whole number is the number counted in its last place. -/
theorem units_of_nearest_whole {num : Nat} {size : Magnitude}
    (hNearest : nearest num 1 = some size) :
    size.units >>> 1074 = nearestCount num (lastPlace num) * lastPlace num := by
  by_cases hNum : num = 0
  · subst hNum
    rw [nearest_of_small (by simp), Option.some.injEq] at hNearest
    rw [← hNearest]
    rfl
  · have hCode : size.code = nearestCode num 1 := by
      rw [nearest_eq, Option.dite_none_right_eq_some] at hNearest
      obtain ⟨_, hSome⟩ := hNearest
      rw [← Option.some.inj hSome]
    obtain ⟨scale, hScale⟩ : ∃ scale, 1074 = 52 + scale := ⟨1022, rfl⟩
    have hShift : Nat.log2 num + 1074 - 52 = Nat.log2 num + scale := by omega
    rw [nearestCode_eq, Nat.div_one, log2_shiftLeft hNum, hShift, Nat.one_shiftLeft] at hCode
    rw [hScale] at hCode ⊢
    rw [Nat.shiftLeft_eq num] at hCode
    obtain ⟨hLow, hHigh⟩ := nearestCount_bounds hNum scale
    rw [units_of_code hCode hLow hHigh, nearestCount_scaled, Nat.shiftRight_eq_div_pow,
      Nat.mul_div_cancel _ (Nat.two_pow_pos _)]

end Magnitude

namespace Double

open Number

/-- A 64-bit integer becomes the nearest double, and this the nearest 64-bit integer. -/
theorem exists_truncate_ofInt (n : Int64) :
    ∃ multiple, NearestMultiple (lastPlace n.toInt.natAbs) n.toInt multiple ∧
      (ofInt n.toInt).truncate = clampInt64 multiple := by
  have hMin := Int64.le_toInt n
  have hMax := Int64.toInt_lt n
  generalize n.toInt = i at hMin hMax
  have hBelow : i.natAbs < 2 ^ 64 := by omega
  obtain ⟨size, hSize⟩ := Magnitude.exists_nearest_of_whole hBelow
  have hNearest := nearestMultiple_nearestCount (lastPlace_pos i.natAbs) i.natAbs
  have hUnits := Magnitude.units_of_nearest_whole hSize
  unfold ofInt ofRatio
  rw [hSize]
  simp only [truncate, hUnits, decide_eq_true_eq]
  by_cases hNegative : i < 0
  · have hNeg := hNearest.neg
    rw [show (-(i.natAbs : Int)) = i by omega] at hNeg
    exact ⟨_, hNeg, by rw [if_pos hNegative]⟩
  · rw [show (i.natAbs : Int) = i by omega] at hNearest
    exact ⟨_, hNearest, by rw [if_neg hNegative]⟩

/-- The integers that come back are those with at most 53 binary digits before zeros, and the
largest one, as what it is rounded to is cut off. -/
theorem truncate_ofInt_eq_iff (n : Int64) :
    (ofInt n.toInt).truncate = n ↔
      (∃ digits zeros, digits < 2 ^ 53 ∧ n.toInt.natAbs = digits * 2 ^ zeros) ∨
        n = Int64.maxValue := by
  obtain ⟨multiple, hNearest, hTruncate⟩ := exists_truncate_ofInt n
  have hSame := hNearest.eq_iff_dvd (lastPlace_pos _)
  rw [Int.natCast_dvd, lastPlace_dvd_iff] at hSame
  have hMin : int64Min ≤ n.toInt := n.le_toInt
  have hMax : n.toInt ≤ int64Max := n.toInt_le
  rw [hTruncate, ← hSame, ← Int64.toInt_inj, ← Int64.toInt_inj, toInt_clampInt64,
    show Int64.maxValue.toInt = int64Max from rfl]
  have hLowest : n.toInt = int64Min → multiple = n.toInt := by
    -- a power of two is a double
    intro hLow
    refine hSame.mpr ⟨1, 63, by decide, ?_⟩
    rw [hLow]
    decide
  have hHighest : n.toInt = int64Max → int64Max < multiple := by
    -- its last place is 1024, and the multiples next to it are that far apart
    intro hHigh
    rw [hHigh] at hNearest
    have hPlace : lastPlace int64Max.natAbs = 1024 := by decide
    rw [hPlace] at hNearest
    obtain ⟨steps, hSteps⟩ := hNearest.dvd
    have hNear := hNearest.near
    unfold int64Max at hNear ⊢
    omega
  split <;> omega

end Double

end SingleTable
