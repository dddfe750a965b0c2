import Mathlib.Tactic.Ring
import SingleTable.Number.Double

/-!
# Rounding to doubles

The double nearest to a quotient depends on the value of the quotient only, so a decimal
may be scaled by a power of ten in its digits or in its exponent alike
(`Double.ofDecimal_mul_pow`).  A quotient that is a magnitude is rounded to it
(`Magnitude.nearest_units`).
-/

namespace SingleTable

namespace Magnitude

/-- The position of the magnitude nearest to `num / den`, if there were no largest one. -/
def nearestCode (num den : Nat) : Nat :=
  let scaled := num <<< 1074
  let shift := Nat.log2 (scaled / den) - 52
  let step := den <<< shift
  let low := scaled / step
  let left := scaled % step
  shift <<< 52 +
    if 2 * left > step || (2 * left == step && low % 2 == 1) then low + 1 else low

theorem nearest_eq (num den : Nat) :
    nearest num den =
      if bounded : nearestCode num den < 2047 <<< 52 then some ⟨nearestCode num den, bounded⟩
      else none := rfl

/-- How often a step goes into an amount, to the nearest count, and to the even one of two
that are equally near. -/
def nearestCount (amount step : Nat) : Nat :=
  let low := amount / step
  let left := amount % step
  if 2 * left > step || (2 * left == step && low % 2 == 1) then low + 1 else low

theorem nearestCode_eq (num den : Nat) :
    nearestCode num den = (Nat.log2 (num <<< 1074 / den) - 52) <<< 52 +
      nearestCount (num <<< 1074) (den <<< (Nat.log2 (num <<< 1074 / den) - 52)) := rfl

/-- The step and what is left over grow alike, so their comparison stays. -/
theorem nearestCount_mul {k : Nat} (hK : 0 < k) (amount step : Nat) :
    nearestCount (amount * k) (step * k) = nearestCount amount step := by
  unfold nearestCount
  simp only [Nat.mul_div_mul_right _ _ hK, Nat.mul_mod_mul_right]
  have hAbove : 2 * (amount % step * k) > step * k ↔ 2 * (amount % step) > step := by
    rw [← Nat.mul_assoc]
    exact Nat.mul_lt_mul_right hK
  have hTie : (2 * (amount % step * k) == step * k) = (2 * (amount % step) == step) := by
    rw [← Nat.mul_assoc, Bool.eq_iff_iff, beq_iff_eq, beq_iff_eq]
    exact Nat.mul_left_inj (Nat.ne_of_gt hK)
  simp only [hAbove, hTie]

/-- A step that goes into an amount exactly is counted exactly. -/
theorem nearestCount_of_dvd {amount step : Nat} (hStep : 0 < step) (hDvd : step ∣ amount) :
    nearestCount amount step = amount / step := by
  have hTie : (0 == step) = false := beq_eq_false_iff_ne.mpr (Nat.ne_of_lt hStep)
  unfold nearestCount
  simp [Nat.mod_eq_zero_of_dvd hDvd, hTie]

theorem nearestCode_mul {num den k : Nat} (hK : 0 < k) :
    nearestCode (num * k) (den * k) = nearestCode num den := by
  have hScaled : ∀ n shift, (n * k) <<< shift = n <<< shift * k := by
    intro n shift
    simp only [Nat.shiftLeft_eq]
    exact Nat.mul_right_comm n k _
  rw [nearestCode_eq, nearestCode_eq, hScaled, Nat.mul_div_mul_right _ _ hK, hScaled,
    nearestCount_mul hK]

/-- Equal quotients have the same nearest magnitude. -/
theorem nearest_congr {num den num' den' : Nat} (hDen : 0 < den) (hDen' : 0 < den')
    (hCross : num * den' = num' * den) : nearest num den = nearest num' den' := by
  have hCode : nearestCode num den = nearestCode num' den' := by
    rw [← nearestCode_mul hDen', hCross, Nat.mul_comm den den', nearestCode_mul hDen]
  simp only [nearest_eq, hCode]

/-- A quotient of `m` whole units, where the units beyond 53 binary digits are zero. -/
theorem nearestCode_of_exact {num den m : Nat} (hDen : 0 < den)
    (hExact : num <<< 1074 = m * den) (hDvd : 2 ^ (Nat.log2 m - 52) ∣ m) :
    nearestCode num den = (Nat.log2 m - 52) <<< 52 + m / 2 ^ (Nat.log2 m - 52) := by
  have hStep : den <<< (Nat.log2 m - 52) = 2 ^ (Nat.log2 m - 52) * den := by
    rw [Nat.shiftLeft_eq, Nat.mul_comm]
  rw [nearestCode_eq, hExact, Nat.mul_div_cancel _ hDen, hStep, nearestCount_mul hDen,
    nearestCount_of_dvd (Nat.two_pow_pos _) hDvd]

theorem log2_mul_pow {n r k : Nat} (hBelow : r < 2 ^ n) :
    Nat.log2 ((2 ^ n + r) * 2 ^ k) = n + k := by
  have hPow : 0 < 2 ^ k := Nat.two_pow_pos k
  have hPos : 0 < 2 ^ n + r := Nat.add_pos_left (Nat.two_pow_pos n) r
  refine (Nat.log2_eq_iff (Nat.ne_of_gt (Nat.mul_pos hPos hPow))).mpr ⟨?_, ?_⟩
  · rw [Nat.pow_add]
    exact Nat.mul_le_mul_right _ (Nat.le_add_right _ _)
  · have hSplit : 2 ^ (n + k + 1) = (2 ^ n + 2 ^ n) * 2 ^ k := by ring
    rw [hSplit]
    exact Nat.mul_lt_mul_of_pos_right (Nat.add_lt_add_left hBelow _) hPow

/-- The units of a magnitude have at most 53 binary digits before zeros, and these are the
position of the magnitude. -/
theorem code_of_units (size : Magnitude) :
    2 ^ (Nat.log2 size.units - 52) ∣ size.units ∧
      (Nat.log2 size.units - 52) <<< 52 + size.units / 2 ^ (Nat.log2 size.units - 52) =
        size.code := by
  unfold units
  split
  · next hSmall =>
    -- below 2 ^ 53 the position counts the units
    have hShift : Nat.log2 size.code - 52 = 0 := by
      by_cases hZero : size.code = 0
      · rw [hZero]
        decide
      · have hLog := (Nat.log2_lt hZero).mpr (show size.code < 2 ^ 53 by simpa using hSmall)
        omega
    simp [hShift]
  · next hLarge =>
    generalize hLow : size.code % 1 <<< 52 = low
    generalize hHigh : size.code >>> 52 - 1 = shift
    have hBelow : low < 2 ^ 52 := hLow ▸ Nat.mod_lt _ (by decide)
    have hCode : size.code = 2 ^ 52 * (shift + 1) + low := by
      have hSplit := Nat.div_add_mod size.code (2 ^ 52)
      have hAtLeast : 2 ^ 53 ≤ size.code := by simpa using hLarge
      rw [Nat.shiftRight_eq_div_pow] at hHigh
      rw [Nat.shiftLeft_eq, Nat.one_mul] at hLow
      omega
    have hUnits : (1 <<< 52 + low) <<< shift = (2 ^ 52 + low) * 2 ^ shift := by
      simp only [Nat.shiftLeft_eq, Nat.one_mul]
    rw [hUnits, log2_mul_pow hBelow, Nat.add_sub_cancel_left,
      Nat.mul_div_cancel _ (Nat.two_pow_pos shift), hCode, Nat.shiftLeft_eq]
    refine ⟨Nat.dvd_mul_left _ _, ?_⟩
    ring

/-- A quotient that is a magnitude is rounded to it. -/
theorem nearest_units {num den : Nat} {size : Magnitude} (hDen : 0 < den)
    (hExact : num <<< 1074 = size.units * den) : nearest num den = some size := by
  obtain ⟨hDvd, hCode⟩ := code_of_units size
  have hNearest := (nearestCode_of_exact hDen hExact hDvd).trans hCode
  rw [nearest_eq, dif_pos (by rw [hNearest]; exact size.bounded)]
  simp only [hNearest]

theorem shiftLeft_lt (n k : Nat) : n <<< k < 2 ^ (Nat.log2 n + 1 + k) := by
  rw [Nat.shiftLeft_eq, Nat.pow_add]
  exact Nat.mul_lt_mul_of_pos_right Nat.lt_log2_self (Nat.two_pow_pos k)

theorem log2_shiftLeft {n : Nat} (hPos : n ≠ 0) (k : Nat) :
    Nat.log2 (n <<< k) = Nat.log2 n + k := by
  have hShifted : n <<< k ≠ 0 := by simp [Nat.shiftLeft_eq, hPos]
  refine (Nat.log2_eq_iff hShifted).mpr ⟨?_, ?_⟩
  · rw [Nat.shiftLeft_eq, Nat.pow_add]
    exact Nat.mul_le_mul_right _ (Nat.log2_self_le hPos)
  · rw [Nat.add_right_comm]
    exact shiftLeft_lt n k

/-- A quotient of less than half a unit is rounded to zero. -/
theorem nearest_of_small {num den : Nat} (hSmall : 2 * num <<< 1074 < den) :
    nearest num den = some zero := by
  have hBelow : num <<< 1074 < den := by omega
  have hCode : nearestCode num den = 0 := by
    unfold nearestCode
    simp only [Nat.div_eq_of_lt hBelow, Nat.log2_zero, Nat.zero_sub, Nat.shiftLeft_zero,
      Nat.mod_eq_of_lt hBelow]
    have hNot : (2 * num <<< 1074 > den || (2 * num <<< 1074 == den && 0 % 2 == 1)) = false := by
      simp
      omega
    rw [hNot]
    rfl
  rw [nearest_eq, dif_pos (by rw [hCode]; decide)]
  simp only [hCode]
  rfl

/-- A quotient beyond the largest magnitude has no nearest one. -/
theorem nearest_of_large {num k : Nat} (hLarge : 2 ^ k ≤ num) (hBeyond : 1100 ≤ k) :
    nearest num 1 = none := by
  have hScaled : 2 ^ (k + 1074) ≤ num <<< 1074 := by
    rw [Nat.shiftLeft_eq, Nat.pow_add]
    exact Nat.mul_le_mul_right _ hLarge
  have hLog : k + 1074 ≤ Nat.log2 (num <<< 1074 / 1) := by
    rw [Nat.div_one]
    refine (Nat.le_log2 ?_).mpr hScaled
    exact Nat.ne_of_gt (Nat.lt_of_lt_of_le (Nat.two_pow_pos _) hScaled)
  have hShift : 2047 ≤ Nat.log2 (num <<< 1074 / 1) - 52 := by
    generalize Nat.log2 (num <<< 1074 / 1) = log at hLog
    omega
  have hCode : 2047 <<< 52 ≤ nearestCode num 1 := by
    refine Nat.le_trans ?_ (Nat.le_add_right _ _)
    rw [Nat.shiftLeft_eq, Nat.shiftLeft_eq]
    exact Nat.mul_le_mul_right _ hShift
  rw [nearest_eq, dif_neg (Nat.not_lt.mpr hCode)]

/-- The steps above the power of two below a quotient fill at most one more power. -/
theorem nearestCode_le {num log : Nat} (hLog : Nat.log2 (num <<< 1074 / 1) ≤ log + 52) :
    nearestCode num 1 ≤ (log + 2) <<< 52 := by
  unfold nearestCode
  generalize num <<< 1074 = scaled at hLog ⊢
  simp only [Nat.div_one] at hLog ⊢
  generalize hShift : Nat.log2 scaled - 52 = shift
  have hBelow : scaled < 2 ^ 53 * 1 <<< shift := by
    rw [Nat.shiftLeft_eq, Nat.one_mul, ← Nat.pow_add]
    exact Nat.lt_of_lt_of_le Nat.lt_log2_self (Nat.pow_le_pow_right (by decide) (by omega))
  have hLow : scaled / 1 <<< shift < 2 ^ 53 := Nat.div_lt_of_lt_mul (Nat.mul_comm _ _ ▸ hBelow)
  have hLe : shift <<< 52 ≤ log <<< 52 := by
    simp only [Nat.shiftLeft_eq]
    exact Nat.mul_le_mul_right _ (by omega)
  have hTop : (log + 2) <<< 52 = log <<< 52 + 2 ^ 53 := by
    simp only [Nat.shiftLeft_eq]
    omega
  split <;> omega

/-- A whole number of 64 bits is far below the largest magnitude. -/
theorem exists_nearest_of_whole {num : Nat} (hNum : num < 2 ^ 64) :
    ∃ size, nearest num 1 = some size := by
  have hLog : Nat.log2 (num <<< 1074 / 1) ≤ 1086 + 52 := by
    rw [Nat.div_one]
    by_cases hZero : num = 0
    · simp [hZero]
    · have hPart : Nat.log2 num < 64 := (Nat.log2_lt hZero).mpr hNum
      rw [log2_shiftLeft hZero]
      omega
  have hCode : nearestCode num 1 < 2047 <<< 52 :=
    Nat.lt_of_le_of_lt (nearestCode_le hLog) (by decide)
  exact ⟨_, (nearest_eq num 1).trans (dif_pos hCode)⟩

end Magnitude

namespace Double

theorem two_pow_le_ten_pow (n : Nat) : 2 ^ (3 * n) ≤ 10 ^ n := by
  rw [Nat.pow_mul]
  exact Nat.pow_le_pow_left (by decide) n

/-- Ten to the 401 is beyond every magnitude. -/
theorem ofRatio_of_large (negative : Bool) {digits n : Nat} (hDigits : digits ≠ 0)
    (hLarge : 400 < n) : ofRatio negative (digits * 10 ^ n) 1 = .infinite negative := by
  have hNum : 2 ^ (3 * n) ≤ digits * 10 ^ n :=
    Nat.le_trans (two_pow_le_ten_pow n) (Nat.le_mul_of_pos_left _ (Nat.pos_of_ne_zero hDigits))
  unfold ofRatio
  rw [Magnitude.nearest_of_large hNum (by omega)]

/-- A power of ten with more binary digits than the units of a number is more than twice
as large. -/
theorem ofRatio_of_small (negative : Bool) {digits n : Nat}
    (hSmall : Nat.log2 digits + 1100 < n) :
    ofRatio negative digits (10 ^ n) = .finite negative .zero := by
  have hBelow : 2 * digits <<< 1074 < 10 ^ n :=
    calc 2 * digits <<< 1074 < 2 * 2 ^ (Nat.log2 digits + 1 + 1074) :=
          Nat.mul_lt_mul_of_pos_left (Magnitude.shiftLeft_lt digits 1074) (by decide)
      _ = 2 ^ (Nat.log2 digits + 1 + 1074 + 1) := (Nat.pow_succ' ..).symm
      _ ≤ 2 ^ (3 * n) := Nat.pow_le_pow_right (by decide) (by omega)
      _ ≤ 10 ^ n := two_pow_le_ten_pow n
  unfold ofRatio
  rw [Magnitude.nearest_of_small hBelow]

/-- Rounding a decimal is rounding a quotient, whatever the size of its exponent. -/
theorem ofDecimal_eq_ofRatio (negative : Bool) (digits : Nat) (exponent : Int) :
    ofDecimal negative digits exponent =
      ofRatio negative (digits * 10 ^ exponent.toNat) (10 ^ (-exponent).toNat) := by
  unfold ofDecimal
  split
  · next hZero =>
    rw [hZero, Nat.zero_mul]
    unfold ofRatio
    rw [Magnitude.nearest_of_small (by simp)]
  split
  · next hDigits hLarge =>
    have hDen : (-exponent).toNat = 0 := by omega
    rw [hDen, Nat.pow_zero, ofRatio_of_large negative hDigits (by omega)]
  split
  · next _ _ hSmall =>
    have hNum : exponent.toNat = 0 := by omega
    rw [hNum, Nat.pow_zero, Nat.mul_one, ofRatio_of_small negative (by omega)]
  split
  · next hNonneg =>
    have hDen : (-exponent).toNat = 0 := by omega
    rw [hDen, Nat.pow_zero]
    rfl
  · next hNegative =>
    have hNum : exponent.toNat = 0 := by omega
    rw [hNum, Nat.pow_zero, Nat.mul_one]
    rfl

/-- A power of ten may stand in the digits or in the exponent. -/
theorem ofDecimal_mul_pow (negative : Bool) (digits k : Nat) (exponent : Int) :
    ofDecimal negative (digits * 10 ^ k) exponent =
      ofDecimal negative digits (exponent + k) := by
  -- of each exponent only the positive or the negative part counts
  have hCross : digits * 10 ^ k * 10 ^ exponent.toNat * 10 ^ (-(exponent + k)).toNat =
      digits * 10 ^ (exponent + k).toNat * 10 ^ (-exponent).toNat := by
    have hSum : k + exponent.toNat + (-(exponent + k)).toNat =
        (exponent + k).toNat + (-exponent).toNat := by omega
    calc digits * 10 ^ k * 10 ^ exponent.toNat * 10 ^ (-(exponent + k)).toNat
        = digits * 10 ^ (k + exponent.toNat + (-(exponent + k)).toNat) := by ring
      _ = digits * 10 ^ ((exponent + k).toNat + (-exponent).toNat) := by rw [hSum]
      _ = _ := by ring
  have hTen : ∀ n : Nat, 0 < 10 ^ n := fun n => Nat.pow_pos (by decide)
  rw [ofDecimal_eq_ofRatio, ofDecimal_eq_ofRatio]
  unfold ofRatio
  rw [Magnitude.nearest_congr (hTen _) (hTen _) hCross]

/-- Every digit of the exact value of a magnitude reads back. -/
theorem ofDecimal_units (negative : Bool) (size : Magnitude) {places : Nat}
    (hPlaces : 1074 = places) :
    ofDecimal negative (size.units * Nat.pow 5 places) (-1074) = .finite negative size := by
  have hNum : Int.toNat (-1074) = 0 := rfl
  have hDen : Int.toNat (- -1074) = places := hPlaces
  have hExact : (size.units * Nat.pow 5 places) <<< 1074 = size.units * 10 ^ places := by
    rw [hPlaces, Nat.shiftLeft_eq, Nat.mul_assoc]
    congr 1
    exact (Nat.mul_pow 5 2 places).symm
  rw [ofDecimal_eq_ofRatio, hNum, hDen, Nat.pow_zero, Nat.mul_one]
  unfold ofRatio
  rw [Magnitude.nearest_units (Nat.pow_pos (by decide)) hExact]

/-- The double nearest to a whole number of 64 bits is finite. -/
theorem isFinite_ofRatio_of_whole (negative : Bool) {num : Nat} (hNum : num < 2 ^ 64) :
    (ofRatio negative num 1).isFinite = true := by
  obtain ⟨size, hSize⟩ := Magnitude.exists_nearest_of_whole hNum
  unfold ofRatio
  rw [hSize]
  rfl

theorem isFinite_ofInt (n : Int64) : (ofInt n.toInt).isFinite = true := by
  have hMin := Int64.le_toInt n
  have hMax := Int64.toInt_lt n
  exact isFinite_ofRatio_of_whole _ (by omega)

end Double

end SingleTable
