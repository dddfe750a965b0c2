import Mathlib.Data.List.TakeWhile
import SingleTable.Number.Decimal
import SingleTable.Proofs.Number.Rounding
import SingleTable.Proofs.Number.Whole

/-!
# Decimal text read back

The digits that are chosen for a magnitude denote a decimal whose nearest double is the
magnitude (`Magnitude.ofDecimal_shortest`), and both layouts of the digits are read as
that decimal.  So the text of a finite double is read as the double, whatever the
layout (`Double.ofText?_render`).
-/

namespace SingleTable

open Number

namespace Double

variable {digits : Nat} {exponent : Int} {size : Magnitude}

/-- The sign of a decimal does not change what its magnitude is rounded to. -/
theorem ofDecimal_of_unsigned (hUnsigned : ofDecimal false digits exponent = .finite false size)
    (negative : Bool) : ofDecimal negative digits exponent = .finite negative size := by
  rw [ofDecimal_eq_ofRatio] at hUnsigned ⊢
  unfold ofRatio at hUnsigned ⊢
  split at hUnsigned
  · cases hUnsigned
    rfl
  · cases hUnsigned

theorem ofDecimal_zero (negative : Bool) (exponent : Int) :
    ofDecimal negative 0 exponent = .finite negative .zero := by
  simp [ofDecimal]

end Double

namespace Magnitude

open Double

variable {size : Magnitude}

/-- What is found on a grid reads back. -/
theorem ofDecimal_of_onGrid? {exponent : Int} {digits : Nat}
    (hFound : size.onGrid? exponent = some digits) :
    ofDecimal false digits exponent = .finite false size := by
  unfold onGrid? at hFound
  simp only at hFound
  -- which of the two neighbours is nearer does not matter
  generalize (if 0 ≤ exponent then size.units else _) = num at hFound
  generalize (if 0 ≤ exponent then _ else 1 <<< 1074) = den at hFound
  split at hFound
  · next hLow hHigh =>
    split at hFound <;> cases hFound
    · exact eq_of_beq hLow
    · exact eq_of_beq hHigh
  · next hLow _ =>
    cases hFound
    exact eq_of_beq hLow
  · next _ hHigh =>
    cases hFound
    exact eq_of_beq hHigh
  · cases hFound

theorem ofDecimal_fewestDigits (size : Magnitude) :
    ofDecimal false size.fewestDigits.1 size.fewestDigits.2 = .finite false size := by
  unfold fewestDigits
  simp only
  generalize hHit : (List.range 17).findSome? _ = hit
  cases hit with
  | none =>
    rw [Option.getD_none]
    generalize hPlaces : 1074 = places
    exact ofDecimal_units false size hPlaces
  | some found =>
    obtain ⟨n, _, hGrid⟩ := List.exists_of_findSome?_eq_some hHit
    obtain ⟨digits, hDigits, rfl⟩ := Option.map_eq_some_iff.mp hGrid
    exact ofDecimal_of_onGrid? hDigits

/-- Only zeros are dropped at the end of a digit run. -/
theorem exists_replicate_zero (digits : List Char) :
    ∃ n, digits =
      (digits.reverse.dropWhile (· == '0')).reverse ++ List.replicate n '0' := by
  refine ⟨(digits.reverse.takeWhile (· == '0')).length, ?_⟩
  have hZeros : digits.reverse.takeWhile (· == '0') =
      List.replicate (digits.reverse.takeWhile (· == '0')).length '0' := by
    refine List.eq_replicate_iff.mpr ⟨rfl, fun c hMem => ?_⟩
    exact eq_of_beq (List.mem_takeWhile_imp (p := (· == '0')) hMem)
  have hSplit := congrArg List.reverse
    (List.takeWhile_append_dropWhile (p := (· == '0')) (l := digits.reverse))
  rw [List.reverse_append, List.reverse_reverse, hZeros, List.reverse_replicate] at hSplit
  exact hSplit.symm

/-- The digits of a magnitude read back to it. -/
theorem ofDecimal_shortest (size : Magnitude) (negative : Bool) :
    ofDecimal negative (natOfDigits size.shortest.digits)
      (size.shortest.point - size.shortest.digits.length) = .finite negative size := by
  -- the digits were chosen without a sign
  refine ofDecimal_of_unsigned ?_ negative
  unfold shortest
  simp only
  generalize hChosen : size.fewestDigits = chosen
  obtain ⟨digits, exponent⟩ := chosen
  have hReads : ofDecimal false digits exponent = .finite false size := by
    have hFewest := ofDecimal_fewestDigits size
    rwa [hChosen] at hFewest
  obtain ⟨zeros, hZeros⟩ := exists_replicate_zero (natDigits digits)
  simp only
  generalize ((natDigits digits).reverse.dropWhile (· == '0')).reverse = kept at hZeros ⊢
  have hValue : digits = natOfDigits kept * 10 ^ zeros := by
    rw [← natOfDigits_append_replicate, ← hZeros, natOfDigits_natDigits]
  have hPoint : exponent + (natDigits digits).length - kept.length = exponent + zeros := by
    rw [hZeros, List.length_append, List.length_replicate]
    omega
  rw [hPoint, ← ofDecimal_mul_pow, ← hValue, hReads]

theorem isDigit_of_mem_shortest {c : Char} (hMem : c ∈ size.shortest.digits) :
    isDigit c = true := by
  unfold shortest at hMem
  have hAll := (List.dropWhile_suffix _).subset (List.mem_reverse.mp hMem)
  exact isDigit_of_mem_natDigits (List.mem_reverse.mp hAll)

/-- A magnitude other than zero has a digit. -/
theorem shortest_digits_ne_nil (hSize : size.code ≠ 0) : size.shortest.digits ≠ [] := by
  intro hNone
  have hReads := ofDecimal_shortest size false
  rw [hNone, show natOfDigits [] = 0 from rfl, ofDecimal_zero, Double.finite.injEq] at hReads
  exact hSize (by rw [← hReads.2]; rfl)

end Magnitude

namespace Number

variable {rest : List Char} {exponent : Int}

@[simp]
theorem readExponent?_intDigits (exponent : Int) :
    readExponent? ('e' :: intDigits exponent) = some exponent := by
  simp [readExponent?]

/-- Digits with a point in them, and an exponent. -/
theorem readDecimal?_point {whole : List Char} (fraction : List Char) (hFilled : whole ≠ [])
    (hWhole : ∀ c ∈ whole, isDigit c = true) (hFraction : ∀ c ∈ fraction, isDigit c = true)
    (hRest : ∀ c ∈ rest.head?, isDigit c = false) (hExponent : readExponent? rest = some exponent) :
    readDecimal? (whole ++ '.' :: (fraction ++ rest)) =
      some (natOfDigits (whole ++ fraction), exponent - fraction.length) := by
  have hPoint : ∀ c ∈ ('.' :: (fraction ++ rest)).head?, isDigit c = false := by
    rintro c ⟨⟩
    decide
  have hEmpty : whole.isEmpty = false := by simp [hFilled]
  obtain ⟨hTake, hDrop⟩ := span_digits hWhole hPoint
  obtain ⟨hTakeFraction, hDropFraction⟩ := span_digits hFraction hRest
  unfold readDecimal?
  simp only [hTake, hDrop, hTakeFraction, hDropFraction, hEmpty, hExponent, Bool.false_and]
  rfl

/-- Digits with a point in them. -/
theorem readDecimal?_point_end {whole : List Char} (fraction : List Char) (hFilled : whole ≠ [])
    (hWhole : ∀ c ∈ whole, isDigit c = true) (hFraction : ∀ c ∈ fraction, isDigit c = true) :
    readDecimal? (whole ++ '.' :: fraction) =
      some (natOfDigits (whole ++ fraction), -(fraction.length : Int)) := by
  have hNoRest : ∀ c ∈ ([] : List Char).head?, isDigit c = false := nofun
  have hRead := readDecimal?_point fraction hFilled hWhole hFraction hNoRest rfl
  rwa [List.append_nil, Int.zero_sub] at hRead

/-- One run of digits, and an exponent. -/
theorem readDecimal?_whole {whole : List Char} (hFilled : whole ≠ [])
    (hWhole : ∀ c ∈ whole, isDigit c = true)
    (hRest : ∀ c ∈ rest.head?, isDigit c = false ∧ c ≠ '.')
    (hExponent : readExponent? rest = some exponent) :
    readDecimal? (whole ++ rest) = some (natOfDigits whole, exponent) := by
  have hEmpty : whole.isEmpty = false := by simp [hFilled]
  obtain ⟨hTake, hDrop⟩ := span_digits hWhole fun c hHead => (hRest c hHead).1
  unfold readDecimal?
  simp only [hTake, hDrop]
  split
  · exact absurd rfl (hRest '.' rfl).2
  · simp [hEmpty, hExponent]

/-- A sign is no part of an unsigned decimal. -/
theorem readSign_of_readDecimal? {text : List Char} (hDecimal : readDecimal? text ≠ none) :
    readSign text = (false, text) := by
  unfold readSign
  split
  · exact absurd (by simp [readDecimal?, isDigit]) hDecimal
  · exact absurd (by simp [readDecimal?, isDigit]) hDecimal
  · rfl

/-- A text is read as a decimal, with zeros moved from its exponent to its digits. -/
def ReadsAs (text : List Char) (digits : Nat) (exponent : Int) : Prop :=
  ∃ zeros : Nat, readDecimal? text = some (digits * 10 ^ zeros, exponent - zeros)

end Number

namespace DecimalLayout

variable {d : DecimalDigits}

theorem isDigit_of_mem_zeros {n : Nat} {c : Char} (hMem : c ∈ List.replicate n '0') :
    isDigit c = true := by
  rw [List.eq_of_mem_replicate hMem]
  decide

/-- Zeros between the point and the digits. -/
theorem readDecimal?_leading_zeros (zeros : Nat) {digits : List Char}
    (hDigits : ∀ c ∈ digits, isDigit c = true) :
    readDecimal? ("0.".toList ++ List.replicate zeros '0' ++ digits) =
      some (natOfDigits digits, -((zeros + digits.length : Nat) : Int)) := by
  have hRead := readDecimal?_point_end (List.replicate zeros '0' ++ digits)
    (List.cons_ne_nil '0' []) (fun c hMem => @isDigit_of_mem_zeros 1 c hMem)
    (List.forall_mem_append.mpr ⟨fun c => isDigit_of_mem_zeros, hDigits⟩)
  have hValue : natOfDigits (['0'] ++ (List.replicate zeros '0' ++ digits)) =
      natOfDigits digits := by
    rw [natOfDigits_append, natOfDigits_replicate_append, show natOfDigits ['0'] = 0 from rfl,
      Nat.zero_mul, Nat.zero_add]
  rw [hValue, List.length_append, List.length_replicate] at hRead
  rw [← hRead]
  simp

/-- Zeros between the digits and the point. -/
theorem readDecimal?_trailing_zeros (zeros : Nat) {digits : List Char} (hFilled : digits ≠ [])
    (hDigits : ∀ c ∈ digits, isDigit c = true) :
    readDecimal? (digits ++ List.replicate zeros '0' ++ ".0".toList) =
      some (natOfDigits digits * 10 ^ (zeros + 1), -1) := by
  have hRead := readDecimal?_point_end ['0'] (by simp [hFilled])
    (List.forall_mem_append.mpr ⟨hDigits, fun c => isDigit_of_mem_zeros (n := zeros)⟩)
    (fun c hMem => @isDigit_of_mem_zeros 1 c hMem)
  have hValue : natOfDigits (digits ++ List.replicate zeros '0' ++ ['0']) =
      natOfDigits digits * 10 ^ (zeros + 1) := by
    rw [List.append_assoc, ← List.replicate_succ', natOfDigits_append_replicate]
  rw [hValue] at hRead
  exact hRead

theorem readsAs_positional (hFilled : d.digits ≠ [])
    (hDigits : ∀ c ∈ d.digits, isDigit c = true) :
    ReadsAs (positional d) (natOfDigits d.digits) (d.point - d.digits.length) := by
  unfold positional ReadsAs
  split
  · next hPoint =>
    refine ⟨0, (readDecimal?_leading_zeros (-d.point).toNat hDigits).trans ?_⟩
    rw [Nat.pow_zero, Nat.mul_one]
    congr 2
    omega
  · next hPoint =>
    simp only
    split
    · next hLong =>
      generalize hZeros : d.point.toNat - d.digits.length = zeros
      refine ⟨zeros + 1, (readDecimal?_trailing_zeros zeros hFilled hDigits).trans ?_⟩
      congr 2
      omega
    · next hShort =>
      have hTaken : d.digits.take d.point.toNat ≠ [] := by
        simp [hFilled]
        omega
      have hRead := readDecimal?_point_end (d.digits.drop d.point.toNat) hTaken
        (fun c hMem => hDigits c (List.mem_of_mem_take hMem))
        (fun c hMem => hDigits c (List.mem_of_mem_drop hMem))
      refine ⟨0, hRead.trans ?_⟩
      rw [List.take_append_drop, List.length_drop, Nat.pow_zero, Nat.mul_one]
      congr 2
      omega

theorem readsAs_scientific (hFilled : d.digits ≠ [])
    (hDigits : ∀ c ∈ d.digits, isDigit c = true) :
    ReadsAs (scientific d) (natOfDigits d.digits) (d.point - d.digits.length) := by
  have hLetter : ∀ c ∈ ('e' :: intDigits (d.point - 1)).head?, isDigit c = false ∧ c ≠ '.' := by
    rintro c ⟨⟩
    decide
  have hExponent := readExponent?_intDigits (d.point - 1)
  obtain ⟨first, more, hSplit⟩ := List.exists_cons_of_ne_nil hFilled
  rw [hSplit, List.forall_mem_cons] at hDigits
  have hFirst : ∀ c ∈ [first], isDigit c = true := by simpa using hDigits.1
  refine ⟨0, ?_⟩
  unfold scientific
  rw [hSplit]
  cases more with
  | nil =>
    -- a single digit stands without a point
    refine (readDecimal?_whole (List.cons_ne_nil first []) hFirst hLetter hExponent).trans ?_
    simp
  | cons second more =>
    have hRead := readDecimal?_point (second :: more) (List.cons_ne_nil first []) hFirst
      hDigits.2 (fun c hHead => (hLetter c hHead).1) hExponent
    refine Eq.trans ?_ (hRead.trans ?_)
    · simp
    · simp
      omega

/-- The text of a magnitude is read as a decimal whose nearest double is the magnitude. -/
theorem readsAs_magnitude (layout : DecimalLayout) (size : Magnitude) :
    ∃ digits exponent, ReadsAs (layout.magnitude size) digits exponent ∧
      ∀ negative, Double.ofDecimal negative digits exponent = .finite negative size := by
  unfold magnitude
  by_cases hZero : size.code = 0
  · refine ⟨0, 0, ⟨1, ?_⟩, ?_⟩
    · rw [if_pos hZero]
      decide
    · intro negative
      have hSize : size = .zero := by
        cases size
        simp only at hZero
        subst hZero
        rfl
      rw [hSize, Double.ofDecimal_zero]
  · have hFilled := Magnitude.shortest_digits_ne_nil hZero
    have hDigits : ∀ c ∈ size.shortest.digits, isDigit c = true := fun _ hMem =>
      Magnitude.isDigit_of_mem_shortest hMem
    refine ⟨_, _, ?_, size.ofDecimal_shortest⟩
    rw [if_neg hZero]
    simp only
    split
    · exact readsAs_positional hFilled hDigits
    · exact readsAs_scientific hFilled hDigits

theorem isSpace_of_mem_positional (hDigits : ∀ c ∈ d.digits, isDigit c = true) {c : Char}
    (hMem : c ∈ positional d) : Text.isSpace c = false := by
  have hDigit : c ∈ d.digits → Text.isSpace c = false := fun hMem =>
    isSpace_of_isDigit (hDigits c hMem)
  have hMark : c = '0' ∨ c = '.' → Text.isSpace c = false := by
    rintro (rfl | rfl) <;> decide
  unfold positional at hMem
  split at hMem
  · simp only [List.mem_append, List.mem_replicate] at hMem
    rcases hMem with (hHead | ⟨_, hZero⟩) | hLater
    · exact hMark (by simpa using hHead)
    · exact hMark (Or.inl hZero)
    · exact hDigit hLater
  · simp only at hMem
    split at hMem
    · simp only [List.mem_append, List.mem_replicate] at hMem
      rcases hMem with (hEarlier | ⟨_, hZero⟩) | hTail
      · exact hDigit hEarlier
      · exact hMark (Or.inl hZero)
      · exact hMark (by simpa [or_comm] using hTail)
    · rcases List.mem_append.mp hMem with hEarlier | hTail
      · exact hDigit (List.mem_of_mem_take hEarlier)
      · rcases List.mem_cons.mp hTail with hPoint | hLater
        · exact hMark (Or.inr hPoint)
        · exact hDigit (List.mem_of_mem_drop hLater)

theorem isSpace_of_mem_scientific (hDigits : ∀ c ∈ d.digits, isDigit c = true) {c : Char}
    (hMem : c ∈ scientific d) : Text.isSpace c = false := by
  have hDigit : c ∈ d.digits → Text.isSpace c = false := fun hMem =>
    isSpace_of_isDigit (hDigits c hMem)
  unfold scientific at hMem
  simp only [List.mem_append, List.mem_cons] at hMem
  rcases hMem with (hFirst | hFraction) | rfl | hExponent
  · exact hDigit (List.mem_of_mem_take hFirst)
  · split at hFraction
    · cases hFraction
    · rcases List.mem_cons.mp hFraction with rfl | hLater
      · decide
      · exact hDigit (List.mem_of_mem_drop hLater)
  · decide
  · exact isSpace_of_mem_intDigits hExponent

theorem isSpace_of_mem_magnitude {layout : DecimalLayout} {size : Magnitude} {c : Char}
    (hMem : c ∈ layout.magnitude size) : Text.isSpace c = false := by
  have hDigits : ∀ c ∈ size.shortest.digits, isDigit c = true := fun _ hMem =>
    Magnitude.isDigit_of_mem_shortest hMem
  unfold magnitude at hMem
  split at hMem
  · have hZero : "0.0".toList.all (!Text.isSpace ·) = true := by decide
    simpa using List.all_eq_true.mp hZero c hMem
  · simp only at hMem
    split at hMem
    · exact isSpace_of_mem_positional hDigits hMem
    · exact isSpace_of_mem_scientific hDigits hMem

end DecimalLayout

namespace Double

variable {x : Double}

/-- The text of a finite double is read as the double. -/
theorem ofText?_render (layout : DecimalLayout) (hFinite : x.isFinite = true) :
    ofText? (layout.render x) = some x := by
  cases x with
  | nan => cases hFinite
  | infinite negative => cases hFinite
  | finite negative size =>
    obtain ⟨digits, exponent, ⟨zeros, hRead⟩, hValue⟩ := layout.readsAs_magnitude size
    have hDecimal : readDecimal? (layout.magnitude size) ≠ none := by
      simp [hRead]
    -- the text of a magnitude is an unsigned decimal, so that no sign is read from it
    have hSign : readSign (layout.render (.finite negative size)) =
        (negative, layout.magnitude size) := by
      cases negative with
      | true => rfl
      | false => exact readSign_of_readDecimal? hDecimal
    unfold ofText?
    rw [hSign]
    simp only [hRead]
    rw [ofDecimal_mul_pow, Int.sub_add_cancel, hValue]

/-- The text of an integer is that of the nearest double with its sign. -/
theorem ofText?_of_readInt? {text : List Char} {i : Int} (hRead : readInt? text = some i) :
    ofText? text = some (ofRatio (readSign text).1 i.natAbs 1) := by
  obtain ⟨hFilled, hDigits, hAbs⟩ := digits_of_readInt? hRead
  have hDecimal : readDecimal? ((readSign text).2 ++ []) =
      some (natOfDigits (readSign text).2, 0) := readDecimal?_whole hFilled hDigits nofun rfl
  rw [List.append_nil] at hDecimal
  unfold ofText?
  simp only [hDecimal, ofDecimal_eq_ofRatio, Int.toNat_zero, Int.neg_zero, Nat.pow_zero,
    Nat.mul_one, hAbs]

theorem ofText?_intDigits (i : Int) : ofText? (intDigits i) = some (ofInt i) := by
  rw [ofText?_of_readInt? (readInt?_intDigits i), readSign_intDigits]
  rfl

/-- The text of a 64-bit integer is also that of a finite double. -/
theorem exists_ofText?_of_readInt64? {text : List Char} {n : Int64}
    (hRead : readInt64? text = some n) :
    ∃ x, ofText? text = some x ∧ x.isFinite = true := by
  obtain ⟨i, hInt, hSize⟩ := readInt?_of_readInt64? hRead
  exact ⟨_, ofText?_of_readInt? hInt, isFinite_ofRatio_of_whole _ hSize⟩

theorem isSpace_of_mem_render {layout : DecimalLayout} (hFinite : x.isFinite = true) {c : Char}
    (hMem : c ∈ layout.render x) : Text.isSpace c = false := by
  cases x with
  | nan => cases hFinite
  | infinite negative => cases hFinite
  | finite negative size =>
    rcases List.mem_append.mp hMem with hSign | hSize
    · cases negative with
      | true =>
        rw [List.mem_singleton.mp hSign]
        decide
      | false => cases hSign
    · exact DecimalLayout.isSpace_of_mem_magnitude hSize

end Double

end SingleTable
