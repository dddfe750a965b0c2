import Mathlib.Tactic.Ring
import SingleTable.Number.Whole
import SingleTable.Text.Space

/-!
# Whole numbers read back

The digits of a number denote it, with or without zeros in front, and a run of digits is
read up to the first character that is none.  Hence the text of a 64-bit integer is read
as that integer.
-/

namespace SingleTable.Number

theorem isDigit_eq_isDigit (c : Char) : isDigit c = c.isDigit := by
  unfold isDigit Char.isDigit
  rw [Bool.eq_iff_iff]
  simp only [Bool.and_eq_true, decide_eq_true_eq, ge_iff_le]
  exact Iff.rfl

theorem natOfDigits_eq_ofDigitChars (digits : List Char) :
    natOfDigits digits = Nat.ofDigitChars 10 digits 0 := by
  unfold natOfDigits Nat.ofDigitChars digitValue
  simp only [Nat.mul_comm 10]

theorem natOfDigits_append (front back : List Char) :
    natOfDigits (front ++ back) = natOfDigits front * 10 ^ back.length + natOfDigits back := by
  simp only [natOfDigits_eq_ofDigitChars]
  rw [Nat.ofDigitChars_append, Nat.ofDigitChars_eq_ofDigitChars_zero]
  ring

/-- The digits of a number denote it. -/
@[simp]
theorem natOfDigits_natDigits (n : Nat) : natOfDigits (natDigits n) = n := by
  rw [natOfDigits_eq_ofDigitChars]
  exact Nat.ofDigitChars_ten_toDigits

@[simp]
theorem natOfDigits_replicate (n : Nat) : natOfDigits (List.replicate n '0') = 0 := by
  rw [natOfDigits_eq_ofDigitChars]
  simp

/-- Zeros in front do not count. -/
theorem natOfDigits_replicate_append (n : Nat) (digits : List Char) :
    natOfDigits (List.replicate n '0' ++ digits) = natOfDigits digits := by
  simp [natOfDigits_append]

/-- Zeros at the end scale. -/
theorem natOfDigits_append_replicate (digits : List Char) (n : Nat) :
    natOfDigits (digits ++ List.replicate n '0') = natOfDigits digits * 10 ^ n := by
  simp [natOfDigits_append]

@[simp]
theorem natOfDigits_paddedDigits (width n : Nat) : natOfDigits (paddedDigits width n) = n := by
  unfold paddedDigits
  simp only [natOfDigits_replicate_append, natOfDigits_natDigits]

theorem isDigit_of_mem_natDigits {n : Nat} {c : Char} (hMem : c ∈ natDigits n) :
    isDigit c = true := by
  rw [isDigit_eq_isDigit]
  exact Nat.isDigit_of_mem_toDigits (by decide) (by decide) hMem

theorem isDigit_of_mem_paddedDigits {width n : Nat} {c : Char}
    (hMem : c ∈ paddedDigits width n) : isDigit c = true := by
  unfold paddedDigits at hMem
  rcases List.mem_append.mp hMem with hZero | hDigit
  · rw [List.eq_of_mem_replicate hZero]
    decide
  · exact isDigit_of_mem_natDigits hDigit

theorem natDigits_ne_nil (n : Nat) : natDigits n ≠ [] := Nat.toDigits_ne_nil

theorem paddedDigits_ne_nil (width n : Nat) : paddedDigits width n ≠ [] := by
  simp [paddedDigits, natDigits_ne_nil]

/-- A number that fits has exactly as many digits as it is padded to. -/
theorem length_paddedDigits {width n : Nat} (hWidth : 0 < width) (hFits : n < 10 ^ width) :
    (paddedDigits width n).length = width := by
  have hShort : (natDigits n).length ≤ width :=
    (Nat.length_toDigits_le_iff (by decide) hWidth).mpr hFits
  unfold paddedDigits
  rw [List.length_append, List.length_replicate]
  omega

/-- A digit is no sign. -/
theorem ne_sign_of_isDigit {c : Char} (hDigit : isDigit c = true) : c ≠ '-' ∧ c ≠ '+' := by
  constructor <;> rintro rfl <;> exact absurd hDigit (by decide)

/-- A digit is not white space. -/
theorem isSpace_of_isDigit {c : Char} (hDigit : isDigit c = true) : Text.isSpace c = false := by
  have hLow : 48 ≤ c.toNat ∧ c.toNat ≤ 57 := by
    unfold isDigit at hDigit
    simp only [Bool.and_eq_true, decide_eq_true_eq] at hDigit
    exact hDigit
  simp [Text.isSpace, Text.inRanges, Text.spaceRanges]
  omega

theorem isSpace_of_mem_intDigits {i : Int} {c : Char} (hMem : c ∈ intDigits i) :
    Text.isSpace c = false := by
  cases i with
  | ofNat n => exact isSpace_of_isDigit (isDigit_of_mem_natDigits hMem)
  | negSucc n =>
    rcases List.mem_cons.mp hMem with rfl | hDigit
    · decide
    · exact isSpace_of_isDigit (isDigit_of_mem_natDigits hDigit)

/-- A text that starts with a digit has no sign. -/
theorem readSign_of_isDigit {c : Char} {rest : List Char} (hDigit : isDigit c = true) :
    readSign (c :: rest) = (false, c :: rest) := by
  obtain ⟨hMinus, hPlus⟩ := ne_sign_of_isDigit hDigit
  unfold readSign
  split
  · next hSame => exact absurd (List.cons.inj hSame).1 hMinus
  · next hSame => exact absurd (List.cons.inj hSame).1 hPlus
  · rfl

/-- The text of an integer has a minus sign if the integer is negative. -/
theorem readSign_intDigits (i : Int) : (readSign (intDigits i)).1 = decide (i < 0) := by
  cases i with
  | ofNat n =>
    obtain ⟨c, rest, hDigits⟩ := List.exists_cons_of_ne_nil (natDigits_ne_nil n)
    have hDigit : isDigit c = true := isDigit_of_mem_natDigits (n := n) (by simp [hDigits])
    unfold intDigits
    simp only [hDigits]
    rw [readSign_of_isDigit hDigit]
    simp
  | negSucc n => simp [intDigits, readSign, Int.negSucc_lt_zero]

/-- A run of digits ends at the first character that is none. -/
theorem span_digits {run rest : List Char} (hRun : ∀ c ∈ run, isDigit c = true)
    (hRest : ∀ c ∈ rest.head?, isDigit c = false) :
    (run ++ rest).takeWhile isDigit = run ∧ (run ++ rest).dropWhile isDigit = rest := by
  rw [List.takeWhile_append_of_pos hRun, List.dropWhile_append_of_pos hRun]
  cases rest with
  | nil => simp
  | cons c rest => simp [hRest c rfl]

/-- A text with a character that is neither a digit nor a sign is no integer. -/
theorem readInt?_eq_none_of_mem {text : List Char} {c : Char} (hMem : c ∈ text)
    (hDigit : isDigit c = false) (hSign : c ≠ '-' ∧ c ≠ '+') : readInt? text = none := by
  have hBody : c ∈ (readSign text).2 := by
    unfold readSign
    split
    · exact (List.mem_cons.mp hMem).resolve_left hSign.1
    · exact (List.mem_cons.mp hMem).resolve_left hSign.2
    · exact hMem
  have hSome : (readSign text).2.all isDigit = false :=
    List.all_eq_false.mpr ⟨c, hBody, by simp [hDigit]⟩
  unfold readInt?
  simp [hSome]

/-- No character of an integer is white space. -/
theorem isSpace_of_readInt? {text : List Char} {i : Int} (hRead : readInt? text = some i) :
    ∀ c ∈ text, Text.isSpace c = false := by
  intro c hMem
  by_contra hSpace
  have hDigit : isDigit c = false := by
    by_contra hBad
    exact hSpace (isSpace_of_isDigit (by simpa using hBad))
  have hSign : c ≠ '-' ∧ c ≠ '+' := by
    constructor <;> rintro rfl <;> exact hSpace (by decide)
  rw [readInt?_eq_none_of_mem hMem hDigit hSign] at hRead
  cases hRead

/-- An integer is written as digits, with a sign or without. -/
theorem digits_of_readInt? {text : List Char} {i : Int} (hRead : readInt? text = some i) :
    (readSign text).2 ≠ [] ∧ (∀ c ∈ (readSign text).2, isDigit c = true) ∧
      i.natAbs = natOfDigits (readSign text).2 := by
  unfold readInt? at hRead
  generalize readSign text = parts at hRead ⊢
  obtain ⟨negative, digits⟩ := parts
  simp only at hRead
  split at hRead
  · cases hRead
  · next hDigits =>
    simp only [Bool.or_eq_true, List.isEmpty_iff, Bool.not_eq_true', not_or,
      Bool.not_eq_false, List.all_eq_true] at hDigits
    rw [Option.some.injEq] at hRead
    refine ⟨hDigits.1, hDigits.2, ?_⟩
    rw [← hRead]
    cases negative <;> simp

/-- The text of an integer is read as the integer. -/
@[simp]
theorem readInt?_intDigits (i : Int) : readInt? (intDigits i) = some i := by
  have hAll : ∀ n : Nat, (natDigits n).all isDigit = true := fun n =>
    List.all_eq_true.mpr fun _ hMem => isDigit_of_mem_natDigits hMem
  cases i with
  | ofNat n =>
    obtain ⟨c, rest, hDigits⟩ := List.exists_cons_of_ne_nil (natDigits_ne_nil n)
    have hDigit : isDigit c = true := isDigit_of_mem_natDigits (n := n) (by simp [hDigits])
    have hSign : readSign (natDigits n) = (false, natDigits n) := by
      rw [hDigits]
      exact readSign_of_isDigit hDigit
    have hEmpty : (natDigits n).isEmpty = false := by simp [natDigits_ne_nil]
    unfold readInt? intDigits
    simp only [hSign, hEmpty, hAll, natOfDigits_natDigits]
    rfl
  | negSucc n =>
    have hEmpty : (natDigits (n + 1)).isEmpty = false := by simp [natDigits_ne_nil]
    unfold readInt? intDigits
    simp only [readSign, hEmpty, hAll, natOfDigits_natDigits]
    rfl

/-- The text of a 64-bit integer is read as the integer. -/
@[simp]
theorem readInt64?_intDigits (n : Int64) : readInt64? (intDigits n.toInt) = some n := by
  unfold readInt64?
  have hLow : int64Min ≤ n.toInt := n.le_toInt
  have hHigh : n.toInt ≤ int64Max := n.toInt_le
  rw [readInt?_intDigits]
  simp [hLow, hHigh]

/-- A 64-bit integer is an integer of less than 64 binary digits. -/
theorem readInt?_of_readInt64? {text : List Char} {n : Int64} (hRead : readInt64? text = some n) :
    ∃ i, readInt? text = some i ∧ i.natAbs < 2 ^ 64 := by
  unfold readInt64? at hRead
  split at hRead
  · next i hInt =>
    split at hRead
    · next hRange =>
      unfold int64Min int64Max at hRange
      exact ⟨i, hInt, by omega⟩
    · cases hRead
  · cases hRead

end SingleTable.Number
