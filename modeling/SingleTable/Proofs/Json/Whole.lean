import Mathlib.Data.List.Basic
import SingleTable.Json.Numeral
import SingleTable.Proofs.Json.Tokens
import SingleTable.Proofs.Number.Whole

/-!
# Whole numbers in JSON

The text of an integer is a JSON number, as it has no needless zeros in front, and it denotes
the integer as far as 64 bits hold it.
-/

namespace SingleTable

namespace Number

theorem eq_zero_of_digitChar : ∀ n < 10, n.digitChar = '0' → n = 0 := by
  decide

/-- Only the digits of zero start with a zero. -/
theorem eq_zero_of_head?_natDigits (n : Nat) (hHead : (natDigits n).head? = some '0') : n = 0 := by
  induction n using Nat.strongRecOn with
  | _ n ih =>
    unfold natDigits at hHead ih
    by_cases hSmall : n < 10
    · rw [Nat.toDigits_of_lt_base hSmall, List.head?_cons, Option.some.injEq] at hHead
      exact eq_zero_of_digitChar n hSmall hHead
    · -- the first digit is that of the tens, which are not zero
      rw [Nat.toDigits_of_base_le (by decide) (by omega),
        List.head?_append_of_ne_nil _ Nat.toDigits_ne_nil] at hHead
      have hTens := ih (n / 10) (by omega) hHead
      omega

theorem toList_toString (i : Int) : (toString i).toList = intDigits i := by
  cases i with
  | ofNat n => exact Nat.toList_repr
  | negSucc n =>
    show ("-" ++ (n + 1).repr).toList = _
    rw [String.toList_append, Nat.toList_repr]
    rfl

end Number

namespace Json

open Number Token

/-- Digits are all that is there of a whole number. -/
theorem span_natDigits (n : Nat) :
    (natDigits n).takeWhile isDigit = natDigits n ∧ (natDigits n).dropWhile isDigit = [] := by
  have hSpan := @span_digits (natDigits n) [] (fun _ hMem => isDigit_of_mem_natDigits hMem) nofun
  rwa [List.append_nil] at hSpan

theorem head?_natDigits_ne_minus (n : Nat) : (natDigits n).head? ≠ some '-' := by
  intro hHead
  have hMinus := isDigit_of_mem_natDigits (List.mem_of_mem_head? hHead)
  exact absurd hMinus (by decide)

theorem no_needless_zero (n : Nat) :
    ((natDigits n).isEmpty || (1 < (natDigits n).length && (natDigits n).head? == some '0')) =
      false := by
  have hSome : (natDigits n).isEmpty = false := by simp [natDigits_ne_nil]
  rw [hSome, Bool.false_or, Bool.and_eq_false_iff]
  by_cases hZero : n = 0
  · subst hZero
    exact Or.inl rfl
  · right
    rw [beq_eq_false_iff_ne]
    exact fun hHead => hZero (eq_zero_of_head?_natDigits n hHead)

/-- Digits without a needless zero in front are a number, with a minus or without. -/
theorem numberLength?_signed {signs : List Char} {n : Nat}
    (hSigns : ((signs ++ natDigits n).take 1).takeWhile (· == '-') = signs) :
    numberLength? (signs ++ natDigits n) = some (signs ++ natDigits n).length := by
  unfold numberLength?
  simp only [hSigns, List.drop_left, (span_natDigits n).1, no_needless_zero n,
    ← List.length_append, List.drop_length]
  simp [fractionLength?, exponentLength?]

theorem numberLength?_intDigits (i : Int) :
    numberLength? (intDigits i) = some (intDigits i).length := by
  cases i with
  | ofNat n =>
    refine @numberLength?_signed [] n ?_
    have hHead := head?_natDigits_ne_minus n
    rw [List.nil_append]
    cases hDigits : natDigits n with
    | nil => rfl
    | cons c rest =>
      rw [hDigits, List.head?_cons, ne_eq, Option.some.injEq] at hHead
      simp [hHead]
  | negSucc n => exact @numberLength?_signed ['-'] (n + 1) rfl

/-- The text of an integer is a JSON number. -/
theorem isNumber_toString (i : Int) : IsNumber (toString i) := by
  unfold IsNumber
  rw [toList_toString]
  exact numberLength?_intDigits i

/-- The parts of the text are a minus, if there is one, and the digits. -/
theorem ofLiteral_toString (i : Int) :
    Numeral.ofLiteral (toString i) = ⟨decide (i < 0), natDigits i.natAbs, none, none⟩ := by
  unfold Numeral.ofLiteral
  rw [toList_toString]
  cases i with
  | ofNat n =>
    have hSign : ((natDigits n).head? == some '-') = false := by
      simp [head?_natDigits_ne_minus n]
    simp only [intDigits, hSign]
    simp [span_natDigits n]
  | negSucc n =>
    simp only [intDigits]
    simp [span_natDigits (n + 1)]

/-- The text of an integer denotes the integer. -/
theorem whole?_ofLiteral_toString {i : Int} (hLow : -9223372036854775808 ≤ i)
    (hHigh : i ≤ 18446744073709551615) : (Numeral.ofLiteral (toString i)).whole? = some i := by
  rw [ofLiteral_toString]
  unfold Numeral.whole?
  simp only [Option.isSome_none, Bool.or_self, Bool.false_eq_true, if_false, natOfDigits_natDigits]
  by_cases hNegative : i < 0
  · rw [if_pos (by simpa using hNegative), if_pos (by constructor <;> omega), Option.some.injEq]
    omega
  · have hFits : i.natAbs ≤ Numeral.maxWord := by
      show i.natAbs ≤ 18446744073709551615
      omega
    rw [if_neg (by simpa using hNegative), if_pos hFits, Option.some.injEq]
    omega

end Json

end SingleTable
