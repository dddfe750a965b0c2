import SingleTable.Text.Base64

/-!
# Base64 read back

Reading undoes writing, and writing undoes reading, so that a byte string has one text and
a text at most one byte string.  The texts that are read are those of `Strict`: groups of
four letters, of which the last may be filled up with `=` if the bits that this cuts off
are zero.
-/

namespace SingleTable.Text.Base64

/-- Base64 that has its padding, and no bits under the padding. -/
inductive Strict : List Char → Prop where
  | empty : Strict []
  | oneByte {a b : Char} {m n : Nat} (hA : letterValue? a = some m) (hB : letterValue? b = some n)
    (hSpare : n % 16 = 0) : Strict [a, b, '=', '=']
  | twoBytes {a b c : Char} {m n k : Nat} (hA : letterValue? a = some m)
    (hB : letterValue? b = some n) (hC : letterValue? c = some k) (hSpare : k % 4 = 0) :
    Strict [a, b, c, '=']
  | group {a b c d : Char} {m n k l : Nat} {rest : List Char} (hA : letterValue? a = some m)
    (hB : letterValue? b = some n) (hC : letterValue? c = some k) (hD : letterValue? d = some l)
    (hRest : Strict rest) : Strict (a :: b :: c :: d :: rest)

theorem letterValue?_letter_of_lt : ∀ n < 64, letterValue? (letter n) = some n := by
  decide

theorem letterValue?_letter {n : Nat} (hSmall : n < 64) : letterValue? (letter n) = some n :=
  letterValue?_letter_of_lt n hSmall

/-- A character between two others has a number between theirs. -/
theorem toNat_between {low c high : Char} (hBetween : low ≤ c ∧ c ≤ high) :
    low.toNat ≤ c.toNat ∧ c.toNat ≤ high.toNat :=
  ⟨UInt32.le_iff_toNat_le.mp hBetween.1, UInt32.le_iff_toNat_le.mp hBetween.2⟩

/-- A letter is that of its number. -/
theorem letter_of_letterValue? {c : Char} {n : Nat} (hValue : letterValue? c = some n) :
    n < 64 ∧ letter n = c := by
  have hOfNat : ∀ k, k = c.toNat → Char.ofNat k = c := fun k hK => hK ▸ Char.ofNat_toNat c
  have hA : 'A'.toNat = 65 := rfl
  have hZ : 'Z'.toNat = 90 := rfl
  have ha : 'a'.toNat = 97 := rfl
  have hz : 'z'.toNat = 122 := rfl
  have h0 : '0'.toNat = 48 := rfl
  have h9 : '9'.toNat = 57 := rfl
  unfold letterValue? at hValue
  unfold letter
  split at hValue
  · next hUpper =>
    obtain ⟨hLow, hHigh⟩ := toNat_between hUpper
    cases hValue
    rw [if_pos (by omega)]
    exact ⟨by omega, hOfNat _ (by omega)⟩
  split at hValue
  · next hLower =>
    obtain ⟨hLow, hHigh⟩ := toNat_between hLower
    cases hValue
    rw [if_neg (by omega), if_pos (by omega)]
    exact ⟨by omega, hOfNat _ (by omega)⟩
  split at hValue
  · next hDigit =>
    obtain ⟨hLow, hHigh⟩ := toNat_between hDigit
    cases hValue
    rw [if_neg (by omega), if_neg (by omega), if_pos (by omega)]
    exact ⟨by omega, hOfNat _ (by omega)⟩
  split at hValue
  · next hPlus =>
    cases hValue
    exact ⟨by decide, hPlus.symm⟩
  split at hValue
  · next hSlash =>
    cases hValue
    exact ⟨by decide, hSlash.symm⟩
  · cases hValue

/-- The mark that fills a group up is no letter. -/
theorem letter_ne_padding {n : Nat} (hSmall : n < 64) : letter n ≠ '=' := by
  intro hPadding
  have hValue := letterValue?_letter hSmall
  rw [hPadding] at hValue
  cases hValue

section Groups

variable {a b c d : Char} {m n k l : Nat} {rest : List Char} {bytes : List UInt8}

theorem decodeOne?_eq_some_iff :
    decodeOne? a b = some bytes ↔ ∃ m n, letterValue? a = some m ∧ letterValue? b = some n ∧
      n % 16 = 0 ∧ bytes = [UInt8.ofNat ((m * 64 + n) / 16)] := by
  have hSpare : ∀ m n, (m * 64 + n) % 16 = 0 ↔ n % 16 = 0 := by omega
  unfold decodeOne?
  cases letterValue? a <;> cases letterValue? b <;> simp [hSpare, eq_comm]

theorem decodeTwo?_eq_some_iff :
    decodeTwo? a b c = some bytes ↔ ∃ m n k, letterValue? a = some m ∧
      letterValue? b = some n ∧ letterValue? c = some k ∧ k % 4 = 0 ∧
      bytes = [UInt8.ofNat (((m * 64 + n) * 64 + k) / 1024),
        UInt8.ofNat (((m * 64 + n) * 64 + k) / 4 % 256)] := by
  have hSpare : ∀ m n k, ((m * 64 + n) * 64 + k) % 4 = 0 ↔ k % 4 = 0 := by omega
  unfold decodeTwo?
  cases letterValue? a <;> cases letterValue? b <;> cases letterValue? c <;>
    simp [hSpare, eq_comm]

theorem decodeThree?_eq_some_iff :
    decodeThree? a b c d = some bytes ↔ ∃ m n k l, letterValue? a = some m ∧
      letterValue? b = some n ∧ letterValue? c = some k ∧ letterValue? d = some l ∧
      bytes = [UInt8.ofNat ((((m * 64 + n) * 64 + k) * 64 + l) / 65536),
        UInt8.ofNat ((((m * 64 + n) * 64 + k) * 64 + l) / 256 % 256),
        UInt8.ofNat ((((m * 64 + n) * 64 + k) * 64 + l) % 256)] := by
  unfold decodeThree?
  cases letterValue? a <;> cases letterValue? b <;> cases letterValue? c <;>
    cases letterValue? d <;> simp [eq_comm]

/-- A group that is not filled up is followed by further groups. -/
theorem decode?_group (hD : d ≠ '=') :
    decode? (a :: b :: c :: d :: rest) =
      (do
        let bytes ← decodeThree? a b c d
        let more ← decode? rest
        some (bytes ++ more)) := by
  rw [decode?]
  · rintro rfl hBad
    exact absurd hBad hD
  · rintro hBad
    exact absurd hBad hD

end Groups

/-- The text of a byte string is read as the byte string. -/
theorem decode?_encode (bytes : List UInt8) : decode? (encode bytes) = some bytes := by
  fun_induction encode bytes with
  | case1 => rfl
  | case2 a n =>
    have hA := a.toNat_lt
    have hN : n = a.toNat * 16 := rfl
    refine decodeOne?_eq_some_iff.mpr ⟨n / 64, n % 64, letterValue?_letter (by omega),
      letterValue?_letter (by omega), by omega, ?_⟩
    rw [show (n / 64 * 64 + n % 64) / 16 = a.toNat by omega, UInt8.ofNat_toNat]
  | case3 a b n =>
    have hA := a.toNat_lt
    have hB := b.toNat_lt
    have hN : n = (a.toNat * 256 + b.toNat) * 4 := rfl
    rw [decode?]
    · refine decodeTwo?_eq_some_iff.mpr ⟨n / 4096, n / 64 % 64, n % 64,
        letterValue?_letter (by omega), letterValue?_letter (by omega),
        letterValue?_letter (by omega), by omega, ?_⟩
      rw [show (n / 4096 * 64 + n / 64 % 64) * 64 + n % 64 = n by omega,
        show n / 1024 = a.toNat by omega, show n / 4 % 256 = b.toNat by omega,
        UInt8.ofNat_toNat, UInt8.ofNat_toNat]
    · exact letter_ne_padding (by omega)
  | case4 a b c rest n ih =>
    have hA := a.toNat_lt
    have hB := b.toNat_lt
    have hC := c.toNat_lt
    have hN : n = (a.toNat * 256 + b.toNat) * 256 + c.toNat := rfl
    have hGroup : decodeThree? (letter (n / 262144)) (letter (n / 4096 % 64))
        (letter (n / 64 % 64)) (letter (n % 64)) = some [a, b, c] := by
      refine decodeThree?_eq_some_iff.mpr ⟨n / 262144, n / 4096 % 64, n / 64 % 64, n % 64,
        letterValue?_letter (by omega), letterValue?_letter (by omega),
        letterValue?_letter (by omega), letterValue?_letter (by omega), ?_⟩
      rw [show ((n / 262144 * 64 + n / 4096 % 64) * 64 + n / 64 % 64) * 64 + n % 64 = n by omega,
        show n / 65536 = a.toNat by omega, show n / 256 % 256 = b.toNat by omega,
        show n % 256 = c.toNat by omega, UInt8.ofNat_toNat, UInt8.ofNat_toNat, UInt8.ofNat_toNat]
    rw [decode?_group (letter_ne_padding (by omega)), hGroup, ih]
    rfl

/-- A text that is read is the text of what is read. -/
theorem encode_of_decode? {text : List Char} {bytes : List UInt8}
    (hRead : decode? text = some bytes) : encode bytes = text := by
  fun_induction decode? text generalizing bytes with
  | case1 =>
    cases hRead
    rfl
  | case2 a b =>
    obtain ⟨m, n, hA, hB, hSpare, rfl⟩ := decodeOne?_eq_some_iff.mp hRead
    obtain ⟨hM, rfl⟩ := letter_of_letterValue? hA
    obtain ⟨hN, rfl⟩ := letter_of_letterValue? hB
    have hByte : (UInt8.ofNat ((m * 64 + n) / 16)).toNat * 16 = m * 64 + n := by
      rw [UInt8.toNat_ofNat']
      omega
    simp only [encode, hByte]
    rw [show (m * 64 + n) / 64 = m by omega, show (m * 64 + n) % 64 = n by omega]
  | case3 a b c hFull =>
    obtain ⟨m, n, k, hA, hB, hC, hSpare, rfl⟩ := decodeTwo?_eq_some_iff.mp hRead
    obtain ⟨hM, rfl⟩ := letter_of_letterValue? hA
    obtain ⟨hN, rfl⟩ := letter_of_letterValue? hB
    obtain ⟨hK, rfl⟩ := letter_of_letterValue? hC
    have hBytes : ((UInt8.ofNat (((m * 64 + n) * 64 + k) / 1024)).toNat * 256 +
        (UInt8.ofNat (((m * 64 + n) * 64 + k) / 4 % 256)).toNat) * 4 =
          (m * 64 + n) * 64 + k := by
      rw [UInt8.toNat_ofNat', UInt8.toNat_ofNat']
      omega
    simp only [encode, hBytes]
    rw [show ((m * 64 + n) * 64 + k) / 4096 = m by omega,
      show ((m * 64 + n) * 64 + k) / 64 % 64 = n by omega,
      show ((m * 64 + n) * 64 + k) % 64 = k by omega]
  | case4 a b c d rest hOne hTwo ih =>
    simp only [Option.bind_eq_bind, Option.bind_eq_some_iff, Option.some.injEq] at hRead
    obtain ⟨group, hGroup, more, hMore, rfl⟩ := hRead
    obtain ⟨m, n, k, l, hA, hB, hC, hD, rfl⟩ := decodeThree?_eq_some_iff.mp hGroup
    obtain ⟨hM, rfl⟩ := letter_of_letterValue? hA
    obtain ⟨hN, rfl⟩ := letter_of_letterValue? hB
    obtain ⟨hK, rfl⟩ := letter_of_letterValue? hC
    obtain ⟨hL, rfl⟩ := letter_of_letterValue? hD
    have hBytes : ((UInt8.ofNat ((((m * 64 + n) * 64 + k) * 64 + l) / 65536)).toNat * 256 +
        (UInt8.ofNat ((((m * 64 + n) * 64 + k) * 64 + l) / 256 % 256)).toNat) * 256 +
        (UInt8.ofNat ((((m * 64 + n) * 64 + k) * 64 + l) % 256)).toNat =
          ((m * 64 + n) * 64 + k) * 64 + l := by
      rw [UInt8.toNat_ofNat', UInt8.toNat_ofNat', UInt8.toNat_ofNat']
      omega
    simp only [List.cons_append, List.nil_append, encode, hBytes, ih hMore]
    rw [show (((m * 64 + n) * 64 + k) * 64 + l) / 262144 = m by omega,
      show (((m * 64 + n) * 64 + k) * 64 + l) / 4096 % 64 = n by omega,
      show (((m * 64 + n) * 64 + k) * 64 + l) / 64 % 64 = k by omega,
      show (((m * 64 + n) * 64 + k) * 64 + l) % 64 = l by omega]
  | case5 => cases hRead

theorem decode?_eq_some_iff {text : List Char} {bytes : List UInt8} :
    decode? text = some bytes ↔ text = encode bytes :=
  ⟨fun hRead => (encode_of_decode? hRead).symm, fun hText => hText ▸ decode?_encode bytes⟩

/-- Exactly strict base64 is read. -/
theorem exists_decode?_iff {text : List Char} :
    (∃ bytes, decode? text = some bytes) ↔ Strict text := by
  constructor
  · rintro ⟨bytes, hRead⟩
    fun_induction decode? text generalizing bytes with
    | case1 => exact .empty
    | case2 a b =>
      obtain ⟨m, n, hA, hB, hSpare, _⟩ := decodeOne?_eq_some_iff.mp hRead
      exact .oneByte hA hB hSpare
    | case3 a b c hFull =>
      obtain ⟨m, n, k, hA, hB, hC, hSpare, _⟩ := decodeTwo?_eq_some_iff.mp hRead
      exact .twoBytes hA hB hC hSpare
    | case4 a b c d rest hOne hTwo ih =>
      simp only [Option.bind_eq_bind, Option.bind_eq_some_iff, Option.some.injEq] at hRead
      obtain ⟨group, hGroup, more, hMore, _⟩ := hRead
      obtain ⟨m, n, k, l, hA, hB, hC, hD, _⟩ := decodeThree?_eq_some_iff.mp hGroup
      exact .group hA hB hC hD (ih _ hMore)
    | case5 => cases hRead
  · intro hStrict
    induction hStrict with
    | empty => exact ⟨[], rfl⟩
    | oneByte hA hB hSpare => exact ⟨_, decodeOne?_eq_some_iff.mpr ⟨_, _, hA, hB, hSpare, rfl⟩⟩
    | @twoBytes a b c m n k hA hB hC hSpare =>
      have hLetter : c ≠ '=' := by
        rintro rfl
        cases hC
      have hGroup := decodeTwo?_eq_some_iff.mpr ⟨m, n, k, hA, hB, hC, hSpare, rfl⟩
      have hRead : decode? [a, b, c, '='] = decodeTwo? a b c := by
        rw [decode?]
        exact hLetter
      exact ⟨_, hRead.trans hGroup⟩
    | @group a b c d m n k l rest hA hB hC hD _ ih =>
      have hLetter : d ≠ '=' := by
        rintro rfl
        cases hD
      obtain ⟨more, hMore⟩ := ih
      have hGroup := decodeThree?_eq_some_iff.mpr ⟨m, n, k, l, hA, hB, hC, hD, rfl⟩
      rw [decode?_group hLetter, hGroup, hMore]
      exact ⟨_, rfl⟩

end SingleTable.Text.Base64
