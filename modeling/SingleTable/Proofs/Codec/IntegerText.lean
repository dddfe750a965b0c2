import SingleTable.Proofs.Codec.RoundTrip
import SingleTable.Proofs.Number.WholeRounding

/-!
# Texts of integers stored as whole numbers

Where a whole number is stored, a string is read as a float first, also one that is the text
of an integer.  So what is stored for it is the integer that the nearest double stands for.
This is the integer itself if it has at most 53 binary digits before zeros; others are stored
changed, where the integer given as such is stored as it is.
-/

namespace SingleTable.Codec

open Number Outcome

/-- The text of an integer is read as the nearest double. -/
theorem readFloat_int64Text (n : Int64) : readFloat (int64Text n) = .ok (Double.ofInt n.toInt) := by
  have hSolid : ∀ c ∈ intDigits n.toInt, Text.isSpace c = false :=
    fun _ => isSpace_of_mem_intDigits
  unfold readFloat int64Text intText
  rw [String.toList_ofList, Text.trim_eq_self hSolid, Double.ofText?_intDigits]
  simp [Option.filter, Double.isFinite_ofInt, orError]

/-- What is stored for the text of an integer is what is stored for the integer that its
double is cut off to. -/
theorem integerText_int64Text (type : ColumnType) (n : Int64) :
    integerText type (.string (int64Text n)) =
      integerText type (.integer (Double.ofInt n.toInt).truncate) :=
  bind_ok (readFloat_int64Text n) _

/-- Texts of integers are different for different integers. -/
theorem int64Text_inj {n m : Int64} : int64Text n = int64Text m ↔ n = m := by
  constructor
  · intro hText
    have hRead := @readInteger_int64Text n
    rw [hText, readInteger_int64Text] at hRead
    exact (Except.ok.inj hRead).symm
  · rintro rfl
    rfl

/-- An integer is stored as its own text. -/
theorem encodeAs_integer (n : Int64) :
    encodeAs (.integer n) .integer = .ok (some (.number (int64Text n))) ∧
      encodeAs (.integer n) .timestamp = .ok (some (.number (int64Text n))) :=
  ⟨encodeAs_of_encodeFlat rfl rfl, encodeAs_of_encodeFlat rfl rfl⟩

/-- The text of an integer is stored as the text of what its double is cut off to. -/
theorem encodeAs_int64Text (n : Int64) :
    encodeAs (.string (int64Text n)) .integer =
        .ok (some (.number (int64Text (Double.ofInt n.toInt).truncate))) ∧
      encodeAs (.string (int64Text n)) .timestamp =
        .ok (some (.number (int64Text (Double.ofInt n.toInt).truncate))) := by
  have hFilled : int64Text n ≠ "" := intText_ne_empty n.toInt
  have hNull : (Value.string (int64Text n)).isNull = false := by simpa using hFilled
  constructor
  · refine encodeAs_of_encodeFlat ?_ hNull
    rw [encodeFlat, integerText_int64Text]
    rfl
  · refine encodeAs_of_encodeFlat ?_ hNull
    show (integerText .timestamp (.string (int64Text n))).map Cell.number = _
    rw [integerText_int64Text]
    rfl

/-- In a set of integers the text of one counts as what its double is cut off to. -/
theorem encodeFlat_integerSet_of_items {value : Value} {n : Int64} {front back : List Value}
    (hItems : setItems .integerSet value = .ok (front ++ .string (int64Text n) :: back)) :
    encodeFlat value .integerSet =
      encodeFlat (.list (front ++ .integer (Double.ofInt n.toInt).truncate :: back))
        .integerSet := by
  unfold encodeFlat
  rw [bind_ok hItems, mapM_replace (integerText_int64Text .integerSet n)]
  rfl

theorem encodeAs_list_integerSet (items : List Value) :
    encodeAs (.list items) .integerSet =
      (do return some (← encodeFlat (.list items) .integerSet)) := rfl

theorem encodeAs_stringSet_integerSet (texts : List String) :
    encodeAs (.stringSet texts) .integerSet =
      (do return some (← encodeFlat (.stringSet texts) .integerSet)) := rfl

/-- The text of a 64-bit integer is stored as the text of the nearest number of at most 53
binary digits before zeros, and the even one of two equally near, cut off to 64 bits.  This
holds under an integer column, under a timestamp column and for an item of a set of integers,
whatever its other items are.  An integer that is given as such is stored as its own text.
So the two are stored alike exactly if the integer itself has at most 53 binary digits before
zeros, or is the largest there is. -/
theorem integer_text_stored_through_nearest_double (n : Int64) :
    ∃ multiple stored, stored = clampInt64 multiple ∧
      (∀ other, NearestMultiple (lastPlace n.toInt.natAbs) n.toInt other ↔ other = multiple) ∧
      (encodeAs (.string (int64Text n)) .integer = .ok (some (.number (int64Text stored))) ∧
        encodeAs (.string (int64Text n)) .timestamp = .ok (some (.number (int64Text stored)))) ∧
      (∀ front back, encodeAs (.list (front ++ .string (int64Text n) :: back)) .integerSet =
        encodeAs (.list (front ++ .integer stored :: back)) .integerSet) ∧
      (∀ front back, encodeAs (.stringSet (front ++ int64Text n :: back)) .integerSet =
        encodeAs (.list (front.map .string ++ .integer stored :: back.map .string)) .integerSet) ∧
      (encodeAs (.integer n) .integer = .ok (some (.number (int64Text n))) ∧
        encodeAs (.integer n) .timestamp = .ok (some (.number (int64Text n)))) ∧
      (∀ ns : List Int64, encodeAs (.list (ns.map .integer)) .integerSet =
        .ok (some (.numberSet (ns.map int64Text)))) ∧
      (int64Text stored = int64Text n ↔
        (∃ digits zeros, digits < 2 ^ 53 ∧ n.toInt.natAbs = digits * 2 ^ zeros) ∨
          n = Int64.maxValue) := by
  obtain ⟨multiple, hNearest, hTruncate⟩ := Double.exists_truncate_ofInt n
  refine ⟨multiple, _, hTruncate, ?_, encodeAs_int64Text n, ?_, ?_, encodeAs_integer n, ?_, ?_⟩
  · intro other
    constructor
    · exact fun hOther => hOther.unique (lastPlace_pos _) hNearest
    · rintro rfl
      exact hNearest
  · intro front back
    rw [encodeAs_list_integerSet, encodeAs_list_integerSet, encodeFlat_integerSet_of_items rfl]
  · intro front back
    have hItems : setItems .integerSet (.stringSet (front ++ int64Text n :: back)) =
        .ok (front.map .string ++ .string (int64Text n) :: back.map .string) := by
      simp [setItems]
    rw [encodeAs_stringSet_integerSet, encodeAs_list_integerSet,
      encodeFlat_integerSet_of_items hItems]
  · intro ns
    have hCell : encodeFlat (.list (ns.map .integer)) .integerSet =
        .ok (.numberSet (ns.map int64Text)) := encodeFlat_integerSet ns
    exact encodeAs_of_encodeFlat hCell rfl
  · rw [int64Text_inj]
    exact Double.truncate_ofInt_eq_iff n

/-- The first integer that no double stands for is stored as the one before it. -/
theorem integer_text_stored_changed :
    int64Text 9007199254740993 = "9007199254740993" ∧
      encodeAs (.string "9007199254740993") .integer =
        .ok (some (.number "9007199254740992")) ∧
      encodeAs (.integer 9007199254740993) .integer =
        .ok (some (.number "9007199254740993")) := by
  have hTruncate : (Double.ofInt (9007199254740993 : Int64).toInt).truncate =
      9007199254740992 := by decide +kernel
  have hText := (encodeAs_int64Text 9007199254740993).1
  rw [hTruncate] at hText
  exact ⟨rfl, hText, (encodeAs_integer 9007199254740993).1⟩

end SingleTable.Codec
