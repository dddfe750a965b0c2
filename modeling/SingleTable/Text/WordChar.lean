import SingleTable.Character.Trait

/-!
# Word characters, letters and digits

The character classes of word, letter and digit tests.  A word character is
alphabetic, a mark, a decimal digit, connector punctuation or a joiner; a digit is
any decimal digit of any script.  ASCII is decided without the tables, and so is
white space for words.
-/

namespace SingleTable.Text

open Character

/-- An ASCII letter, digit or underscore. -/
def isAsciiWord (c : Char) : Bool :=
  c.isAlphanum || c == '_'

/-- The categories of word characters that need not be alphabetic. -/
def wordCategories : List Category :=
  .decimalNumber :: .connectorPunctuation :: Category.group 'M'

/-- The character counts as part of a word. -/
def isWord (c : Char) : Bool :=
  if c.toNat < 128 then isAsciiWord c
  else if isSpace c then false
  else
    isAlphabetic c.toNat || Category.anyOf wordCategories c.toNat ||
      inRanges Listed.joinControl c.toNat

/-- The character is a decimal digit of some script. -/
def isDecimal (c : Char) : Bool :=
  if c.toNat < 128 then c.isDigit else Category.ofCode c.toNat == .decimalNumber

/-- The character is alphabetic. -/
def isLetter (c : Char) : Bool :=
  if c.toNat < 128 then c.isAlpha else isAlphabetic c.toNat

/-- The character is a digit, a fraction or another number. -/
def isNumber (c : Char) : Bool :=
  if c.toNat < 128 then c.isDigit else isNumeric c.toNat

/-- White space is no part of a word. -/
theorem isSpace_eq_false_of_isWord {c : Char} (hWord : isWord c = true) : isSpace c = false := by
  have hAscii : ∀ code < 128, isAsciiWord (Char.ofNat code) = true →
      isSpace (Char.ofNat code) = false := by decide
  unfold isWord at hWord
  split at hWord
  · next hCode =>
    have hSelf := hAscii c.toNat hCode
    rw [Char.ofNat_toNat] at hSelf
    exact hSelf hWord
  · split at hWord
    · exact absurd hWord (by simp)
    · next hSpace => simpa using hSpace

theorem isWord_eq_false_of_isSpace {c : Char} (hSpace : isSpace c = true) : isWord c = false := by
  cases hWord : isWord c with
  | false => rfl
  | true =>
    rw [isSpace_eq_false_of_isWord hWord] at hSpace
    exact Bool.noConfusion hSpace

end SingleTable.Text
