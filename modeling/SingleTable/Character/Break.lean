import SingleTable.Character.Script
import SingleTable.Character.Trait

/-!
# Break classes

The classes by which a text is cut into characters as readers see them, into words
and into sentences.  The conditions of the classes overlap; a code point belongs to
the first class, in the order of the definitions, whose condition it meets.
-/

namespace SingleTable.Character

open Text

/-- The code point has one of these categories. -/
private def has (categories : List Category) (code : Nat) : Bool :=
  Category.anyOf categories code

/-- Format controls, without the signs that span the digits behind them. -/
private def isFormat (code : Nat) : Bool :=
  has [.format] code && !inRanges Listed.prepended code

/-- A class of the division into characters. -/
inductive GraphemeBreak where
  | carriageReturn
  | lineFeed
  | prepend
  | extend
  | joiner
  | regional
  | control
  | spacing
  | leading
  | vowel
  | trailing
  | openSyllable
  | closedSyllable
  | other
deriving DecidableEq, Repr

namespace GraphemeBreak

/-- The classes with their names; the last class has none. -/
def names : List (GraphemeBreak × List String) :=
  [(.carriageReturn, ["CR"]), (.lineFeed, ["LF"]), (.prepend, ["PP", "Prepend"]),
   (.extend, ["EX", "Extend"]), (.joiner, ["ZWJ"]), (.regional, ["RI", "Regional_Indicator"]),
   (.control, ["CN", "Control"]), (.spacing, ["SM", "SpacingMark"]), (.leading, ["L"]),
   (.vowel, ["V"]), (.trailing, ["T"]), (.openSyllable, ["LV"]), (.closedSyllable, ["LVT"])]

/-- Letters that lead a consonant cluster and stand before it. -/
def prefixed : List (Nat × Nat) :=
  ranges "D4E 111C2-111C3 113D1 1193F 11941 11A3A 11A84-11A89 11D46 11F02"

/-- Spacing marks that do not belong to the character before them. -/
def detached : List (Nat × Nat) := ranges "
  102B-102C 1038 1062-1064 1067-106D 1083 1087-108C 108F 109A-109C 1A61 1A63-1A64 AA7B AA7D
  11720-11721"

/-- The class of a code point. -/
def ofCode (code : Nat) : GraphemeBreak :=
  if code = 0xD then .carriageReturn
  else if code = 0xA then .lineFeed
  else if inRanges Listed.prepended code || inRanges prefixed code then .prepend
  else if isGraphemeExtend code || inRanges Listed.emojiModifier code then .extend
  else if code = 0x200D then .joiner
  else if inRanges Listed.regional code then .regional
  else if isFormat code || has [.control, .surrogate, .lineSeparator, .paragraphSeparator] code ||
      (has [.unassigned] code && isDefaultIgnorable code) then .control
  else if (has [.spacingMark] code && !inRanges detached code) || [0xE33, 0xEB3].contains code then
    .spacing
  else if inRanges [(0x1100, 0x115F), (0xA960, 0xA97C)] code then .leading
  else if inRanges
      [(0x1160, 0x11A7), (0x16D63, 0x16D63), (0x16D67, 0x16D6A), (0xD7B0, 0xD7C6)] code then
    .vowel
  else if inRanges [(0x11A8, 0x11FF), (0xD7CB, 0xD7FB)] code then .trailing
  else if inRanges [(0xAC00, 0xD7A3)] code then
    if (code - 0xAC00) % 28 = 0 then .openSyllable else .closedSyllable
  else .other

end GraphemeBreak

/-- A class of the division into words. -/
inductive WordBreak where
  | carriageReturn
  | lineFeed
  | newline
  | joiner
  | extend
  | regional
  | numeric
  | format
  | katakana
  | hebrewLetter
  | singleQuote
  | doubleQuote
  | midNumLet
  | midLetter
  | midNum
  | extendNumLet
  | letter
  | space
  | other
deriving DecidableEq, Repr

namespace WordBreak

/-- The classes with their names; the last class has none. -/
def names : List (WordBreak × List String) :=
  [(.carriageReturn, ["CR"]), (.lineFeed, ["LF"]), (.newline, ["NL", "Newline"]),
   (.joiner, ["ZWJ"]), (.extend, ["Extend"]), (.regional, ["RI", "Regional_Indicator"]),
   (.numeric, ["NU", "Numeric"]), (.format, ["FO", "Format"]), (.katakana, ["KA", "Katakana"]),
   (.hebrewLetter, ["HL", "Hebrew_Letter"]), (.singleQuote, ["SQ", "Single_Quote"]),
   (.doubleQuote, ["DQ", "Double_Quote"]), (.midNumLet, ["MB", "MidNumLet"]),
   (.midLetter, ["ML", "MidLetter"]), (.midNum, ["MN", "MidNum"]),
   (.extendNumLet, ["EX", "ExtendNumLet"]), (.letter, ["LE", "ALetter"]),
   (.space, ["WSegSpace"])]

/-- Scripts that are written without spaces between words. -/
def unspaced : List Script :=
  ["Ahom", "Khmr", "Lana", "Laoo", "Mymr", "Tale", "Talu", "Tavt", "Thai"].map fun letters =>
    ⟨letters.toList⟩

/-- Signs that count as letters of a word though they are not alphabetic. -/
def letterSigns : List (Nat × Nat) := ranges "
  2C2-2C5 2D2-2D7 2DE-2DF 2E5-2EB 2ED 2EF-2FF 55A-55C 55E 58A 5F3 70F A708-A716 A720-A721
  A789-A78A AB5B"

/-- Signs of katakana text that other scripts use too. -/
def katakanaSigns : List (Nat × Nat) :=
  ranges "3031-3035 309B-309C 30A0 30FC FF70"

/-- The code point has the script. -/
private def inScript (letters : String) (code : Nat) : Bool :=
  Script.ofCode code == ⟨letters.toList⟩

/-- The code point is part of a word in a script that puts spaces between words. -/
def isLetter (code : Nat) : Bool :=
  (isAlphabetic code || inRanges letterSigns code) && !inRanges Listed.ideographic code &&
    !inScript "Hira" code && !unspaced.contains (Script.ofCode code)

/-- The class of a code point. -/
def ofCode (code : Nat) : WordBreak :=
  if code = 0xD then .carriageReturn
  else if code = 0xA then .lineFeed
  else if inRanges [(0xB, 0xC), (0x85, 0x85), (0x2028, 0x2029)] code then .newline
  else if code = 0x200D then .joiner
  else if isGraphemeExtend code || has [.spacingMark] code ||
      inRanges Listed.emojiModifier code then .extend
  else if inRanges Listed.regional code then .regional
  else if has [.decimalNumber] code || code = 0x66B ||
      (inRanges Listed.prepended code && code != 0x70F) then .numeric
  else if isFormat code && !inRanges [(0x200B, 0x200D)] code then .format
  else if inScript "Kana" code || inRanges katakanaSigns code then .katakana
  else if inScript "Hebr" code && has [.otherLetter] code then .hebrewLetter
  else if code = 0x27 then .singleQuote
  else if code = 0x22 then .doubleQuote
  else if [0x2E, 0x2018, 0x2019, 0x2024, 0xFE52, 0xFF07, 0xFF0E].contains code then .midNumLet
  else if [0x3A, 0xB7, 0x387, 0x55F, 0x5F4, 0x2027, 0xFE13, 0xFE55, 0xFF1A].contains code then
    .midLetter
  else if [0x2C, 0x3B, 0x37E, 0x589, 0x60C, 0x60D, 0x66C, 0x7F8, 0x2044, 0xFE10, 0xFE14, 0xFE50,
      0xFE54, 0xFF0C, 0xFF1B].contains code then .midNum
  else if has [.connectorPunctuation] code || code = 0x202F then .extendNumLet
  else if isLetter code then .letter
  else if has [.spaceSeparator] code && !([0xA0, 0x2007].contains code) then .space
  else .other

end WordBreak

/-- A class of the division into sentences. -/
inductive SentenceBreak where
  | carriageReturn
  | lineFeed
  | extend
  | separator
  | numeric
  | format
  | space
  | lower
  | upper
  | otherLetter
  | stop
  | terminal
  | continuing
  | close
  | other
deriving DecidableEq, Repr

namespace SentenceBreak

/-- The classes with their names; the last class has none. -/
def names : List (SentenceBreak × List String) :=
  [(.carriageReturn, ["CR"]), (.lineFeed, ["LF"]), (.extend, ["EX", "Extend"]),
   (.separator, ["SE", "Sep"]), (.numeric, ["NU", "Numeric"]), (.format, ["FO", "Format"]),
   (.space, ["SP", "Sp"]), (.lower, ["LO", "Lower"]), (.upper, ["UP", "Upper"]),
   (.otherLetter, ["LE", "OLetter"]), (.stop, ["AT", "ATerm"]), (.terminal, ["ST", "STerm"]),
   (.continuing, ["SC", "SContinue"]), (.close, ["CL", "Close"])]

/-- Punctuation behind which a sentence goes on. -/
def goingOn : List (Nat × Nat) := ranges "
  2C-2D 3A-3B 37E 55D 60C-60D 7F8 1802 1808 2013-2014 3001 FE10-FE11 FE13-FE14 FE31-FE32
  FE50-FE51 FE54-FE55 FE58 FE63 FF0C-FF0D FF1A-FF1B FF64"

/-- Quotation marks besides initial and final punctuation. -/
def quotes : List (Nat × Nat) :=
  ranges "22 27 275B-2760 2E00-2E01 2E06-2E08 2E0B 1F676-1F678"

/-- The class of a code point. -/
def ofCode (code : Nat) : SentenceBreak :=
  if code = 0xD then .carriageReturn
  else if code = 0xA then .lineFeed
  else if isGraphemeExtend code || has [.spacingMark] code || code = 0x200D then .extend
  else if inRanges [(0x85, 0x85), (0x2028, 0x2029)] code then .separator
  else if has [.decimalNumber] code || inRanges [(0x66B, 0x66C)] code ||
      (inRanges Listed.prepended code && code != 0x70F) then .numeric
  else if has [.format] code && code != 0x200C then .format
  else if inRanges spaceRanges code then .space
  else if isLowercase code && !inRanges [(0x10D0, 0x10FA), (0x10FD, 0x10FF)] code then .lower
  else if (isUppercase code || has [.titlecaseLetter] code) &&
      !inRanges [(0x1C90, 0x1CBF)] code then .upper
  else if isAlphabetic code || code = 0x5F3 then .otherLetter
  else if [0x2E, 0x2024, 0xFE52, 0xFF0E].contains code then .stop
  else if inRanges Listed.sentenceEnd code then .terminal
  else if inRanges goingOn code then .continuing
  else if inRanges quotes code ||
      has [.openPunctuation, .closePunctuation, .initialPunctuation, .finalPunctuation] code then
    .close
  else .other

end SentenceBreak

end SingleTable.Character
