import SingleTable.Character.Category
import SingleTable.Character.Listed
import SingleTable.Text.CaseFold

/-!
# Traits

The yes-or-no properties of code points.  Those that the standard derives are
derived here in the same way, from the general category, from the case folding and
from the listed sets; `Trait.holds` decides each of them and `Trait.names` has the
names by which patterns ask for them.
-/

namespace SingleTable.Character

open Text

/-- Letters, and the numbers written with letters. -/
def isLetter (code : Nat) : Bool :=
  Category.anyOf (.letterNumber :: Category.group 'L') code

/-- The code point is alphabetic. -/
def isAlphabetic (code : Nat) : Bool :=
  isLetter code || inRanges Listed.otherAlphabetic code

/-- The code point is a number of any kind. -/
def isNumeric (code : Nat) : Bool :=
  Category.anyOf (Category.group 'N') code

/-- The code point is in lower case. -/
def isLowercase (code : Nat) : Bool :=
  Category.ofCode code == .lowercaseLetter || inRanges Listed.otherLowercase code

/-- The code point is in upper case. -/
def isUppercase (code : Nat) : Bool :=
  Category.ofCode code == .uppercaseLetter || inRanges Listed.otherUppercase code

/-- The code point has a case. -/
def isCased (code : Nat) : Bool :=
  isLowercase code || isUppercase code || Category.ofCode code == .titlecaseLetter

/-- The case of a word passes over the code point. -/
def isCaseIgnorable (code : Nat) : Bool :=
  Category.anyOf
      [.nonspacingMark, .enclosingMark, .format, .modifierLetter, .modifierSymbol] code ||
    inRanges Listed.caseMiddle code

/-- Simple case folding replaces the code point. -/
def foldsAway (code : Nat) : Bool :=
  foldCode code != code

/-- Full case folding of the decomposed code point changes it.  Three code points
that fold are decomposed to what they fold to. -/
def changesWhenFolded (code : Nat) : Bool :=
  (foldsAway code && !([0x1FBE, 0x1FD3, 0x1FE3].contains code)) ||
    inRanges Listed.foldingOut code

/-- Some case mapping changes the code point. -/
def changesWhenMapped (code : Nat) : Bool :=
  1 < (caseVariants code).length || inRanges Listed.growing code

/-- The mapping to lower case changes the code point.  Cherokee letters fold to
upper case and the dotted capital i does not fold. -/
def changesWhenLowered (code : Nat) : Bool :=
  (foldsAway code && (isUppercase code || Category.ofCode code == .titlecaseLetter)) ||
    inRanges [(0x130, 0x130), (0x13A0, 0x13F5)] code

/-- The mapping to upper case changes the code point. -/
def changesWhenRaised (code : Nat) : Bool :=
  changesWhenMapped code && !isUppercase code

/-- The mapping to title case changes the code point.  Four digraphs in upper case
have a form for titles, and Georgian letters have none. -/
def changesWhenTitled (code : Nat) : Bool :=
  (changesWhenRaised code && Category.ofCode code != .titlecaseLetter &&
      !inRanges [(0x10D0, 0x10FF)] code) ||
    [0x1C4, 0x1C7, 0x1CA, 0x1F1].contains code

/-- The code point belongs to the character before it. -/
def isGraphemeExtend (code : Nat) : Bool :=
  Category.anyOf [.nonspacingMark, .enclosingMark] code || inRanges Listed.otherExtend code

/-- The code point starts a character. -/
def isGraphemeBase (code : Nat) : Bool :=
  !Category.anyOf
      [.control, .format, .surrogate, .privateUse, .unassigned, .lineSeparator,
        .paragraphSeparator] code &&
    !isGraphemeExtend code

/-- The code point may start an identifier. -/
def isIdStart (code : Nat) : Bool :=
  (isLetter code || inRanges Listed.otherIdStart code) &&
    !inRanges Listed.patternSyntax code && !inRanges Listed.patternSpace code

/-- The code point may continue an identifier. -/
def isIdContinue (code : Nat) : Bool :=
  isIdStart code || inRanges Listed.otherIdContinue code ||
    Category.anyOf
      [.nonspacingMark, .spacingMark, .decimalNumber, .connectorPunctuation] code

/-- The code point is left out where it cannot be shown.  Annotations, controls of
hieroglyphs and signs that span digits are shown. -/
def isDefaultIgnorable (code : Nat) : Bool :=
  (Category.ofCode code == .format || inRanges Listed.selector code ||
      inRanges Listed.otherIgnorable code) &&
    !inRanges [(0xFFF9, 0xFFFB), (0x13430, 0x13440)] code &&
    !inRanges Listed.prepended code

/-- The code point will never be a character. -/
def isNoncharacter (code : Nat) : Bool :=
  0xFFFE ≤ code % 0x10000 || inRanges [(0xFDD0, 0xFDEF)] code

/-- A yes-or-no property of code points. -/
inductive Trait where
  | alphabetic
  | asciiHexDigit
  | bidiControl
  | bidiMirrored
  | caseIgnorable
  | cased
  | changesWhenCasefolded
  | changesWhenCasemapped
  | changesWhenLowercased
  | changesWhenTitlecased
  | changesWhenUppercased
  | dash
  | defaultIgnorable
  | deprecated
  | diacritic
  | emoji
  | emojiComponent
  | emojiModifier
  | emojiModifierBase
  | emojiPresentation
  | extendedPictographic
  | extender
  | graphemeBase
  | graphemeExtend
  | graphemeLink
  | hexDigit
  | hyphen
  | idCompatMathContinue
  | idCompatMathStart
  | idContinue
  | idStart
  | ideographic
  | idsBinaryOperator
  | idsTrinaryOperator
  | idsUnaryOperator
  | joinControl
  | logicalOrderException
  | lowercase
  | math
  | modifierCombiningMark
  | noncharacter
  | otherAlphabetic
  | otherDefaultIgnorable
  | otherGraphemeExtend
  | otherIdContinue
  | otherIdStart
  | otherLowercase
  | otherMath
  | otherUppercase
  | patternSyntax
  | patternWhiteSpace
  | prependedConcatenationMark
  | quotationMark
  | radical
  | regionalIndicator
  | sentenceTerminal
  | softDotted
  | terminalPunctuation
  | unifiedIdeograph
  | uppercase
  | variationSelector
  | whiteSpace
  | xidContinue
  | xidStart
deriving DecidableEq, Repr

namespace Trait

/-- The traits with their names. -/
def names : List (Trait × List String) :=
  [(.alphabetic, ["Alpha", "Alphabetic"]),
   (.asciiHexDigit, ["AHex", "ASCII_Hex_Digit"]),
   (.bidiControl, ["Bidi_C", "Bidi_Control"]),
   (.bidiMirrored, ["Bidi_M", "Bidi_Mirrored"]),
   (.caseIgnorable, ["CI", "Case_Ignorable"]),
   (.cased, ["Cased"]),
   (.changesWhenCasefolded, ["CWCF", "Changes_When_Casefolded"]),
   (.changesWhenCasemapped, ["CWCM", "Changes_When_Casemapped"]),
   (.changesWhenLowercased, ["CWL", "Changes_When_Lowercased"]),
   (.changesWhenTitlecased, ["CWT", "Changes_When_Titlecased"]),
   (.changesWhenUppercased, ["CWU", "Changes_When_Uppercased"]),
   (.dash, ["Dash"]),
   (.defaultIgnorable, ["DI", "Default_Ignorable_Code_Point"]),
   (.deprecated, ["Dep", "Deprecated"]),
   (.diacritic, ["Dia", "Diacritic"]),
   (.emoji, ["Emoji"]),
   (.emojiComponent, ["EComp", "Emoji_Component"]),
   (.emojiModifier, ["EMod", "Emoji_Modifier"]),
   (.emojiModifierBase, ["EBase", "Emoji_Modifier_Base"]),
   (.emojiPresentation, ["EPres", "Emoji_Presentation"]),
   (.extendedPictographic, ["ExtPict", "Extended_Pictographic"]),
   (.extender, ["Ext", "Extender"]),
   (.graphemeBase, ["Gr_Base", "Grapheme_Base"]),
   (.graphemeExtend, ["Gr_Ext", "Grapheme_Extend"]),
   (.graphemeLink, ["Gr_Link", "Grapheme_Link"]),
   (.hexDigit, ["Hex", "Hex_Digit"]),
   (.hyphen, ["Hyphen"]),
   (.idCompatMathContinue, ["ID_Compat_Math_Continue"]),
   (.idCompatMathStart, ["ID_Compat_Math_Start"]),
   (.idContinue, ["IDC", "ID_Continue"]),
   (.idStart, ["IDS", "ID_Start"]),
   (.ideographic, ["Ideo", "Ideographic"]),
   (.idsBinaryOperator, ["IDSB", "IDS_Binary_Operator"]),
   (.idsTrinaryOperator, ["IDST", "IDS_Trinary_Operator"]),
   (.idsUnaryOperator, ["IDSU", "IDS_Unary_Operator"]),
   (.joinControl, ["Join_C", "Join_Control"]),
   (.logicalOrderException, ["LOE", "Logical_Order_Exception"]),
   (.lowercase, ["Lower", "Lowercase"]),
   (.math, ["Math"]),
   (.modifierCombiningMark, ["MCM", "Modifier_Combining_Mark"]),
   (.noncharacter, ["NChar", "Noncharacter_Code_Point"]),
   (.otherAlphabetic, ["OAlpha", "Other_Alphabetic"]),
   (.otherDefaultIgnorable, ["ODI", "Other_Default_Ignorable_Code_Point"]),
   (.otherGraphemeExtend, ["OGr_Ext", "Other_Grapheme_Extend"]),
   (.otherIdContinue, ["OIDC", "Other_ID_Continue"]),
   (.otherIdStart, ["OIDS", "Other_ID_Start"]),
   (.otherLowercase, ["OLower", "Other_Lowercase"]),
   (.otherMath, ["OMath", "Other_Math"]),
   (.otherUppercase, ["OUpper", "Other_Uppercase"]),
   (.patternSyntax, ["Pat_Syn", "Pattern_Syntax"]),
   (.patternWhiteSpace, ["Pat_WS", "Pattern_White_Space"]),
   (.prependedConcatenationMark, ["PCM", "Prepended_Concatenation_Mark"]),
   (.quotationMark, ["QMark", "Quotation_Mark"]),
   (.radical, ["Radical"]),
   (.regionalIndicator, ["RI", "Regional_Indicator"]),
   (.sentenceTerminal, ["STerm", "Sentence_Terminal"]),
   (.softDotted, ["SD", "Soft_Dotted"]),
   (.terminalPunctuation, ["Term", "Terminal_Punctuation"]),
   (.unifiedIdeograph, ["UIdeo", "Unified_Ideograph"]),
   (.uppercase, ["Upper", "Uppercase"]),
   (.variationSelector, ["VS", "Variation_Selector"]),
   (.whiteSpace, ["WSpace", "White_Space", "space"]),
   (.xidContinue, ["XIDC", "XID_Continue"]),
   (.xidStart, ["XIDS", "XID_Start"])]

/-- The code point has the trait. -/
def holds (trait : Trait) (code : Nat) : Bool :=
  match trait with
  | .alphabetic => isAlphabetic code
  | .asciiHexDigit => code < 128 && inRanges Listed.hexDigit code
  | .bidiControl => inRanges Listed.bidiControl code
  | .bidiMirrored => inRanges Listed.bidiMirrored code
  | .caseIgnorable => isCaseIgnorable code
  | .cased => isCased code
  | .changesWhenCasefolded => changesWhenFolded code
  | .changesWhenCasemapped => changesWhenMapped code
  | .changesWhenLowercased => changesWhenLowered code
  | .changesWhenTitlecased => changesWhenTitled code
  | .changesWhenUppercased => changesWhenRaised code
  | .dash => inRanges Listed.dash code
  | .defaultIgnorable => isDefaultIgnorable code
  | .deprecated => inRanges Listed.deprecated code
  | .diacritic => inRanges Listed.diacritic code
  | .emoji => inRanges Listed.emoji code
  | .emojiComponent => inRanges Listed.emojiComponent code
  | .emojiModifier => inRanges Listed.emojiModifier code
  | .emojiModifierBase => inRanges Listed.emojiModifierBase code
  | .emojiPresentation => inRanges Listed.emojiPresentation code
  | .extendedPictographic => inRanges Listed.extendedPictographic code
  | .extender => inRanges Listed.extender code
  | .graphemeBase => isGraphemeBase code
  | .graphemeExtend => isGraphemeExtend code
  | .graphemeLink => inRanges Listed.linking code
  | .hexDigit => inRanges Listed.hexDigit code
  | .hyphen => inRanges Listed.hyphen code
  | .idCompatMathContinue =>
    inRanges Listed.compatStart code || inRanges Listed.compatContinue code
  | .idCompatMathStart => inRanges Listed.compatStart code
  | .idContinue => isIdContinue code
  | .idStart => isIdStart code
  | .ideographic => inRanges Listed.ideographic code
  | .idsBinaryOperator => inRanges Listed.idsBinary code
  | .idsTrinaryOperator => inRanges Listed.idsTrinary code
  | .idsUnaryOperator => inRanges Listed.idsUnary code
  | .joinControl => inRanges Listed.joinControl code
  | .logicalOrderException => inRanges Listed.visualOrder code
  | .lowercase => isLowercase code
  | .math => Category.ofCode code == .mathSymbol || inRanges Listed.otherMath code
  | .modifierCombiningMark => inRanges Listed.modifierMark code
  | .noncharacter => isNoncharacter code
  | .otherAlphabetic => inRanges Listed.otherAlphabetic code
  | .otherDefaultIgnorable => inRanges Listed.otherIgnorable code
  | .otherGraphemeExtend => inRanges Listed.otherExtend code
  | .otherIdContinue => inRanges Listed.otherIdContinue code
  | .otherIdStart => inRanges Listed.otherIdStart code
  | .otherLowercase => inRanges Listed.otherLowercase code
  | .otherMath => inRanges Listed.otherMath code
  | .otherUppercase => inRanges Listed.otherUppercase code
  | .patternSyntax => inRanges Listed.patternSyntax code
  | .patternWhiteSpace => inRanges Listed.patternSpace code
  | .prependedConcatenationMark => inRanges Listed.prepended code
  | .quotationMark => inRanges Listed.quotation code
  | .radical => inRanges Listed.radical code
  | .regionalIndicator => inRanges Listed.regional code
  | .sentenceTerminal => inRanges Listed.sentenceEnd code
  | .softDotted => inRanges Listed.softDotted code
  | .terminalPunctuation => inRanges Listed.terminal code
  | .unifiedIdeograph => inRanges Listed.unified code
  | .uppercase => isUppercase code
  | .variationSelector => inRanges Listed.selector code
  | .whiteSpace => inRanges spaceRanges code
  | .xidContinue => isIdContinue code && !inRanges Listed.brokenContinue code
  | .xidStart => isIdStart code && !inRanges Listed.brokenStart code

end Trait

end SingleTable.Character
