import SingleTable.Number.Hexadecimal
import SingleTable.Pattern.Syntax

/-!
# Flags and escapes of regular expressions

Flags change how the characters that follow them are read.  An escape is a
backslash and what it applies to: a character with a special meaning, a class of
characters, or a condition on a position.
-/

namespace SingleTable.Pattern

/-- How the text of a regular expression is read. -/
structure Flags where
  ignoreCase : Bool := false
  multiLine : Bool := false
  dotAll : Bool := false
  swapGreed : Bool := false
  unicode : Bool := true
  anyLineEnd : Bool := false
  verbose : Bool := false
deriving DecidableEq, Repr

namespace Flags

/-- The ASCII characters. -/
def ascii : CharSet := .range 0 127

/-- ASCII letters, digits and the underscore. -/
def asciiWord : CharSet :=
  .ofRanges [('0', '9'), ('A', 'Z'), ('_', '_'), ('a', 'z')]

/-- ASCII white space. -/
def asciiSpace : CharSet :=
  .ofRanges [('\t', '\r'), (' ', ' ')]

/-- ASCII digits. -/
def asciiDecimal : CharSet :=
  .ofRanges [('0', '9')]

/-- The characters that count as part of a word. -/
def word (flags : Flags) : CharSet :=
  if flags.unicode then .word else asciiWord

/-- A set with the case variants of its members, if case is ignored.  Without the
classes of all scripts only ASCII letters have variants. -/
def fold (flags : Flags) (set : CharSet) : CharSet :=
  if flags.ignoreCase then
    if flags.unicode then .anyCase set
    else .union set (.inter (.anyCase (.inter set ascii)) ascii)
  else set

/-- A set with its case variants, and then what is not in it if it is negated. -/
def foldAndNegate (flags : Flags) (negated : Bool) (set : CharSet) : CharSet :=
  if negated then .compl (flags.fold set) else flags.fold set

/-- The class behind the letters `d`, `s` and `w`. -/
def classOf (flags : Flags) (c : Char) : CharSet :=
  if c = 'd' then (if flags.unicode then .decimal else asciiDecimal)
  else if c = 's' then (if flags.unicode then .space else asciiSpace)
  else flags.word

/-- What a point stands for: any character, or any but a line end. -/
def dot (flags : Flags) : CharSet :=
  if flags.dotAll then .all
  else if flags.anyLineEnd then .compl (.ofRanges [('\n', '\n'), ('\r', '\r')])
  else .compl (.single '\n')

/-- The condition behind `^`. -/
def caret (flags : Flags) : Look :=
  if flags.multiLine then (if flags.anyLineEnd then .anyLineStart else .lineStart) else .textStart

/-- The condition behind `$`. -/
def dollar (flags : Flags) : Look :=
  if flags.multiLine then (if flags.anyLineEnd then .anyLineEnd else .lineEnd) else .textEnd

/-- The number of leading characters that are skipped: in verbose mode, white
space and comments that run to the end of their line. -/
def gapLength (flags : Flags) (text : List Char) : Nat :=
  if flags.verbose then skipped false text else 0
where
  skipped (comment : Bool) : List Char → Nat
    | [] => 0
    | c :: rest =>
      if comment then skipped (c != '\n') rest + 1
      else if Text.isSpace c then skipped false rest + 1
      else if c = '#' then skipped true rest + 1
      else 0

/-- The characters outside of gaps, each with the length of the text up to the end of
the gap behind it. -/
def significant (flags : Flags) (text : List Char) : List (Char × Nat) :=
  collect 0 (flags.gapLength text) text
where
  collect (start : Nat) : Nat → List Char → List (Char × Nat)
    | _, [] => []
    | skip + 1, _ :: rest => collect (start + 1) skip rest
    | 0, c :: rest =>
      let gap := flags.gapLength rest
      (c, start + 1 + gap) :: collect (start + 1) gap rest

end Flags

/-- What a character or an escape stands for. -/
inductive Atom where
  | char (c : Char)
  | set (set : CharSet)
  | look (condition : Look)

namespace Atom

/-- Characters that have a meaning of their own in a regular expression. -/
def isMeta (c : Char) : Bool :=
  "\\.+*?()|[]\x7b\x7d^$#&-~".toList.contains c

/-- Characters that may be escaped to stand for themselves. -/
def isEscapable (c : Char) : Bool :=
  isMeta c || (c.toNat < 128 && !c.isAlphanum && c != '<' && c != '>')

/-- The control character behind a letter. -/
def control? (c : Char) : Option Char :=
  if c = 'a' then some '\x07'
  else if c = 'f' then some '\x0c'
  else if c = 't' then some '\t'
  else if c = 'n' then some '\n'
  else if c = 'r' then some '\r'
  else if c = 'v' then some '\x0b'
  else none

/-- The character with a code point. -/
def ofCode? (code : Nat) : Option Char :=
  if code < 0xD800 ∨ 0xE000 ≤ code ∧ code < 0x110000 then some (Char.ofNat code) else none

/-- A character by its code point: a fixed number of hexadecimal digits, or any
number of them in braces.  The length counts from behind the escape letter.  Two
digits on their own are a byte, which is a character only if it is ASCII or if the
classes of all scripts are in use. -/
def hex? (flags : Flags) (width : Nat) (text : List Char) : Option (Char × Nat) :=
  match flags.significant text with
  | ('\x7b', _) :: rest => do
    let digits := rest.takeWhile (·.1 != '\x7d')
    let (_, length) ← rest[digits.length]?
    if digits.isEmpty then none
    else some (← ofCode? (← Number.natOfHex? (digits.map Prod.fst)), length)
  | signs => do
    let digits := signs.take width
    let (_, length) ← digits.getLast?
    let code ← Number.natOfHex? (digits.map Prod.fst)
    if digits.length < width || (width == 2 && 128 ≤ code && !flags.unicode) then none
    else some (← ofCode? code, length)

/-- A character of the name of a boundary. -/
def isBoundaryChar (c : Char) : Bool :=
  c.isAlpha || c == '-'

/-- The boundary with a name. -/
def boundary? (flags : Flags) (name : List Char) : Option Look :=
  if name = "start".toList then some (.wordStart flags.word)
  else if name = "end".toList then some (.wordEnd flags.word)
  else if name = "start-half".toList then some (.notAfterWord flags.word)
  else if name = "end-half".toList then some (.notBeforeWord flags.word)
  else none

/-- The condition behind the letter `b`, and its length with that letter: a boundary
named in braces, or any.  Braces that start with something else than a letter or
hyphen are no name. -/
def boundaryOf? (flags : Flags) (text : List Char) : Option (Look × Nat) :=
  let plain : Option (Look × Nat) := some (.wordBoundary flags.word, 1)
  if text.head? != some '\x7b' then plain
  else
    match (flags.significant text).drop 1 with
    | [] => none
    | (first, start) :: rest =>
      if !isBoundaryChar first then plain
      else
        let signs := (first, start) :: rest
        let name := signs.takeWhile fun sign => isBoundaryChar sign.1
        match signs.drop name.length with
        | ('\x7d', length) :: _ =>
          (boundary? flags (name.map Prod.fst)).map fun condition => (condition, length + 1)
        | _ => none

/-- The characters with a property, which a single letter or a text in braces asks
for.  The length counts from behind the escape letter. -/
def property? (flags : Flags) (negated : Bool) (text : List Char) : Option (CharSet × Nat) :=
  if !flags.unicode then none
  else
    match flags.significant text with
    | [] => none
    | ('\x7b', _) :: rest => do
      let name := rest.takeWhile (·.1 != '\x7d')
      let (_, length) ← rest[name.length]?
      let property ← Character.Property.ofText? (name.map Prod.fst)
      some (flags.foldAndNegate negated (.having property), length)
    | (letter, length) :: _ => do
      let property ← Character.Property.ofName? [letter]
      some (flags.foldAndNegate negated (.having property), length)

/-- The escape behind a backslash, and its length without the backslash. -/
def escape? (flags : Flags) : List Char → Option (Atom × Nat)
  | [] => none
  | c :: rest =>
    if c = 'x' ∨ c = 'u' ∨ c = 'U' then
      let width := if c = 'x' then 2 else if c = 'u' then 4 else 8
      (hex? flags width rest).map fun (c, length) => (.char c, length + 1)
    else if c = 'p' ∨ c = 'P' then
      (property? flags (c == 'P') rest).map fun (members, length) => (.set members, length + 1)
    else if c = 'd' ∨ c = 's' ∨ c = 'w' then some (.set (flags.classOf c), 1)
    else if c = 'D' ∨ c = 'S' ∨ c = 'W' then
      if flags.unicode then some (.set (.compl (flags.classOf c.toLower)), 1) else none
    else if isEscapable c then some (.char c, 1)
    else if c = 'A' then some (.look .textStart, 1)
    else if c = 'z' then some (.look .textEnd, 1)
    else if c = 'B' then some (.look (.notWordBoundary flags.word), 1)
    else if c = '<' then some (.look (.wordStart flags.word), 1)
    else if c = '>' then some (.look (.wordEnd flags.word), 1)
    else if c = 'b' then
      (boundaryOf? flags rest).map fun (condition, length) => (.look condition, length)
    else (control? c).map fun c => (.char c, 1)

end Atom

end SingleTable.Pattern
