import SingleTable.Pattern.CharSet

/-!
# Patterns

The pattern language behind globs and regular expressions, after flags have been
resolved.  Alternatives are ordered: of two ways to match, the one that takes the
earlier alternative counts, and a greedy repetition prefers another iteration.
-/

namespace SingleTable.Pattern

/-- A condition on a position between two characters.  Word conditions come with
the set of characters that count as part of a word. -/
inductive Look where
  | textStart
  | textEnd
  | lineStart
  | lineEnd
  | anyLineStart
  | anyLineEnd
  | wordBoundary (letters : CharSet)
  | notWordBoundary (letters : CharSet)
  | wordStart (letters : CharSet)
  | wordEnd (letters : CharSet)
  | notAfterWord (letters : CharSet)
  | notBeforeWord (letters : CharSet)
deriving DecidableEq, Repr

namespace Look

/-- The character is there and in the set. -/
private def isIn (set : CharSet) : Option Char → Bool
  | some c => set.contains c
  | none => false

/-- The condition holds between the character before a position and the one after it. -/
def holds (before after : Option Char) : Look → Bool
  | .textStart => before.isNone
  | .textEnd => after.isNone
  | .lineStart => before.isNone || before == some '\n'
  | .lineEnd => after.isNone || after == some '\n'
  | .anyLineStart =>
    before.isNone || before == some '\n' || (before == some '\r' && after != some '\n')
  | .anyLineEnd =>
    after.isNone || after == some '\r' || (after == some '\n' && before != some '\r')
  | .wordBoundary letters => isIn letters before != isIn letters after
  | .notWordBoundary letters => isIn letters before == isIn letters after
  | .wordStart letters => !isIn letters before && isIn letters after
  | .wordEnd letters => isIn letters before && !isIn letters after
  | .notAfterWord letters => !isIn letters before
  | .notBeforeWord letters => !isIn letters after

end Look

end SingleTable.Pattern

namespace SingleTable

/-- A pattern. -/
inductive Pattern where
  | empty
  | one (set : Pattern.CharSet)
  | look (condition : Pattern.Look)
  | group (index : Nat) (body : Pattern)
  | seq (first second : Pattern)
  | alt (first second : Pattern)
  | repetition (body : Pattern) (least : Nat) (most : Option Nat) (greedy : Bool)
deriving DecidableEq, Repr

namespace Pattern

/-- Patterns one after the other. -/
def sequence (parts : List Pattern) : Pattern :=
  match parts with
  | [] => .empty
  | [only] => only
  | first :: rest => .seq first (sequence rest)

/-- Patterns to be tried in their order. -/
def choice (parts : List Pattern) : Pattern :=
  match parts with
  | [] => .empty
  | [only] => only
  | first :: rest => .alt first (choice rest)

/-- The character itself. -/
def literal (c : Char) : Pattern := .one (.single c)

/-- The pattern matches the empty text at some position. -/
def nullable : Pattern → Bool
  | .empty => true
  | .one _ => false
  | .look _ => true
  | .group _ body => body.nullable
  | .seq first second => first.nullable && second.nullable
  | .alt first second => first.nullable || second.nullable
  | .repetition body least _ _ => least == 0 || body.nullable

/-- The pattern matches nothing but the empty text. -/
def onlyEmpty : Pattern → Bool
  | .empty => true
  | .one _ => false
  | .look _ => true
  | .group _ body => body.onlyEmpty
  | .seq first second => first.onlyEmpty && second.onlyEmpty
  | .alt first second => first.onlyEmpty && second.onlyEmpty
  | .repetition body _ most _ => most == some 0 || body.onlyEmpty

/-- A pattern a number of times.  What can only be empty need not be met again. -/
def repeated (body : Pattern) (least : Nat) (most : Option Nat) (greedy : Bool) : Pattern :=
  if body.onlyEmpty then .repetition body (min least 1) (some (min (most.getD 1) 1)) greedy
  else .repetition body least most greedy

end Pattern

end SingleTable
