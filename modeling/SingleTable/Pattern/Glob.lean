import SingleTable.Pattern.Match

/-!
# Globs

A glob is a shell pattern: `*` stands for any run of characters, `?` for a single
one, and a bracketed class for one of its characters, or for one that is not
among them if the class starts with `!`.  A bracket without an end stands for
itself, and so does every other character.  A glob has to match a whole text.
-/

namespace SingleTable

/-- A part of a glob. -/
inductive Glob.Part where
  | anyRun
  | anyOne
  | char (c : Char)
  | oneOf (negated : Bool) (body : List Char)
deriving DecidableEq, Repr

/-- A glob, as its parts. -/
abbrev Glob := List Glob.Part

namespace Glob

open Pattern

/-- The number of characters between an opening bracket and the bracket that ends
its class.  A bracket at the very start of the class, behind its negation mark,
belongs to the class. -/
def classLength? (text : List Char) : Option Nat :=
  let mark := if text.head? == some '!' then 1 else 0
  let first := if (text.drop mark).head? == some ']' then 1 else 0
  let body := (text.drop (mark + first)).takeWhile (· != ']')
  let length := mark + first + body.length
  if length < text.length then some length else none

/-- The parts of a text of which the first `skip` characters are read already. -/
def read : Nat → List Char → Glob
  | _, [] => []
  | skip + 1, _ :: rest => read skip rest
  | 0, c :: rest =>
    if c = '*' then .anyRun :: read 0 rest
    else if c = '?' then .anyOne :: read 0 rest
    else if c = '[' then
      match classLength? rest with
      | some length =>
        let body := rest.take length
        let negated := body.head? == some '!'
        .oneOf negated (if negated then body.drop 1 else body) :: read (length + 1) rest
      | none => .char c :: read 0 rest
    else .char c :: read 0 rest

/-- The glob that a text denotes. -/
def ofText (text : String) : Glob :=
  read 0 text.toList

/-- A character of a class as the pattern language writes it: what has a meaning there
but not in a glob is escaped. -/
def classChar (c : Char) : List Char :=
  if c = '\\' ∨ c = '[' ∨ c = '&' ∨ c = '~' then ['\\', c] else [c]

/-- The body of a class as a bracketed class of the pattern language. -/
def classText (negated : Bool) (body : List Char) : List Char :=
  let first := if negated then ['^'] else if body.head? == some '^' then ['\\'] else []
  first ++ body.flatMap classChar ++ [']']

/-- The set of a class, if its text is one. -/
def classSet? (flags : Flags) (negated : Bool) (body : List Char) : Option CharSet :=
  let text := classText negated body
  match Bracket.ofText? flags text with
  | some (set, length) => if length = text.length then some set.value else none
  | none => none

/-- How the characters of a glob are read: every character counts as one. -/
def flags (ignoreCase : Bool) : Flags :=
  { ignoreCase, dotAll := true }

/-- The pattern of a part. -/
def Part.pattern? (ignoreCase : Bool) : Part → Option Pattern
  | .anyRun => some (.repetition (.one .all) 0 none true)
  | .anyOne => some (.one .all)
  | .char c => some (.one ((flags ignoreCase).fold (.single c)))
  | .oneOf negated body => (classSet? (flags ignoreCase) negated body).map .one

/-- The pattern of a glob: its parts between the start and the end of the text.
There is none when a class has a range that runs backwards. -/
def pattern? (ignoreCase : Bool) (glob : Glob) : Option Pattern := do
  let parts ← glob.mapM (·.pattern? ignoreCase)
  some (.sequence (.look .textStart :: parts ++ [.look .textEnd]))

/-- A part as regular expressions write it. -/
def Part.expressionText : Part → List Char
  | .anyRun => ['.', '*']
  | .anyOne => ['.']
  | .char c => if Atom.isMeta c then ['\\', c] else [c]
  | .oneOf negated body => '[' :: classText negated body

/-- The regular expression of a glob: its parts between the start and the end of the
text, with a point that stands for every character. -/
def expressionText (ignoreCase : Bool) (glob : Glob) : List Char :=
  (if ignoreCase then "(?si)^" else "(?s)^").toList ++
    (glob.flatMap Part.expressionText ++ ['$'])

/-- The regular expression that a glob text is turned into. -/
def expressionOf (text : String) (ignoreCase : Bool) : String :=
  String.ofList (expressionText ignoreCase (ofText text))

/-- The pattern of a glob text: that of its regular expression. -/
def compile? (text : String) (ignoreCase : Bool) : Option Pattern :=
  (Expression.compile? (expressionOf text ignoreCase)).map Expression.pattern

/-- The glob matches the whole text, part by part.  A class that is not one
matches nothing. -/
def accepts (ignoreCase : Bool) : Glob → List Char → Bool
  | [], text => text.isEmpty
  | .anyRun :: parts, [] => accepts ignoreCase parts []
  | .anyRun :: parts, c :: text =>
    accepts ignoreCase parts (c :: text) || accepts ignoreCase (.anyRun :: parts) text
  | .anyOne :: parts, _ :: text => accepts ignoreCase parts text
  | .char c :: parts, d :: text =>
    ((flags ignoreCase).fold (.single c)).contains d && accepts ignoreCase parts text
  | .oneOf negated body :: parts, d :: text =>
    (match classSet? (flags ignoreCase) negated body with
      | some set => set.contains d
      | none => false) && accepts ignoreCase parts text
  | _ :: _, [] => false
termination_by parts text => parts.length + text.length

end Glob

end SingleTable
