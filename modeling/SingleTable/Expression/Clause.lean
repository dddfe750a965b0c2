import SingleTable.Expression.Scan
import SingleTable.Text.WordChar

/-!
# Clauses of update expressions

An update expression is cut into clauses at four keywords.  A keyword counts only
as a whole word.  What stands before the first keyword belongs to no clause, and
of several clauses with one keyword only the first is used.
-/

namespace SingleTable.Expression

/-- The words that begin a clause. -/
inductive Keyword where
  | set
  | remove
  | add
  | delete
deriving DecidableEq, Repr

namespace Keyword

/-- All keywords. -/
def all : List Keyword := [.set, .remove, .add, .delete]

/-- The keyword as it is written. -/
def text : Keyword → String
  | .set => "SET"
  | .remove => "REMOVE"
  | .add => "ADD"
  | .delete => "DELETE"

/-- The keyword that is written so. -/
def ofText? (text : String) : Option Keyword :=
  all.find? fun keyword => keyword.text == text

/-- No word character follows. -/
def endsWord (text : List Char) : Bool :=
  !(text.head?.map Text.isWord).getD false

/-- The keyword that is the whole first word of a text. -/
def startOf? (text : List Char) : Option Keyword :=
  all.find? fun keyword =>
    match literal? keyword.text.toList text with
    | some rest => endsWord rest
    | none => false

end Keyword

/-- A clause: its keyword and the text up to the next keyword. -/
structure Clause where
  keyword : Keyword
  body : List Char
deriving DecidableEq, Repr

namespace Clause

/-- Cut a text at its keywords: the text before the first one, and the clauses.
`inWord` tells that a word character comes before the text, and the first `skip`
characters belong to a keyword. -/
def split : Nat → Bool → List Char → List Char × List Clause
  | _, _, [] => ([], [])
  | skip + 1, _, c :: rest => split skip (Text.isWord c) rest
  | 0, inWord, c :: rest =>
    match if inWord then none else Keyword.startOf? (c :: rest) with
    | some keyword =>
      let (body, clauses) := split (keyword.text.length - 1) (Text.isWord c) rest
      ([], ⟨keyword, body⟩ :: clauses)
    | none =>
      let (lead, clauses) := split 0 (Text.isWord c) rest
      (c :: lead, clauses)

/-- The clauses of an expression. -/
def ofText (text : List Char) : List Clause :=
  (split 0 false text).2

/-- The body of the first clause with a keyword, without white space around it;
an empty body counts as no clause. -/
def body? (keyword : Keyword) (text : List Char) : Option (List Char) := do
  let clause ← (ofText text).find? fun clause => clause.keyword == keyword
  let body := Text.trim clause.body
  if body.isEmpty then none else some body

end Clause

end SingleTable.Expression
