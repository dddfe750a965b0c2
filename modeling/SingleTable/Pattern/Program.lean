import SingleTable.Pattern.Syntax

/-!
# Programs

A program is a pattern made ready for a search.  Repetitions with bounds are
unrolled, groups become marks, and every point of choice carries a label.  A
search never passes the same choice twice at one position, which is what ends
repetitions of the empty text; `Program.weight` is the measure behind that.
-/

namespace SingleTable.Pattern

/-- One part of a program. -/
inductive Program where
  | empty
  | one (set : CharSet)
  | look (condition : Look)
  | mark (slot : Nat)
  | seq (first second : Program)
  | alt (label : Nat) (first second : Program)
  | again (label : Nat) (body : Program) (greedy : Bool)
deriving DecidableEq, Repr

namespace Program

/-- A step that makes something with labels and hands on the next free label. -/
abbrev Labelled (α : Type) := Nat → α × Nat

/-- A step that makes a program. -/
abbrev Making := Labelled Program

/-- The program of either nothing or a part, the preferred one first. -/
def optionally (greedy : Bool) (part : Program) (label : Nat) : Program :=
  if greedy then .alt label part .empty else .alt label .empty part

/-- What a step makes when it is taken a number of times, the latest first and in
front of what was made before. -/
def collect {α : Type} (make : Labelled α) : Nat → List α → Labelled (List α)
  | 0, made, label => (made, label)
  | n + 1, made, label =>
    let (part, next) := make label
    collect make n (part :: made) next

/-- A number of copies, one after the other, and then a last part. -/
def copies (make last : Making) (count : Nat) : Making := fun label =>
  let (parts, next) := collect make count [] label
  let (final, next) := last next
  (parts.foldl (fun rest part => .seq part rest) final, next)

/-- Up to a number of copies, each of which may be the last. -/
def upTo (make : Making) (greedy : Bool) (count : Nat) : Making := fun label =>
  let choice : Labelled (Nat × Program) := fun label =>
    let (part, next) := make (label + 1)
    ((label, part), next)
  let (parts, next) := collect choice count [] label
  (parts.foldl (fun rest part => optionally greedy (.seq part.2 rest) part.1) .empty, next)

/-- One copy or more. -/
def oneOrMore (make : Making) (greedy : Bool) : Making := fun label =>
  let (body, next) := make (label + 1)
  (.seq body (.again label body greedy), next)

/-- Any number of copies.  A body that can be empty is tried once before it is
repeated. -/
def anyNumber (make : Making) (nullable greedy : Bool) : Making := fun label =>
  if nullable then
    let (body, next) := oneOrMore make greedy (label + 1)
    (optionally greedy body label, next)
  else
    let (body, next) := make (label + 1)
    (.again label body greedy, next)

/-- The program of a pattern, with labels from a first free one. -/
def ofPattern : Pattern → Making
  | .empty => fun label => (.empty, label)
  | .one set => fun label => (.one set, label)
  | .look condition => fun label => (.look condition, label)
  | .group index body => fun label =>
    let (program, label) := ofPattern body label
    (.seq (.mark (2 * index)) (.seq program (.mark (2 * index + 1))), label)
  | .seq first second => fun label =>
    let (a, label) := ofPattern first label
    let (b, label) := ofPattern second label
    (.seq a b, label)
  | .alt first second => fun label =>
    let (a, next) := ofPattern first (label + 1)
    let (b, next) := ofPattern second next
    (.alt label a b, next)
  | .repetition body least most greedy =>
    let make := ofPattern body
    match most with
    | some most => copies make (upTo make greedy (most - least)) least
    | none =>
      match least with
      | 0 => anyNumber make body.nullable greedy
      | least + 1 => copies make (oneOrMore make greedy) least

/-- The labels of a program's choices are counted unless they are passed. -/
def weight (passed : List Nat) : Program → Nat
  | .seq first second => first.weight passed + second.weight passed + 1
  | .alt label first second =>
    if label ∈ passed then 1 else first.weight passed + second.weight passed + 1
  | .again label body _ => if label ∈ passed then 1 else body.weight passed + 2
  | _ => 1

/-- The weight of programs that follow one another. -/
def weights (passed : List Nat) (programs : List Program) : Nat :=
  programs.foldr (fun program total => program.weight passed + total) 0

/-- Passing a choice does not add weight. -/
theorem weight_cons_le (label : Nat) (passed : List Nat) (program : Program) :
    program.weight (label :: passed) ≤ program.weight passed := by
  induction program with
  | seq first second ihFirst ihSecond => simp only [weight]; omega
  | alt other first second ihFirst ihSecond =>
    simp only [weight, List.mem_cons]
    by_cases hPassed : other ∈ passed
    · simp [hPassed]
    · by_cases hSame : other = label
      · subst hSame
        simp only [true_or, hPassed, ↓reduceIte]; omega
      · simp only [hSame, hPassed, or_self, ↓reduceIte]; omega
  | again other body greedy ih =>
    simp only [weight, List.mem_cons]
    by_cases hPassed : other ∈ passed
    · simp [hPassed]
    · by_cases hSame : other = label
      · subst hSame
        simp only [true_or, hPassed, ↓reduceIte]; omega
      · simp only [hSame, hPassed, or_self, ↓reduceIte]; omega
  | _ => simp [weight]

theorem weights_cons_le (label : Nat) (passed : List Nat) (programs : List Program) :
    weights (label :: passed) programs ≤ weights passed programs := by
  induction programs with
  | nil => simp [weights]
  | cons program rest ih =>
    have := weight_cons_le label passed program
    simp only [weights, List.foldr_cons] at ih ⊢
    omega

@[simp]
theorem weights_cons (passed : List Nat) (program : Program) (rest : List Program) :
    weights passed (program :: rest) = program.weight passed + weights passed rest := by
  simp [weights]

theorem weight_pos (passed : List Nat) (program : Program) : 0 < program.weight passed := by
  cases program <;> simp only [weight] <;> (try split) <;> omega

end Program

end SingleTable.Pattern
