import SingleTable.Pattern.Program

/-!
# Searching a text

A search reads a text once from left to right with a list of threads in order of
preference.  A thread waits for a character of a set and knows what follows it
and where its groups began and ended.  Threads that wait for the same are merged
into the preferred one.  The leftmost match counts, and of those that start there
the most preferred.
-/

namespace SingleTable.Pattern

/-- Positions recorded for slots, the latest first.  Slots `2 * i` and `2 * i + 1`
hold the start and end of group `i`. -/
abbrev Marks := List (Nat × Nat)

/-- A thread at a position: it waits for a character, or it has matched. -/
inductive Thread where
  | waiting (set : CharSet) (rest : List Program) (marks : Marks)
  | matched (marks : Marks)

/-- A position in a text: its distance from the start and its two neighbours. -/
structure Place where
  position : Nat
  before : Option Char
  after : Option Char

namespace Search

open Program

/-- The threads that programs lead to at a place, in order of preference.
`passed` are the choices that were passed at this place already. -/
def threads (place : Place) (passed : List Nat) : List Program → Marks → List Thread
  | [], marks => [.matched marks]
  | .empty :: rest, marks => threads place passed rest marks
  | .one set :: rest, marks => [.waiting set rest marks]
  | .look condition :: rest, marks =>
    if condition.holds place.before place.after then threads place passed rest marks else []
  | .mark slot :: rest, marks => threads place passed rest ((slot, place.position) :: marks)
  | .seq first second :: rest, marks => threads place passed (first :: second :: rest) marks
  | .alt label first second :: rest, marks =>
    if label ∈ passed then []
    else
      threads place (label :: passed) (first :: rest) marks ++
        threads place (label :: passed) (second :: rest) marks
  | .again label body greedy :: rest, marks =>
    if label ∈ passed then []
    else
      let more := threads place (label :: passed) (body :: .again label body greedy :: rest) marks
      let enough := threads place (label :: passed) rest marks
      if greedy then more ++ enough else enough ++ more
termination_by programs => weights passed programs
decreasing_by
  all_goals simp only [weights_cons, weight]
  · omega
  · omega
  · omega
  · omega
  · next hPassed =>
    have hRest := weights_cons_le label passed rest
    have hBody := weight_cons_le label passed first
    have hOther := weight_pos passed second
    simp only [hPassed, ↓reduceIte]
    omega
  · next hPassed =>
    have hRest := weights_cons_le label passed rest
    have hBody := weight_cons_le label passed second
    have hOther := weight_pos passed first
    simp only [hPassed, ↓reduceIte]
    omega
  · next hPassed =>
    have hRest := weights_cons_le label passed rest
    have hBody := weight_cons_le label passed body
    simp only [hPassed, ↓reduceIte, List.mem_cons, true_or]
    omega
  · next hPassed =>
    have hRest := weights_cons_le label passed rest
    simp only [hPassed, ↓reduceIte]
    omega

/-- Keep the first of the threads that wait for the same. -/
def merge (all : List Thread) : List Thread :=
  (all.foldl keepNew []).reverse
where
  keepNew (kept : List Thread) (thread : Thread) : List Thread :=
    match thread with
    | .matched _ => thread :: kept
    | .waiting set rest _ =>
      if kept.any fun
        | .waiting otherSet otherRest _ => otherSet == set && otherRest == rest
        | .matched _ => false
      then kept else thread :: kept

/-- The threads preferred to the first one that has matched, and its marks. -/
def settle : List Thread → List Thread × Option Marks
  | [] => ([], none)
  | .matched marks :: _ => ([], some marks)
  | thread :: rest =>
    let (kept, found) := settle rest
    (thread :: kept, found)

/-- The threads behind a character. -/
def advance (place : Place) (c : Char) (waiting : List Thread) : List Thread :=
  waiting.flatMap fun
    | .waiting set rest marks => if set.contains c then threads place [] rest marks else []
    | .matched _ => []

/-- Search from a position on.  `waiting` are the threads begun before, and
`found` is the best match so far; while there is none, a thread begins at every
position. -/
def run (program : Program) (position : Nat) (before : Option Char) (waiting : List Thread)
    (found : Option Marks) (text : List Char) : Option Marks :=
  let place : Place := ⟨position, before, text.head?⟩
  let fresh := if found.isNone then threads place [] [program] [] else []
  let (kept, better) := settle (merge (waiting ++ fresh))
  let found := better <|> found
  match text with
  | [] => found
  | c :: rest =>
    if kept.isEmpty && found.isSome then found
    else
      let next : Place := ⟨position + 1, some c, rest.head?⟩
      run program (position + 1) (some c) (advance next c kept) found rest

end Search

namespace Program

/-- The marks of the first match in a text. -/
def search (program : Program) (text : List Char) : Option Marks :=
  Search.run program 0 none [] none text

end Program

end SingleTable.Pattern
