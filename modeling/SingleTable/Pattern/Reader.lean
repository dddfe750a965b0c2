import SingleTable.Pattern.Bracket

/-!
# Reading regular expressions

The text of a regular expression is read from left to right with a stack of open
groups.  Flags set inside a group hold to its end, across its alternatives.
There are neither back references nor conditions on the text around a match
other than those of `Look`, so a text that asks for one is refused, and so is one
that is nested more deeply than `Nested.limit`.
-/

namespace SingleTable.Pattern

/-- A pattern with the indices of its named groups. -/
structure Expression where
  pattern : Pattern
  names : List (String × Nat)

namespace Reader

/-- The largest count of a repetition. -/
def maxCount : Nat := 1 <<< 32 - 1

/-- A group whose end has not been met: what stood before it, the flags that hold
again behind it, and its index if it is counted. -/
structure OpenGroup where
  items : List (Nested (Option Pattern))
  branches : List (Nested Pattern)
  flags : Flags
  index : Option Nat

/-- What has been read.  Items of the current alternative and the finished
alternatives are in reverse; an item without pattern only sets flags. -/
structure State where
  flags : Flags := {}
  items : List (Nested (Option Pattern)) := []
  branches : List (Nested Pattern) := []
  groups : List OpenGroup := []
  count : Nat := 1
  names : List (String × Nat) := []

namespace State

/-- Add a pattern with its depth to the current alternative. -/
def add (state : State) (pattern : Pattern) (depth : Nat) : State :=
  { state with items := ⟨some pattern, depth⟩ :: state.items }

/-- Change the flags inside the current group. -/
def setFlags (state : State) (flags : Flags) : State :=
  { state with flags, items := .leaf none :: state.items }

/-- The current alternative. -/
def branch (state : State) : Nested Pattern :=
  Nested.ofParts (fun items => .sequence (items.filterMap id)) state.items.reverse

/-- All alternatives since the innermost open group. -/
def body (state : State) : Nested Pattern :=
  Nested.ofParts Pattern.choice (state.branch :: state.branches).reverse

/-- Begin another alternative. -/
def nextBranch (state : State) : State :=
  { state with items := [], branches := state.branch :: state.branches }

/-- Open a group. -/
def openGroup (state : State) (index : Option Nat) (flags : Flags) : State :=
  { state with
    flags, items := [], branches := []
    groups := ⟨state.items, state.branches, state.flags, index⟩ :: state.groups }

/-- Close the innermost group, if one is open. -/
def closeGroup? (state : State) : Option State :=
  match state.groups with
  | [] => none
  | opened :: outer =>
    let pattern (body : Pattern) : Pattern := match opened.index with
      | some index => .group index body
      | none => body
    some { state with
      flags := opened.flags
      items := state.body.around (some ∘ pattern) :: opened.items
      branches := opened.branches
      groups := outer }

/-- Repeat the last item, if it is a pattern. -/
def repeat? (state : State) (least : Nat) (most : Option Nat) (lazy : Bool) : Option State :=
  match state.items with
  | ⟨some last, depth⟩ :: before =>
    let greedy := if state.flags.swapGreed then lazy else !lazy
    let repeated := Pattern.repeated last least most greedy
    some { state with items := ⟨some repeated, depth + 1⟩ :: before }
  | _ => none

end State

/-- The flag of a letter, set or cleared. -/
def setFlag? (flags : Flags) (on : Bool) (c : Char) : Option Flags :=
  if c = 'i' then some { flags with ignoreCase := on }
  else if c = 'm' then some { flags with multiLine := on }
  else if c = 's' then some { flags with dotAll := on }
  else if c = 'U' then some { flags with swapGreed := on }
  else if c = 'u' then some { flags with unicode := on }
  else if c = 'R' then some { flags with anyLineEnd := on }
  else if c = 'x' then some { flags with verbose := on }
  else none

/-- Flag letters, each at most once; a single hyphen clears those behind it and
cannot stand last. -/
def readFlags? (flags : Flags) (on : Bool) (seen : List Char) : List Char → Option Flags
  | [] => some flags
  | '-' :: rest => if on && !rest.isEmpty then readFlags? flags false seen rest else none
  | c :: rest =>
    if seen.contains c then none
    else do readFlags? (← setFlag? flags on c) on (c :: seen) rest

/-- A character of a group name. -/
def isNameChar (first : Bool) (c : Char) : Bool :=
  c == '_' || Text.isLetter c ||
    (!first && (Text.isNumber c || c == '.' || c == '[' || c == ']'))

/-- A group name up to its closing angle bracket, and its length with that bracket. -/
def groupName? (text : List Char) : Option (String × Nat) :=
  let name := text.takeWhile (· != '>')
  match name with
  | [] => none
  | first :: others =>
    if name.length < text.length && isNameChar true first && others.all (isNameChar false) then
      some (String.ofList name, name.length + 1)
    else none

/-- Read the head of a group behind its opening parenthesis; with its length. -/
def openGroup? (state : State) (text : List Char) : Option (State × Nat) :=
  let gap := state.flags.gapLength text
  let named (rest : List Char) (before : Nat) : Option (State × Nat) := do
    let (name, length) ← groupName? rest
    if state.names.any (·.1 == name) then none
    else
      let state := { state with
        count := state.count + 1, names := (name, state.count) :: state.names }
      some (state.openGroup (some (state.count - 1)) state.flags, gap + before + length)
  match text.drop gap with
  | '?' :: 'P' :: '<' :: rest => named rest 3
  | '?' :: '<' :: '=' :: _ => none
  | '?' :: '<' :: '!' :: _ => none
  | '?' :: '<' :: rest => named rest 2
  | '?' :: rest =>
    let letters := rest.takeWhile fun c => c != ':' && c != ')'
    match rest.drop letters.length with
    | ':' :: _ => do
      let flags ← readFlags? state.flags true [] letters
      some (state.openGroup none flags, gap + letters.length + 2)
    | ')' :: _ =>
      if letters.isEmpty then none
      else do
        let flags ← readFlags? state.flags true [] letters
        some (state.setFlags flags, gap + letters.length + 2)
    | _ => none
  | _ =>
    let state := { state with count := state.count + 1 }
    some (state.openGroup (some (state.count - 1)) state.flags, gap)

/-- A decimal count with white space around it, and what follows. -/
def count? (signs : List (Char × Nat)) : Option (Nat × List (Char × Nat)) :=
  let start := signs.dropWhile fun sign => Text.isSpace sign.1
  let digits := start.takeWhile fun sign => Number.isDigit sign.1
  let n := Number.natOfDigits (digits.map Prod.fst)
  if digits.isEmpty || maxCount < n then none
  else some (n, (start.drop digits.length).dropWhile fun sign => Text.isSpace sign.1)

/-- The bounds of a counted repetition behind its opening brace, and the length of
them with the gap behind the closing brace. -/
def bounds? (flags : Flags) (text : List Char) : Option (Nat × Option Nat × Nat) := do
  let (least, signs) ← count? (flags.significant text)
  match signs with
  | ('\x7d', length) :: _ => some (least, some least, length)
  | (',', _) :: ('\x7d', length) :: _ => some (least, none, length)
  | (',', _) :: signs =>
    let (most, signs) ← count? signs
    match signs with
    | ('\x7d', length) :: _ => if least ≤ most then some (least, some most, length) else none
    | _ => none
  | _ => none

/-- A repetition with an optional mark that makes it lazy; with its length. -/
def repeatAndLength? (state : State) (least : Nat) (most : Option Nat) (length : Nat)
    (rest : List Char) : Option (State × Nat) :=
  let lazy := rest.head? == some '?'
  (state.repeat? least most lazy).map fun state => (state, if lazy then length + 1 else length)

/-- The state after an atom. -/
def addAtom (state : State) : Atom → State
  | .char c => state.add (.one (state.flags.fold (.single c))) 0
  | .set set => state.add (.one set) 0
  | .look condition => state.add (.look condition) 0

/-- Read what stands at the front of a text; with its length. -/
def step? (state : State) (c : Char) (rest : List Char) : Option (State × Nat) :=
  let flags := state.flags
  if c = '(' then (openGroup? state rest).map fun (state, length) => (state, length + 1)
  else if c = ')' then state.closeGroup?.map fun state => (state, 1)
  else if c = '|' then some (state.nextBranch, 1)
  else if c = '[' then
    (Bracket.ofText? flags rest).map fun (set, length) =>
      (state.add (.one set.value) set.depth, length + 1)
  else if c = '?' then repeatAndLength? state 0 (some 1) 1 rest
  else if c = '*' then repeatAndLength? state 0 none 1 rest
  else if c = '+' then repeatAndLength? state 1 none 1 rest
  else if c = '\x7b' then
    (bounds? flags rest).bind fun (least, most, length) =>
      repeatAndLength? state least most (length + 1) (rest.drop length)
  else if c = '\\' then
    (Atom.escape? flags rest).map fun (atom, length) => (addAtom state atom, length + 1)
  else if c = '.' then
    if flags.unicode then some (state.add (.one flags.dot) 0, 1) else none
  else if c = '^' then some (state.add (.look flags.caret) 0, 1)
  else if c = '$' then some (state.add (.look flags.dollar) 0, 1)
  else some (addAtom state (.char c), 1)

/-- Read a text of which the first `skip` characters are read already. -/
def read? (state : State) : Nat → List Char → Option State
  | _, [] => some state
  | skip + 1, _ :: rest => read? state skip rest
  | 0, c :: rest =>
    let gap := state.flags.gapLength (c :: rest)
    if 0 < gap then read? state (gap - 1) rest
    else
      match step? state c rest with
      | some (state, length) => read? state (length - 1) rest
      | none => none

end Reader

/-- The regular expression that a text denotes. -/
def Expression.ofText? (text : String) : Option Expression := do
  let state ← Reader.read? {} 0 text.toList
  if state.groups.isEmpty && state.body.depth ≤ Nested.limit then
    some ⟨state.body.value, state.names⟩
  else none

end SingleTable.Pattern
