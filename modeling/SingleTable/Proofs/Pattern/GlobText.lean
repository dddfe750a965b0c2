import SingleTable.Proofs.Pattern.ClassSet
import SingleTable.Proofs.Pattern.GlobMatch

/-!
# The regular expression of a glob

What the text of a glob's regular expression denotes: the patterns of its parts, one after
the other, between the start and the end of the text.
-/

namespace SingleTable.Pattern.Reader

variable {state : State} {rest : List Char}

/-- Where characters are to be skipped, reading goes on behind them. -/
theorem read?_skip (skip : Nat) (text : List Char) :
    read? state skip text = read? state 0 (text.drop skip) := by
  induction skip generalizing text with
  | zero => rfl
  | succ skip ih =>
    cases text with
    | nil => rfl
    | cons c text => rw [read?, ih, List.drop_succ_cons]

theorem read?_cons (hVerbose : state.flags.verbose = false) (c : Char) :
    read? state 0 (c :: rest) =
      (step? state c rest).bind fun (next, size) => read? next (size - 1) rest := by
  rw [read?]
  simp only [Bracket.gapLength_eq_zero hVerbose, Nat.lt_irrefl, if_false]
  cases step? state c rest <;> rfl

theorem read?_step (hVerbose : state.flags.verbose = false) {next : State} {c : Char} {size : Nat}
    (hStep : step? state c rest = some (next, size + 1)) :
    read? state 0 (c :: rest) = read? next 0 (rest.drop size) := by
  rw [read?_cons hVerbose, hStep]
  exact read?_skip size rest

end SingleTable.Pattern.Reader

namespace SingleTable.Glob

open Pattern Pattern.Bracket Pattern.Reader

variable {ignoreCase : Bool}

/-- The pattern of a part, with its depth. -/
def Part.nested? (ignoreCase : Bool) : Part → Option (Nested Pattern)
  | .anyRun => some ⟨.repetition (.one .all) 0 none true, 1⟩
  | .anyOne => some (.leaf (.one .all))
  | .char c => some (.leaf (.one ((flags ignoreCase).fold (.single c))))
  | .oneOf negated body =>
    (ofItems? (flags ignoreCase) negated (ClassItem.ofBody body)).map fun set =>
      ⟨.one set.value, set.depth⟩

/-- The brackets of a part are the ends of its class. -/
def Part.IsSound : Part → Prop
  | .oneOf negated body => IsBody negated body
  | _ => True

theorem classSet?_eq {negated : Bool} {body : List Char} (hBody : IsBody negated body) :
    classSet? (flags ignoreCase) negated body =
      (ofItems? (flags ignoreCase) negated (ClassItem.ofBody body)).map Nested.value := by
  have hText : ofText? (flags ignoreCase) (classText negated body ++ []) = _ :=
    ofText?_classText rfl rfl hBody []
  rw [List.append_nil] at hText
  rw [classSet?, hText]
  cases ofItems? (flags ignoreCase) negated (ClassItem.ofBody body) <;> simp

theorem Part.pattern?_eq {part : Part} (hSound : part.IsSound) :
    part.pattern? ignoreCase = (part.nested? ignoreCase).map Nested.value := by
  cases part with
  | anyRun => rfl
  | anyOne => rfl
  | char c => rfl
  | oneOf negated body =>
    rw [pattern?, classSet?_eq hSound, nested?, Option.map_map, Option.map_map]
    rfl

/-- What has a meaning of its own may be escaped. -/
theorem escape?_of_isMeta (flags : Flags) {c : Char} (hMeta : Atom.isMeta c = true)
    (rest : List Char) : Atom.escape? flags (c :: rest) = some (.char c, 1) := by
  have hNot : ∀ d, Atom.isMeta d = false → c ≠ d := by
    rintro d hPlain rfl
    exact absurd hMeta (by simp [hPlain])
  simp [Atom.escape?, Atom.isEscapable, hMeta, hNot 'x' rfl, hNot 'u' rfl, hNot 'U' rfl,
    hNot 'p' rfl, hNot 'P' rfl, hNot 'd' rfl, hNot 's' rfl, hNot 'w' rfl, hNot 'D' rfl,
    hNot 'S' rfl, hNot 'W' rfl]

/-- What has no meaning of its own stands for itself. -/
theorem step?_of_not_isMeta (state : State) {c : Char} (hMeta : Atom.isMeta c = false)
    (rest : List Char) : step? state c rest = some (addAtom state (.char c), 1) := by
  have hNot : ∀ d, Atom.isMeta d = true → c ≠ d := by
    rintro d hSpecial rfl
    exact absurd hMeta (by simp [hSpecial])
  simp [step?, hNot '(' rfl, hNot ')' rfl, hNot '|' rfl, hNot '[' rfl, hNot '?' rfl,
    hNot '*' rfl, hNot '+' rfl, hNot '\x7b' rfl, hNot '\\' rfl, hNot '.' rfl, hNot '^' rfl,
    hNot '$' rfl]

/-- The text of a part is read as its pattern. -/
theorem read?_part {state : State} (hFlags : state.flags = flags ignoreCase) {part : Part}
    (hSound : part.IsSound) {rest : List Char} (hNext : rest.head? ≠ some '?') :
    Reader.read? state 0 (part.expressionText ++ rest) =
      (part.nested? ignoreCase).bind fun nested =>
        Reader.read? (state.add nested.value nested.depth) 0 rest := by
  have hVerbose : state.flags.verbose = false := by rw [hFlags]; rfl
  have hUnicode : state.flags.unicode = true := by rw [hFlags]; rfl
  have hPoint : ∀ more, step? state '.' more = some (state.add (.one .all) 0, 1) := by
    intro more
    simp [step?, hFlags, Flags.dot, flags]
  cases part with
  | anyRun =>
    -- two steps: the point is an atom at first, and the star repeats it
    have hRun : step? (state.add (.one .all) 0) '*' rest =
        some (state.add (.repetition (.one .all) 0 none true) 1, 1) := by
      have hLazy : (rest.head? == some '?') = false := beq_eq_false_iff_ne.mpr hNext
      simp [step?, repeatAndLength?, State.repeat?, State.add, hLazy, hFlags, flags, repeated,
        onlyEmpty]
    have hAdded : (state.add (.one .all) 0).flags.verbose = false := hVerbose
    exact (read?_step hVerbose (hPoint _)).trans (read?_step hAdded hRun)
  | anyOne => exact read?_step hVerbose (hPoint rest)
  | char c =>
    have hAtom : addAtom state (.char c) =
        state.add (.one ((flags ignoreCase).fold (.single c))) 0 := by
      rw [← hFlags]
      rfl
    rw [Part.nested?, Option.bind_some, Part.expressionText]
    split
    · next hMeta =>
      have hStep : step? state '\\' (c :: rest) = some (addAtom state (.char c), 1 + 1) := by
        simp [step?, escape?_of_isMeta _ hMeta]
      rw [hAtom] at hStep
      exact read?_step hVerbose hStep
    · next hMeta =>
      have hStep := step?_of_not_isMeta state (Bool.eq_false_iff.mpr hMeta) rest
      rw [hAtom] at hStep
      exact read?_step hVerbose hStep
  | oneOf negated body =>
    have hText := ofText?_classText hVerbose hUnicode hSound rest
    rw [Part.nested?, ← hFlags, Part.expressionText, List.cons_append]
    cases hSet : ofItems? state.flags negated (ClassItem.ofBody body) with
    | none =>
      rw [hSet, Option.map_none] at hText
      have hStep : step? state '[' (classText negated body ++ rest) = none := by
        simp [step?, hText]
      rw [read?_cons hVerbose, hStep]
      rfl
    | some set =>
      rw [hSet, Option.map_some] at hText
      have hStep : step? state '[' (classText negated body ++ rest) =
          some (state.add (.one set.value) set.depth, (classText negated body).length + 1) := by
        simp [step?, hText]
      rw [read?_step hVerbose hStep, List.drop_left]
      rfl

/-- The text of a part does not make what is before it lazy. -/
theorem Part.head?_expressionText (part : Part) (rest : List Char) :
    (part.expressionText ++ rest).head? ≠ some '?' := by
  cases part with
  | anyRun => simp [expressionText]
  | anyOne => simp [expressionText]
  | oneOf negated body => simp [expressionText]
  | char c =>
    rw [expressionText]
    split
    · simp
    · next hMeta =>
      rintro hMark
      cases hMark
      exact hMeta rfl

/-- The state behind the parts of a glob. -/
def behind (state : State) (parts : List (Nested Pattern)) : State :=
  { state with
    items := (parts.map fun part => ⟨some part.value, part.depth⟩).reverse ++ state.items }

/-- The text of a glob is read part by part. -/
theorem read?_parts {glob : Glob} (hSound : ∀ part ∈ glob, part.IsSound) {state : State}
    (hFlags : state.flags = flags ignoreCase) :
    Reader.read? state 0 (glob.flatMap Part.expressionText ++ ['$']) =
      (glob.mapM (Part.nested? ignoreCase)).map fun parts =>
        (behind state parts).add (.look .textEnd) 0 := by
  induction glob generalizing state with
  | nil =>
    have hStep : step? state '$' [] = some (state.add (.look .textEnd) 0, 0 + 1) := by
      simp [step?, hFlags, Flags.dollar, flags]
    exact read?_step (by rw [hFlags]; rfl) hStep
  | cons part parts ih =>
    obtain ⟨hFirst, hRest⟩ := List.forall_mem_cons.mp hSound
    have hNext : (parts.flatMap Part.expressionText ++ ['$']).head? ≠ some '?' := by
      cases parts with
      | nil => simp
      | cons next parts =>
        rw [List.flatMap_cons, List.append_assoc]
        exact next.head?_expressionText _
    rw [List.flatMap_cons, List.append_assoc, read?_part hFlags hFirst hNext, List.mapM_cons]
    cases part.nested? ignoreCase with
    | none => rfl
    | some nested =>
      have hAdded : (state.add nested.value nested.depth).flags = flags ignoreCase := hFlags
      rw [Option.bind_some, ih hRest hAdded]
      cases parts.mapM (Part.nested? ignoreCase) with
      | none => simp
      | some others => simp [behind, State.add]

/-- The state behind the start of a glob's text. -/
def started (ignoreCase : Bool) : State :=
  { flags := flags ignoreCase, items := [⟨some (.look .textStart), 0⟩, .leaf none] }

theorem read?_start (ignoreCase : Bool) (rest : List Char) :
    Reader.read? {} 0 ((if ignoreCase then "(?si)^" else "(?s)^").toList ++ rest) =
      Reader.read? (started ignoreCase) 0 rest := by
  cases ignoreCase with
  | true => rfl
  | false => rfl

/-- The pattern of a glob's parts. -/
def between (parts : List (Nested Pattern)) : Pattern :=
  .sequence (.look .textStart :: parts.map Nested.value ++ [.look .textEnd])

theorem body_behind (parts : List (Nested Pattern)) :
    ((behind (started ignoreCase) parts).add (.look .textEnd) 0).body =
      ⟨between parts, Nested.depthOf (0 :: 0 :: parts.map Nested.depth ++ [0])⟩ := by
  have hItems : ((behind (started ignoreCase) parts).add (.look .textEnd) 0).items.reverse =
      .leaf none :: ⟨some (.look .textStart), 0⟩ ::
        (parts.map fun part => ⟨some part.value, part.depth⟩) ++ [⟨some (.look .textEnd), 0⟩] := by
    simp [behind, State.add, started]
  have hBranch : ((behind (started ignoreCase) parts).add (.look .textEnd) 0).branch =
      ⟨between parts, Nested.depthOf (0 :: 0 :: parts.map Nested.depth ++ [0])⟩ := by
    rw [State.branch, hItems]
    simp [Nested.ofParts, between, Nested.leaf, Function.comp_def]
  rw [State.body, hBranch]
  rfl

/-- The regular expression of a glob denotes its parts between the start and the end of the
text, unless they are nested too deeply. -/
theorem ofText?_expressionText {glob : Glob} (hSound : ∀ part ∈ glob, part.IsSound) :
    Expression.ofText? (String.ofList (expressionText ignoreCase glob)) =
      (glob.mapM (Part.nested? ignoreCase)).bind fun parts =>
        if Nested.depthOf (0 :: 0 :: parts.map Nested.depth ++ [0]) ≤ Nested.limit then
          some ⟨between parts, []⟩
        else none := by
  rw [Expression.ofText?, String.toList_ofList, expressionText, read?_start,
    read?_parts hSound rfl]
  cases glob.mapM (Part.nested? ignoreCase) with
  | none => rfl
  | some parts =>
    simp only [Option.map_some, Option.bind_eq_bind, Option.bind_some, body_behind]
    simp [behind, started, State.add]

theorem mapM_pattern?_eq {glob : Glob} (hSound : ∀ part ∈ glob, part.IsSound) :
    glob.mapM (Part.pattern? ignoreCase) =
      (glob.mapM (Part.nested? ignoreCase)).map (List.map Nested.value) := by
  induction glob with
  | nil => rfl
  | cons part parts ih =>
    obtain ⟨hFirst, hRest⟩ := List.forall_mem_cons.mp hSound
    rw [List.mapM_cons, List.mapM_cons, Part.pattern?_eq hFirst, ih hRest]
    cases part.nested? ignoreCase with
    | none => rfl
    | some nested => cases parts.mapM (Part.nested? ignoreCase) <;> rfl

theorem pattern?_eq {glob : Glob} (hSound : ∀ part ∈ glob, part.IsSound) :
    glob.pattern? ignoreCase = (glob.mapM (Part.nested? ignoreCase)).map between := by
  unfold pattern?
  rw [mapM_pattern?_eq hSound]
  cases glob.mapM (Part.nested? ignoreCase) <;> rfl

/-- The regular expression of a glob has the pattern of the glob. -/
theorem pattern?_of_ofText? {glob : Glob} (hSound : ∀ part ∈ glob, part.IsSound)
    {expression : Expression}
    (hText : Expression.ofText? (String.ofList (expressionText ignoreCase glob)) =
      some expression) : glob.pattern? ignoreCase = some expression.pattern := by
  rw [ofText?_expressionText hSound] at hText
  obtain ⟨parts, hParts, hRest⟩ := Option.bind_eq_some_iff.mp hText
  split at hRest
  · cases hRest
    rw [pattern?_eq hSound, hParts]
    rfl
  · cases hRest

/-- If every part has a pattern that is not nested, so have all of them. -/
theorem exists_mapM_nested? {glob : Glob}
    (hParts : ∀ part ∈ glob, ∃ nested, part.nested? ignoreCase = some nested ∧ nested.depth ≤ 2) :
    ∃ parts, glob.mapM (Part.nested? ignoreCase) = some parts ∧
      ∀ part ∈ parts, part.depth ≤ 2 := by
  induction glob with
  | nil => exact ⟨[], rfl, by simp⟩
  | cons part glob ih =>
    obtain ⟨⟨nested, hNested, hDepth⟩, hRest⟩ := List.forall_mem_cons.mp hParts
    obtain ⟨parts, hAll, hDepths⟩ := ih hRest
    exact ⟨nested :: parts, by simp [hNested, hAll], List.forall_mem_cons.mpr ⟨hDepth, hDepths⟩⟩

/-- A glob whose parts are not nested has a regular expression. -/
theorem exists_ofText? {glob : Glob} (hSound : ∀ part ∈ glob, part.IsSound)
    (hParts : ∀ part ∈ glob, ∃ nested, part.nested? ignoreCase = some nested ∧ nested.depth ≤ 2) :
    ∃ expression, Expression.ofText? (String.ofList (expressionText ignoreCase glob)) =
      some expression := by
  obtain ⟨parts, hAll, hDepths⟩ := exists_mapM_nested? hParts
  have hDepth : Nested.depthOf (0 :: 0 :: parts.map Nested.depth ++ [0]) ≤ 3 := by
    refine Nested.depthOf_le fun depth hMem => ?_
    simp only [List.cons_append, List.mem_cons, List.mem_append, List.mem_map, List.not_mem_nil,
      or_false] at hMem
    rcases hMem with rfl | rfl | ⟨part, hPart, rfl⟩ | rfl
    · exact Nat.zero_le 2
    · exact Nat.zero_le 2
    · exact hDepths part hPart
    · exact Nat.zero_le 2
  refine ⟨⟨between parts, []⟩, ?_⟩
  rw [ofText?_expressionText hSound, hAll, Option.bind_some,
    if_pos (Nat.le_trans hDepth (by decide))]

end SingleTable.Glob
