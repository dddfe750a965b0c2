import SingleTable.Pattern.Glob
import SingleTable.Proofs.Pattern.Search

/-!
# What the pattern of a glob matches

The pattern of a glob is a search for the whole glob, held to both ends of the text.  It
matches exactly the texts that the glob accepts part by part (`isMatch_of_pattern?`).
-/

namespace SingleTable.Pattern

namespace Program

variable {before : Option Char} {text : List Char} {rest : List Program}

@[simp]
theorem succeeds_nil : Succeeds before text [] := .done

@[simp]
theorem not_succeeds_one_nil {set : CharSet} : ¬Succeeds before [] (.one set :: rest) := by
  rintro ⟨⟩

@[simp]
theorem succeeds_one_cons_iff {set : CharSet} {c : Char} :
    Succeeds before (c :: text) (.one set :: rest) ↔
      set.contains c = true ∧ Succeeds (some c) text rest := by
  constructor
  · rintro (_ | _ | ⟨hContains, hRest⟩)
    exact ⟨hContains, hRest⟩
  · rintro ⟨hContains, hRest⟩
    exact .one hContains hRest

theorem succeeds_look_iff {condition : Look} : Succeeds before text (.look condition :: rest) ↔
    condition.holds before text.head? = true ∧ Succeeds before text rest := by
  constructor
  · rintro (_ | _ | _ | ⟨hHolds, hRest⟩)
    exact ⟨hHolds, hRest⟩
  · rintro ⟨hHolds, hRest⟩
    exact .look hHolds hRest

theorem succeeds_seq_iff {first second : Program} :
    Succeeds before text (.seq first second :: rest) ↔
      Succeeds before text (first :: second :: rest) := by
  constructor
  · rintro (_ | _ | _ | _ | _ | ⟨hBoth⟩)
    exact hBoth
  · exact .seq

/-- A run goes on with another round, or it is enough. -/
theorem succeeds_again_iff {label : Nat} {body : Program} {greedy : Bool} :
    Succeeds before text (.again label body greedy :: rest) ↔
      Succeeds before text rest ∨
        Succeeds before text (body :: .again label body greedy :: rest) := by
  constructor
  · intro hSucceeds
    cases hSucceeds with
    | more hMore => exact Or.inr hMore
    | enough hRest => exact Or.inl hRest
  · rintro (hRest | hMore)
    · exact .enough hRest
    · exact .more hMore

end Program

open Program

/-- A single character, a condition, or a run of single characters. -/
inductive Simple : Pattern → Prop
  | one (set : CharSet) : Simple (.one set)
  | look (condition : Look) : Simple (.look condition)
  | run (set : CharSet) (greedy : Bool) : Simple (.repetition (.one set) 0 none greedy)

theorem sequence_cons {first : Pattern} {rest : List Pattern} (hRest : rest ≠ []) :
    sequence (first :: rest) = .seq first (sequence rest) := by
  cases rest with
  | nil => exact absurd rfl hRest
  | cons second rest => rfl

/-- The program of a pattern repeats single characters only and takes consecutive labels. -/
def InOrder (pattern : Pattern) : Prop :=
  ∀ label, ∃ count, (ofPattern pattern label).2 = label + count ∧
    (ofPattern pattern label).1.labels = List.range' label count ∧
    (ofPattern pattern label).1.RepeatsCharacters

theorem Simple.inOrder {pattern : Pattern} (hSimple : Simple pattern) : pattern.InOrder := by
  intro label
  cases hSimple with
  | one set => exact ⟨0, rfl, rfl, trivial⟩
  | look condition => exact ⟨0, rfl, rfl, trivial⟩
  | run set greedy => exact ⟨1, rfl, rfl, set, rfl⟩

theorem inOrder_sequence {patterns : List Pattern}
    (hSimple : ∀ pattern ∈ patterns, Simple pattern) : (sequence patterns).InOrder := by
  induction patterns with
  | nil => exact fun label => ⟨0, rfl, rfl, trivial⟩
  | cons first rest ih =>
    have hFirst := (hSimple first List.mem_cons_self).inOrder
    have hRest := ih fun pattern hMem => hSimple pattern (List.mem_cons_of_mem first hMem)
    by_cases hEnd : rest = []
    · rw [hEnd]
      exact hFirst
    · intro label
      obtain ⟨count, hNext, hLabels, hRepeats⟩ := hFirst label
      obtain ⟨others, hLast, hOthers, hAlso⟩ := hRest (label + count)
      rw [sequence_cons hEnd]
      simp only [ofPattern, labels, RepeatsCharacters, hNext, hLast, hLabels, hOthers]
      refine ⟨count + others, Nat.add_assoc _ _ _, ?_, hRepeats, hAlso⟩
      exact List.range'_append_1

theorem InOrder.steady {pattern : Pattern} (hInOrder : pattern.InOrder) :
    Program.Steady [pattern.program] := by
  obtain ⟨count, -, hLabels, hRepeats⟩ := hInOrder 0
  constructor
  · intro program hMem
    rw [List.mem_singleton.mp hMem]
    exact hRepeats
  · rw [List.flatMap_singleton]
    exact hLabels ▸ List.nodup_range'

/-- What has to start at the start of the text is not found behind it. -/
theorem occurs_textStart_iff {second : Program} {text : List Char} :
    Program.Occurs (.seq (.look .textStart) second) none text ↔ Succeeds none text [second] := by
  have hLater : ∀ (text : List Char) (c : Char),
      ¬Program.Occurs (.seq (.look .textStart) second) (some c) text := by
    intro text
    induction text with
    | nil => simp [Program.Occurs, succeeds_seq_iff, succeeds_look_iff, Look.holds]
    | cons d text ih =>
      intro c hOccurs
      rcases hOccurs with hHere | hBehind
      · simp [succeeds_seq_iff, succeeds_look_iff, Look.holds] at hHere
      · exact ih d hBehind
  cases text with
  | nil => simp [Program.Occurs, succeeds_seq_iff, succeeds_look_iff, Look.holds]
  | cons c text =>
    simp [Program.Occurs, succeeds_seq_iff, succeeds_look_iff, Look.holds, hLater text c]

end SingleTable.Pattern

namespace SingleTable.Glob

open Pattern Pattern.Program

variable {ignoreCase : Bool}

/-- A part stands for a single character, or for any run of characters. -/
theorem Part.one_or_run (part : Part) {pattern : Pattern}
    (hPattern : part.pattern? ignoreCase = some pattern) :
    (∃ set, pattern = .one set) ∨
      part = .anyRun ∧ pattern = .repetition (.one .all) 0 none true := by
  cases part with
  | anyRun =>
    cases hPattern
    exact Or.inr ⟨rfl, rfl⟩
  | anyOne =>
    cases hPattern
    exact Or.inl ⟨_, rfl⟩
  | char c =>
    cases hPattern
    exact Or.inl ⟨_, rfl⟩
  | oneOf negated body =>
    obtain ⟨set, -, rfl⟩ := Option.map_eq_some_iff.mp hPattern
    exact Or.inl ⟨set, rfl⟩

/-- A part for a single character takes one that is in its set. -/
theorem accepts_one {part : Part} {parts : Glob} {set : CharSet}
    (hPattern : part.pattern? ignoreCase = some (.one set)) (text : List Char) :
    accepts ignoreCase (part :: parts) text = match text with
      | [] => false
      | c :: more => set.contains c && accepts ignoreCase parts more := by
  cases part with
  | anyRun => cases hPattern
  | anyOne =>
    cases hPattern
    cases text <;> simp [accepts]
  | char d =>
    cases hPattern
    cases text <;> simp [accepts]
  | oneOf negated body =>
    obtain ⟨found, hSet, hSame⟩ := Option.map_eq_some_iff.mp hPattern
    cases hSame
    cases text <;> simp [accepts, hSet]

/-- Behind a part come the others and the end of the text. -/
theorem sequence_parts (pattern : Pattern) (patterns : List Pattern) :
    Pattern.sequence (pattern :: patterns ++ [.look .textEnd]) =
      .seq pattern (Pattern.sequence (patterns ++ [.look .textEnd])) :=
  sequence_cons (by simp)

/-- The patterns of the parts succeed up to the end of the texts that the parts accept. -/
theorem succeeds_parts_iff {glob : Glob} {patterns : List Pattern}
    (hPatterns : glob.mapM (·.pattern? ignoreCase) = some patterns) (label : Nat)
    (before : Option Char) (text : List Char) :
    Succeeds before text [(ofPattern (Pattern.sequence (patterns ++ [.look .textEnd])) label).1] ↔
      accepts ignoreCase glob text = true := by
  induction glob generalizing patterns label before text with
  | nil =>
    cases hPatterns
    show Succeeds before text [.look .textEnd] ↔ _
    rw [succeeds_look_iff, accepts]
    cases text <;> simp [Look.holds]
  | cons part parts ih =>
    rw [List.mapM_cons] at hPatterns
    obtain ⟨pattern, hPattern, hPatterns⟩ := Option.bind_eq_some_iff.mp hPatterns
    obtain ⟨others, hOthers, hPatterns⟩ := Option.bind_eq_some_iff.mp hPatterns
    cases hPatterns
    rw [sequence_parts]
    simp only [ofPattern, succeeds_seq_iff]
    -- the other parts have the labels behind those of this one
    have hRest := ih hOthers (ofPattern pattern label).2
    rcases part.one_or_run hPattern with ⟨set, rfl⟩ | ⟨rfl, rfl⟩
    · show Succeeds before text [.one set, _] ↔ _
      rw [accepts_one hPattern]
      cases text with
      | nil => simp
      | cons c more => rw [succeeds_one_cons_iff, hRest, Bool.and_eq_true]
    · show Succeeds before text [.again label (.one .all) true, _] ↔ _
      -- the run takes one character after the other
      induction text generalizing before with
      | nil =>
        rw [succeeds_again_iff, hRest, accepts]
        simp
      | cons c more ihMore =>
        rw [succeeds_again_iff, hRest, succeeds_one_cons_iff, ihMore, accepts, Bool.or_eq_true,
          CharSet.contains_all]
        simp

theorem simple_of_mem {glob : Glob} {patterns : List Pattern} {pattern : Pattern}
    (hPatterns : glob.mapM (·.pattern? ignoreCase) = some patterns) (hMem : pattern ∈ patterns) :
    Simple pattern := by
  induction glob generalizing patterns with
  | nil =>
    cases hPatterns
    cases hMem
  | cons part parts ih =>
    rw [List.mapM_cons] at hPatterns
    obtain ⟨first, hFirst, hPatterns⟩ := Option.bind_eq_some_iff.mp hPatterns
    obtain ⟨others, hOthers, hPatterns⟩ := Option.bind_eq_some_iff.mp hPatterns
    cases hPatterns
    rcases List.mem_cons.mp hMem with rfl | hMem
    · rcases part.one_or_run hFirst with ⟨set, rfl⟩ | ⟨-, rfl⟩
      · exact .one set
      · exact .run .all true
    · exact ih hOthers hMem

/-- The pattern of a glob matches exactly the texts that the glob accepts. -/
theorem isMatch_of_pattern? {glob : Glob} {pattern : Pattern}
    (hPattern : glob.pattern? ignoreCase = some pattern) (text : List Char) :
    pattern.isMatch text = accepts ignoreCase glob text := by
  obtain ⟨patterns, hPatterns, hSequence⟩ := Option.bind_eq_some_iff.mp hPattern
  cases hSequence
  have hSimple : ∀ pattern ∈ .look .textStart :: patterns ++ [.look .textEnd], Simple pattern := by
    intro pattern hMem
    rcases List.mem_cons.mp hMem with rfl | hMem
    · exact .look _
    rcases List.mem_append.mp hMem with hMem | hMem
    · exact simple_of_mem hPatterns hMem
    · rw [List.mem_singleton.mp hMem]
      exact .look _
  rw [Bool.eq_iff_iff]
  unfold isMatch
  rw [isSome_search_iff (inOrder_sequence hSimple).steady, sequence_parts]
  show Program.Occurs (.seq (.look .textStart) _) none text ↔ _
  rw [occurs_textStart_iff]
  exact succeeds_parts_iff hPatterns 0 none text

end SingleTable.Glob
