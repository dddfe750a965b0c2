import SingleTable.Pattern.Match

/-!
# What a search finds

A search keeps threads; here is what it looks for.  Programs that follow one another
succeed at a place of a text if some way through them matches from there, with every
choice open at every place.  A search of a program that repeats single characters only,
and labels its choices apart, finds a match exactly if the program succeeds somewhere in
the text (`isSome_search_iff`).
-/

namespace SingleTable.Pattern

namespace Program

/-- Some way through programs that follow one another matches in front of a text, with a
given character before it. -/
inductive Succeeds : Option Char → List Char → List Program → Prop
  | done {before : Option Char} {text : List Char} : Succeeds before text []
  | empty {before : Option Char} {text : List Char} {rest : List Program} :
    Succeeds before text rest → Succeeds before text (.empty :: rest)
  | one {before : Option Char} {c : Char} {text : List Char} {set : CharSet}
      {rest : List Program} :
    set.contains c = true → Succeeds (some c) text rest →
      Succeeds before (c :: text) (.one set :: rest)
  | look {before : Option Char} {text : List Char} {condition : Look} {rest : List Program} :
    condition.holds before text.head? = true → Succeeds before text rest →
      Succeeds before text (.look condition :: rest)
  | mark {before : Option Char} {text : List Char} {slot : Nat} {rest : List Program} :
    Succeeds before text rest → Succeeds before text (.mark slot :: rest)
  | seq {before : Option Char} {text : List Char} {first second : Program}
      {rest : List Program} :
    Succeeds before text (first :: second :: rest) →
      Succeeds before text (.seq first second :: rest)
  | altFirst {before : Option Char} {text : List Char} {label : Nat} {first second : Program}
      {rest : List Program} :
    Succeeds before text (first :: rest) → Succeeds before text (.alt label first second :: rest)
  | altSecond {before : Option Char} {text : List Char} {label : Nat} {first second : Program}
      {rest : List Program} :
    Succeeds before text (second :: rest) → Succeeds before text (.alt label first second :: rest)
  | more {before : Option Char} {text : List Char} {label : Nat} {body : Program}
      {greedy : Bool} {rest : List Program} :
    Succeeds before text (body :: .again label body greedy :: rest) →
      Succeeds before text (.again label body greedy :: rest)
  | enough {before : Option Char} {text : List Char} {label : Nat} {body : Program}
      {greedy : Bool} {rest : List Program} :
    Succeeds before text rest → Succeeds before text (.again label body greedy :: rest)

/-- The labels of a program's choices. -/
def labels : Program → List Nat
  | .seq first second => first.labels ++ second.labels
  | .alt label first second => label :: (first.labels ++ second.labels)
  | .again label body _ => label :: body.labels
  | _ => []

/-- What is repeated is a single character. -/
def RepeatsCharacters : Program → Prop
  | .seq first second => first.RepeatsCharacters ∧ second.RepeatsCharacters
  | .alt _ first second => first.RepeatsCharacters ∧ second.RepeatsCharacters
  | .again _ body _ => ∃ set, body = .one set
  | _ => True

/-- Programs that follow one another repeat single characters only and label their
choices apart. -/
structure Steady (programs : List Program) : Prop where
  repeats : ∀ program ∈ programs, program.RepeatsCharacters
  nodup : (programs.flatMap labels).Nodup

namespace Steady

variable {first second : Program} {rest : List Program} {label : Nat} {greedy : Bool}

theorem tail (hSteady : Steady (first :: rest)) : Steady rest where
  repeats program hMem := hSteady.repeats program (List.mem_cons_of_mem first hMem)
  nodup := (List.nodup_append.mp hSteady.nodup).2.1

theorem of_seq (hSteady : Steady (.seq first second :: rest)) :
    Steady (first :: second :: rest) := by
  obtain ⟨hFirst, hSecond⟩ := hSteady.repeats _ List.mem_cons_self
  constructor
  · intro program hMem
    rcases List.mem_cons.mp hMem with rfl | hMem
    · exact hFirst
    rcases List.mem_cons.mp hMem with rfl | hMem
    · exact hSecond
    · exact hSteady.repeats program (List.mem_cons_of_mem _ hMem)
  · have hNodup := hSteady.nodup
    simpa only [List.flatMap_cons, labels, List.append_assoc] using hNodup

theorem of_altFirst (hSteady : Steady (.alt label first second :: rest)) :
    Steady (first :: rest) := by
  obtain ⟨hFirst, -⟩ := hSteady.repeats _ List.mem_cons_self
  constructor
  · intro program hMem
    rcases List.mem_cons.mp hMem with rfl | hMem
    · exact hFirst
    · exact hSteady.repeats program (List.mem_cons_of_mem _ hMem)
  · have hNodup := hSteady.nodup
    rw [List.flatMap_cons, labels, List.cons_append, List.append_assoc] at hNodup
    refine hNodup.of_cons.sublist ?_
    exact (List.sublist_append_right _ _).append_left _

theorem of_altSecond (hSteady : Steady (.alt label first second :: rest)) :
    Steady (second :: rest) := by
  obtain ⟨-, hSecond⟩ := hSteady.repeats _ List.mem_cons_self
  constructor
  · intro program hMem
    rcases List.mem_cons.mp hMem with rfl | hMem
    · exact hSecond
    · exact hSteady.repeats program (List.mem_cons_of_mem _ hMem)
  · have hNodup := hSteady.nodup
    rw [List.flatMap_cons, labels, List.cons_append, List.append_assoc] at hNodup
    exact hNodup.of_cons.sublist (List.sublist_append_right _ _)

theorem of_again {body : Program} (hSteady : Steady (.again label body greedy :: rest)) :
    Steady (body :: .again label body greedy :: rest) := by
  obtain ⟨set, rfl⟩ := hSteady.repeats _ List.mem_cons_self
  constructor
  · intro program hMem
    rcases List.mem_cons.mp hMem with rfl | hMem
    · trivial
    · exact hSteady.repeats program hMem
  · exact hSteady.nodup

end Steady

end Program

open Program Search

/-- The thread leads to a match in front of a text. -/
def Thread.Succeeds (text : List Char) : Thread → Prop
  | .matched _ => True
  | .waiting set rest _ =>
    ∃ c more, text = c :: more ∧ set.contains c = true ∧ Program.Succeeds (some c) more rest

/-- What a thread waits with is steady. -/
def Thread.Steady : Thread → Prop
  | .matched _ => True
  | .waiting _ rest _ => Program.Steady rest

namespace Search

variable {place : Place} {text : List Char}

/-- Threads are ways through the programs that they come from. -/
theorem succeeds_of_mem_threads (hPlace : place.after = text.head?) {passed : List Nat}
    {programs : List Program} {marks : Marks} {thread : Thread}
    (hMem : thread ∈ threads place passed programs marks) (hThread : thread.Succeeds text) :
    Program.Succeeds place.before text programs := by
  fun_induction threads place passed programs marks with
  | case1 => exact .done
  | case2 passed rest marks ih => exact .empty (ih hMem)
  | case3 passed set rest marks =>
    rw [List.mem_singleton.mp hMem] at hThread
    obtain ⟨c, more, rfl, hContains, hRest⟩ := hThread
    exact .one hContains hRest
  | case4 passed condition rest marks hHolds ih => exact .look (hPlace ▸ hHolds) (ih hMem)
  | case5 => cases hMem
  | case6 passed slot rest marks ih => exact .mark (ih hMem)
  | case7 passed first second rest marks ih => exact .seq (ih hMem)
  | case8 => cases hMem
  | case9 passed label first second rest marks hLabel ihFirst ihSecond =>
    rcases List.mem_append.mp hMem with hFirst | hSecond
    · exact .altFirst (ihFirst hFirst)
    · exact .altSecond (ihSecond hSecond)
  | case10 => cases hMem
  | case11 passed label body rest marks hLabel more enough ihMore ihEnough =>
    rcases List.mem_append.mp hMem with hMore | hEnough
    · exact .more (ihMore hMore)
    · exact .enough (ihEnough hEnough)
  | case12 passed label body greedy rest marks hLabel more enough hGreedy ihMore ihEnough =>
    rcases List.mem_append.mp hMem with hEnough | hMore
    · exact .enough (ihEnough hEnough)
    · exact .more (ihMore hMore)

/-- What threads wait with is as steady as the programs that they come from. -/
theorem steady_of_mem_threads {passed : List Nat} {programs : List Program} {marks : Marks}
    {thread : Thread} (hSteady : Program.Steady programs)
    (hMem : thread ∈ threads place passed programs marks) : thread.Steady := by
  fun_induction threads place passed programs marks with
  | case1 =>
    rw [List.mem_singleton.mp hMem]
    trivial
  | case2 passed rest marks ih => exact ih hSteady.tail hMem
  | case3 passed set rest marks =>
    rw [List.mem_singleton.mp hMem]
    exact hSteady.tail
  | case4 passed condition rest marks hHolds ih => exact ih hSteady.tail hMem
  | case5 => cases hMem
  | case6 passed slot rest marks ih => exact ih hSteady.tail hMem
  | case7 passed first second rest marks ih => exact ih hSteady.of_seq hMem
  | case8 => cases hMem
  | case9 passed label first second rest marks hLabel ihFirst ihSecond =>
    rcases List.mem_append.mp hMem with hFirst | hSecond
    · exact ihFirst hSteady.of_altFirst hFirst
    · exact ihSecond hSteady.of_altSecond hSecond
  | case10 => cases hMem
  | case11 passed label body rest marks hLabel more enough ihMore ihEnough =>
    rcases List.mem_append.mp hMem with hMore | hEnough
    · exact ihMore hSteady.of_again hMore
    · exact ihEnough hSteady.tail hEnough
  | case12 passed label body greedy rest marks hLabel more enough hGreedy ihMore ihEnough =>
    rcases List.mem_append.mp hMem with hEnough | hMore
    · exact ihEnough hSteady.tail hEnough
    · exact ihMore hSteady.of_again hMore

theorem flatMap_labels_alt (label : Nat) (first second : Program) (rest : List Program) :
    (Program.alt label first second :: rest).flatMap labels =
      label :: (first.labels ++ (second :: rest).flatMap labels) := by
  simp [labels]

/-- Passing the choice in front leaves the others unpassed. -/
theorem fresh_of_cons {label : Nat} {others passed : List Nat} (hNodup : (label :: others).Nodup)
    (hPassed : ∀ other ∈ label :: others, other ∉ passed) :
    label ∉ passed ∧ ∀ other ∈ others, other ∉ label :: passed := by
  refine ⟨hPassed label List.mem_cons_self, fun other hOther hMem => ?_⟩
  rcases List.mem_cons.mp hMem with rfl | hMem
  · exact (List.nodup_cons.mp hNodup).1 hOther
  · exact hPassed other (List.mem_cons_of_mem label hOther) hMem

/-- A way through steady programs is followed by one of their threads, as long as none of
their choices has been passed at the place. -/
theorem exists_mem_threads {before : Option Char} {programs : List Program}
    (hSucceeds : Program.Succeeds before text programs) (hBefore : place.before = before)
    (hPlace : place.after = text.head?) (hSteady : Program.Steady programs) {passed : List Nat}
    (hPassed : ∀ label ∈ programs.flatMap labels, label ∉ passed) (marks : Marks) :
    ∃ thread ∈ threads place passed programs marks, thread.Succeeds text := by
  induction hSucceeds generalizing passed marks with
  | done => exact ⟨.matched marks, by simp [threads], trivial⟩
  | empty _ ih =>
    rw [threads]
    exact ih hBefore hPlace hSteady.tail hPassed marks
  | @one _ c more set rest hContains hRest _ =>
    rw [threads]
    exact ⟨_, List.mem_singleton_self _, c, more, rfl, hContains, hRest⟩
  | look hHolds _ ih =>
    rw [threads, hBefore, hPlace, if_pos hHolds]
    exact ih hBefore hPlace hSteady.tail hPassed marks
  | mark _ ih =>
    rw [threads]
    exact ih hBefore hPlace hSteady.tail hPassed _
  | seq _ ih =>
    rw [threads]
    refine ih hBefore hPlace hSteady.of_seq ?_ marks
    simpa only [List.flatMap_cons, labels, List.append_assoc] using hPassed
  | @altFirst _ _ label first second rest _ ih =>
    have hNodup := hSteady.nodup
    rw [flatMap_labels_alt] at hNodup hPassed
    obtain ⟨hFresh, hOthers⟩ := fresh_of_cons hNodup hPassed
    rw [threads, if_neg hFresh]
    have hFirst : ∀ other ∈ (first :: rest).flatMap labels, other ∉ label :: passed := by
      intro other hOther
      rcases List.mem_append.mp hOther with hOther | hOther
      · exact hOthers other (List.mem_append_left _ hOther)
      · exact hOthers other (List.mem_append_right _ (List.mem_append_right _ hOther))
    obtain ⟨thread, hMem, hThread⟩ := ih hBefore hPlace hSteady.of_altFirst hFirst marks
    exact ⟨thread, List.mem_append_left _ hMem, hThread⟩
  | @altSecond _ _ label first second rest _ ih =>
    have hNodup := hSteady.nodup
    rw [flatMap_labels_alt] at hNodup hPassed
    obtain ⟨hFresh, hOthers⟩ := fresh_of_cons hNodup hPassed
    rw [threads, if_neg hFresh]
    have hSecond : ∀ other ∈ (second :: rest).flatMap labels, other ∉ label :: passed :=
      fun other hOther => hOthers other (List.mem_append_right _ hOther)
    obtain ⟨thread, hMem, hThread⟩ := ih hBefore hPlace hSteady.of_altSecond hSecond marks
    exact ⟨thread, List.mem_append_right _ hMem, hThread⟩
  | @more _ _ label body greedy rest hBody _ =>
    obtain ⟨set, rfl⟩ := hSteady.repeats _ List.mem_cons_self
    have hFresh : label ∉ passed := hPassed label (by simp [labels])
    -- the repeated character has to be there, so its thread waits for it
    cases hBody with
    | one hContains hRest =>
      refine ⟨.waiting set (.again label (.one set) greedy :: rest) marks, ?_, _, _, rfl,
        hContains, hRest⟩
      rw [threads, if_neg hFresh]
      simp only
      split <;> simp [threads]
  | @enough _ _ label body greedy rest _ ih =>
    obtain ⟨set, rfl⟩ := hSteady.repeats _ List.mem_cons_self
    obtain ⟨hFresh, hOthers⟩ := fresh_of_cons hSteady.nodup hPassed
    obtain ⟨thread, hMem, hThread⟩ := ih hBefore hPlace hSteady.tail hOthers marks
    refine ⟨thread, ?_, hThread⟩
    rw [threads, if_neg hFresh]
    simp only
    split
    · exact List.mem_append_right _ hMem
    · exact List.mem_append_left _ hMem

/-- The threads of steady programs lead to a match exactly if the programs succeed. -/
theorem exists_threads_iff {programs : List Program} (hPlace : place.after = text.head?)
    (hSteady : Program.Steady programs) (marks : Marks) :
    (∃ thread ∈ threads place [] programs marks, thread.Succeeds text) ↔
      Program.Succeeds place.before text programs := by
  constructor
  · rintro ⟨thread, hMem, hThread⟩
    exact succeeds_of_mem_threads hPlace hMem hThread
  · intro hSucceeds
    exact exists_mem_threads hSucceeds rfl hPlace hSteady (fun _ _ => List.not_mem_nil) marks

/-- A thread is left out only if one that is kept waits for the same. -/
theorem exists_keepNew_iff (kept : List Thread) (first : Thread) :
    (∃ thread ∈ merge.keepNew kept first, thread.Succeeds text) ↔
      (∃ thread ∈ kept, thread.Succeeds text) ∨ first.Succeeds text := by
  unfold merge.keepNew
  split
  · simp [or_comm]
  · next set rest marks =>
    split
    · next hAny =>
      refine ⟨Or.inl, fun hEither => hEither.elim id fun hFirst => ?_⟩
      obtain ⟨other, hOther, hSame⟩ := List.any_eq_true.mp hAny
      refine ⟨other, hOther, ?_⟩
      cases other with
      | matched => trivial
      | waiting otherSet otherRest otherMarks =>
        rw [Bool.and_eq_true, beq_iff_eq, beq_iff_eq] at hSame
        obtain ⟨rfl, rfl⟩ := hSame
        exact hFirst
    · simp [or_comm]

theorem exists_foldl_keepNew_iff (all kept : List Thread) :
    (∃ thread ∈ all.foldl merge.keepNew kept, thread.Succeeds text) ↔
      (∃ thread ∈ kept, thread.Succeeds text) ∨ ∃ thread ∈ all, thread.Succeeds text := by
  induction all generalizing kept with
  | nil => simp
  | cons first all ih =>
    rw [List.foldl_cons, ih, exists_keepNew_iff]
    simp [or_assoc]

/-- Merging leaves out only threads that wait for the same as one that is kept. -/
theorem exists_merge_iff (all : List Thread) :
    (∃ thread ∈ merge all, thread.Succeeds text) ↔ ∃ thread ∈ all, thread.Succeeds text := by
  unfold merge
  simpa using exists_foldl_keepNew_iff all []

theorem mem_of_mem_keepNew {kept : List Thread} {first thread : Thread}
    (hMem : thread ∈ merge.keepNew kept first) : thread = first ∨ thread ∈ kept := by
  unfold merge.keepNew at hMem
  split at hMem
  · exact List.mem_cons.mp hMem
  · split at hMem
    · exact Or.inr hMem
    · exact List.mem_cons.mp hMem

theorem mem_of_mem_foldl_keepNew {all kept : List Thread} {thread : Thread}
    (hMem : thread ∈ all.foldl merge.keepNew kept) : thread ∈ kept ∨ thread ∈ all := by
  induction all generalizing kept with
  | nil => exact Or.inl hMem
  | cons first all ih =>
    rcases ih hMem with hBefore | hLater
    · rcases mem_of_mem_keepNew hBefore with rfl | hKept
      · exact Or.inr List.mem_cons_self
      · exact Or.inl hKept
    · exact Or.inr (List.mem_cons_of_mem first hLater)

theorem mem_of_mem_merge {all : List Thread} {thread : Thread} (hMem : thread ∈ merge all) :
    thread ∈ all :=
  (mem_of_mem_foldl_keepNew (List.mem_reverse.mp hMem)).resolve_left List.not_mem_nil

/-- Threads up to the first one that has matched: nothing is lost, as the match itself is
kept. -/
theorem settle_spec (all : List Thread) :
    (∀ thread ∈ (settle all).1, thread ∈ all ∧ ∀ marks, thread ≠ .matched marks) ∧
      ((∃ thread ∈ all, thread.Succeeds text) ↔
        (settle all).2.isSome = true ∨ ∃ thread ∈ (settle all).1, thread.Succeeds text) := by
  induction all with
  | nil => simp [settle]
  | cons first all ih =>
    cases first with
    | matched marks => simp [settle, Thread.Succeeds]
    | waiting set rest marks =>
      obtain ⟨hKept, hEither⟩ := ih
      constructor
      · intro thread hMem
        rcases List.mem_cons.mp hMem with rfl | hMem
        · exact ⟨List.mem_cons_self, fun _ hSame => by cases hSame⟩
        · obtain ⟨hThread, hWaiting⟩ := hKept thread hMem
          exact ⟨List.mem_cons_of_mem _ hThread, hWaiting⟩
      · simp only [settle, List.mem_cons, exists_eq_or_imp, hEither]
        constructor
        · rintro (hFirst | hFound | hRest)
          · exact Or.inr (Or.inl hFirst)
          · exact Or.inl hFound
          · exact Or.inr (Or.inr hRest)
        · rintro (hFound | hFirst | hRest)
          · exact Or.inr (Or.inl hFound)
          · exact Or.inl hFirst
          · exact Or.inr (Or.inr hRest)

/-- Behind a character those threads go on that waited for it. -/
theorem exists_advance_iff {c : Char} {more : List Char} {waiting : List Thread}
    (hBefore : place.before = some c) (hPlace : place.after = more.head?)
    (hSteady : ∀ thread ∈ waiting, thread.Steady)
    (hWaiting : ∀ thread ∈ waiting, ∀ marks, thread ≠ .matched marks) :
    (∃ thread ∈ advance place c waiting, thread.Succeeds more) ↔
      ∃ thread ∈ waiting, thread.Succeeds (c :: more) := by
  simp only [advance, List.mem_flatMap]
  constructor
  · rintro ⟨thread, ⟨origin, hOrigin, hMem⟩, hThread⟩
    refine ⟨origin, hOrigin, ?_⟩
    cases origin with
    | matched marks => exact absurd rfl (hWaiting _ hOrigin marks)
    | waiting set rest marks =>
      simp only at hMem
      split at hMem
      · next hContains =>
        exact ⟨c, more, rfl, hContains,
          hBefore ▸ succeeds_of_mem_threads hPlace hMem hThread⟩
      · cases hMem
  · rintro ⟨origin, hOrigin, hSucceeds⟩
    cases origin with
    | matched marks => exact absurd rfl (hWaiting _ hOrigin marks)
    | waiting set rest marks =>
      obtain ⟨_, _, hText, hContains, hRest⟩ := hSucceeds
      cases hText
      obtain ⟨thread, hMem, hThread⟩ :=
        (exists_threads_iff hPlace (hSteady _ hOrigin) marks).mpr (hBefore ▸ hRest)
      exact ⟨thread, ⟨_, hOrigin, by simpa only [if_pos hContains] using hMem⟩, hThread⟩

theorem steady_of_mem_advance {c : Char} {waiting : List Thread} {thread : Thread}
    (hSteady : ∀ thread ∈ waiting, thread.Steady) (hMem : thread ∈ advance place c waiting) :
    thread.Steady := by
  obtain ⟨origin, hOrigin, hMem⟩ := List.mem_flatMap.mp hMem
  cases origin with
  | matched => cases hMem
  | waiting set rest marks =>
    simp only at hMem
    split at hMem
    · exact steady_of_mem_threads (hSteady _ hOrigin) hMem
    · cases hMem

end Search

/-- A program succeeds at some place of a text, with a given character before the text. -/
def Program.Occurs (program : Program) : Option Char → List Char → Prop
  | before, [] => Program.Succeeds before [] [program]
  | before, c :: rest =>
    Program.Succeeds before (c :: rest) [program] ∨ program.Occurs (some c) rest

namespace Search

variable {program : Program}

/-- The threads at a place, once begun, merged and settled. -/
def settledAt (program : Program) (place : Place) (waiting : List Thread)
    (found : Option Marks) : List Thread × Option Marks :=
  let fresh := if found.isNone then threads place [] [program] [] else []
  settle (merge (waiting ++ fresh))

section Settled

variable {place : Place} {waiting : List Thread} {found : Option Marks} {text : List Char}

/-- What there is to find is found at the place, or a thread goes on that leads to it. -/
theorem settledAt_iff (hSteady : Program.Steady [program]) (hPlace : place.after = text.head?) :
    ((settledAt program place waiting found).2 <|> found).isSome = true ∨
        (∃ thread ∈ (settledAt program place waiting found).1, thread.Succeeds text) ↔
      found.isSome = true ∨ (∃ thread ∈ waiting, thread.Succeeds text) ∨
        Program.Succeeds place.before text [program] := by
  cases found with
  | some marks => simp
  | none =>
    obtain ⟨-, hSettled⟩ := @settle_spec text (merge (waiting ++ threads place [] [program] []))
    have hFresh := @exists_threads_iff place text _ hPlace hSteady []
    rw [exists_merge_iff] at hSettled
    simp only [List.mem_append, or_and_right, exists_or, hFresh] at hSettled
    simpa [settledAt] using hSettled.symm

theorem steady_of_mem_settledAt (hSteady : Program.Steady [program])
    (hWaiting : ∀ thread ∈ waiting, thread.Steady) {thread : Thread}
    (hMem : thread ∈ (settledAt program place waiting found).1) :
    thread.Steady ∧ ∀ marks, thread ≠ .matched marks := by
  obtain ⟨hKept, -⟩ := @settle_spec [] (merge (waiting ++
    if found.isNone then threads place [] [program] [] else []))
  obtain ⟨hThread, hOpen⟩ := hKept thread hMem
  refine ⟨?_, hOpen⟩
  rcases List.mem_append.mp (mem_of_mem_merge hThread) with hOld | hFresh
  · exact hWaiting thread hOld
  · split at hFresh
    · exact steady_of_mem_threads hSteady hFresh
    · cases hFresh

end Settled

theorem run_nil (program : Program) (position : Nat) (before : Option Char)
    (waiting : List Thread) (found : Option Marks) :
    run program position before waiting found [] =
      ((settledAt program ⟨position, before, none⟩ waiting found).2 <|> found) := rfl

theorem run_cons (program : Program) (position : Nat) (before : Option Char)
    (waiting : List Thread) (found : Option Marks) (c : Char) (rest : List Char) :
    run program position before waiting found (c :: rest) =
      let settled := settledAt program ⟨position, before, some c⟩ waiting found
      if settled.1.isEmpty && (settled.2 <|> found).isSome then (settled.2 <|> found)
      else
        run program (position + 1) (some c)
          (advance ⟨position + 1, some c, rest.head?⟩ c settled.1) (settled.2 <|> found) rest :=
  rfl

/-- A search from a place on finds a match if there is one already, if a thread leads to
one, or if the program succeeds at the place or behind it. -/
theorem isSome_run_iff (hSteady : Program.Steady [program]) (position : Nat)
    (before : Option Char) (text : List Char) {waiting : List Thread} (found : Option Marks)
    (hWaiting : ∀ thread ∈ waiting, thread.Steady) :
    (run program position before waiting found text).isSome = true ↔
      found.isSome = true ∨ (∃ thread ∈ waiting, thread.Succeeds text) ∨
        program.Occurs before text := by
  induction text generalizing position before waiting found with
  | nil =>
    rw [run_nil]
    have hHere := @settledAt_iff program ⟨position, before, none⟩ waiting found [] hSteady rfl
    have hKept := fun thread hMem =>
      @steady_of_mem_settledAt program ⟨position, before, none⟩ waiting found hSteady hWaiting
        thread hMem
    generalize settledAt program ⟨position, before, none⟩ waiting found = settled at *
    -- nothing is left to wait for at the end
    have hNone : ¬∃ thread ∈ settled.1, thread.Succeeds [] := by
      rintro ⟨thread, hMem, hThread⟩
      cases thread with
      | matched marks => exact (hKept _ hMem).2 marks rfl
      | waiting set rest marks =>
        obtain ⟨_, _, hText, -⟩ := hThread
        cases hText
    rw [or_iff_left hNone] at hHere
    exact hHere
  | cons c rest ih =>
    rw [run_cons]
    have hHere := @settledAt_iff program ⟨position, before, some c⟩ waiting found (c :: rest)
      hSteady rfl
    have hKept := fun thread hMem =>
      @steady_of_mem_settledAt program ⟨position, before, some c⟩ waiting found hSteady hWaiting
        thread hMem
    generalize settledAt program ⟨position, before, some c⟩ waiting found = settled at *
    have hNext := @exists_advance_iff ⟨position + 1, some c, rest.head?⟩ c rest settled.1 rfl rfl
      (fun thread hMem => (hKept thread hMem).1) (fun thread hMem => (hKept thread hMem).2)
    have hRest := ih (position + 1) (some c) (settled.2 <|> found) fun thread =>
      @steady_of_mem_advance ⟨position + 1, some c, rest.head?⟩ c settled.1 thread
        fun thread hMem => (hKept thread hMem).1
    have hAll : found.isSome = true ∨ (∃ thread ∈ waiting, thread.Succeeds (c :: rest)) ∨
          program.Occurs before (c :: rest) ↔
        (settled.2 <|> found).isSome = true ∨
          (∃ thread ∈ settled.1, thread.Succeeds (c :: rest)) ∨ program.Occurs (some c) rest := by
      simp only [Program.Occurs, ← or_assoc] at hHere ⊢
      rw [hHere]
    rw [hAll]
    simp only
    split
    · next hStop =>
      rw [Bool.and_eq_true] at hStop
      simp only [hStop.2, true_or]
    · rw [hRest, hNext]

end Search

/-- A search of a steady program finds a match exactly if the program succeeds somewhere in
the text. -/
theorem Program.isSome_search_iff {program : Program} (hSteady : Program.Steady [program])
    (text : List Char) : (program.search text).isSome = true ↔ program.Occurs none text := by
  unfold Program.search
  rw [Search.isSome_run_iff hSteady 0 none text none fun _ hMem => absurd hMem List.not_mem_nil]
  simp

end SingleTable.Pattern
