import SingleTable.Codec.Number

/-!
# Success of computations that may fail

Every operation of the library that may fail gives an `Except`.  The lemmas here
say when such a computation succeeds, so that the proofs about an operation need
not open its steps: a sequence succeeds when each of its steps does, and a fold
carries along whatever its steps keep.
-/

namespace SingleTable.Outcome

variable {ε δ α β : Type}

@[simp]
theorem pure_eq_ok_iff {a b : α} : (pure a : Except ε α) = .ok b ↔ a = b := by
  show Except.ok a = Except.ok b ↔ a = b
  simp

/-- A sequence succeeds when its first step does and what follows on its result. -/
@[simp]
theorem bind_eq_ok_iff {first : Except ε α} {next : α → Except ε β} {b : β} :
    (first >>= next) = .ok b ↔ ∃ a, first = .ok a ∧ next a = .ok b := by
  cases first with
  | error error =>
    show Except.error error = Except.ok b ↔ _
    simp
  | ok a =>
    show next a = Except.ok b ↔ _
    simp

/-- A sequence fails when its first step does, or what follows on its result. -/
theorem bind_eq_error_iff {first : Except ε α} {next : α → Except ε β} {error : ε} :
    (first >>= next) = .error error ↔
      first = .error error ∨ ∃ a, first = .ok a ∧ next a = .error error := by
  cases first with
  | error other =>
    show Except.error other = Except.error error ↔ _
    simp
  | ok a =>
    show next a = Except.error error ↔ _
    simp

theorem bind_ok {first : Except ε α} {a : α} (hFirst : first = .ok a)
    (next : α → Except ε β) : (first >>= next) = next a := by
  rw [hFirst]
  rfl

theorem bind_error {first : Except ε α} {error : ε} (hFirst : first = .error error)
    (next : α → Except ε β) : (first >>= next) = .error error := by
  rw [hFirst]
  rfl

@[simp]
theorem map_eq_ok_iff {outcome : Except ε α} {change : α → β} {b : β} :
    outcome.map change = .ok b ↔ ∃ a, outcome = .ok a ∧ change a = b := by
  cases outcome <;> simp [Except.map]

@[simp]
theorem functor_map_eq_ok_iff {outcome : Except ε α} {change : α → β} {b : β} :
    change <$> outcome = .ok b ↔ ∃ a, outcome = .ok a ∧ change a = b :=
  map_eq_ok_iff

@[simp]
theorem mapError_eq_ok_iff {outcome : Except ε α} {change : ε → δ} {a : α} :
    outcome.mapError change = .ok a ↔ outcome = .ok a := by
  cases outcome with
  | error error => exact ⟨nofun, nofun⟩
  | ok value =>
    show Except.ok value = Except.ok a ↔ _
    simp

/-- Several checks succeed together when each of them does. -/
theorem forM_eq_ok_iff {check : α → Except ε Unit} {items : List α} :
    items.forM check = .ok () ↔ ∀ item ∈ items, check item = .ok () := by
  induction items with
  | nil => simp [List.forM]
  | cons item rest ih =>
    show (check item >>= fun _ => rest.forM check) = .ok () ↔ _
    rw [bind_eq_ok_iff, ih, List.forall_mem_cons]
    constructor
    · rintro ⟨⟨⟩, hItem, hRest⟩
      exact ⟨hItem, hRest⟩
    · rintro ⟨hItem, hRest⟩
      exact ⟨(), hItem, hRest⟩

/-- Going through items gives the same with one of them replaced by one that gives the same. -/
theorem mapM_replace {compute : α → Except ε β} {item other : α}
    (hSame : compute item = compute other) (front back : List α) :
    (front ++ item :: back).mapM compute = (front ++ other :: back).mapM compute := by
  rw [List.mapM_append, List.mapM_append, List.mapM_cons, List.mapM_cons, hSame]

/-- Where every item is written so that it can be read, all of them are read. -/
theorem mapM_map_eq_ok {γ : Type} {write : α → β} {read : β → Except ε γ} {result : α → γ}
    {items : List α} (hEach : ∀ item ∈ items, read (write item) = .ok (result item)) :
    (items.map write).mapM read = .ok (items.map result) := by
  induction items with
  | nil => rfl
  | cons item rest ih =>
    obtain ⟨hItem, hRest⟩ := List.forall_mem_cons.mp hEach
    rw [List.map_cons, List.mapM_cons, bind_ok hItem, bind_ok (ih hRest)]
    rfl

/-- Where reading is the inverse of writing, exactly what was written for all results is
read as these. -/
theorem mapM_eq_ok_iff_map {read : β → Except ε α} {write : α → β}
    (hEach : ∀ b a, read b = .ok a ↔ b = write a) {items : List β} {results : List α} :
    items.mapM read = .ok results ↔ items = results.map write := by
  induction items generalizing results with
  | nil =>
    rw [List.mapM_nil, pure_eq_ok_iff]
    cases results <;> simp
  | cons item rest ih =>
    simp only [List.mapM_cons, bind_eq_ok_iff, pure_eq_ok_iff, hEach, ih]
    constructor
    · rintro ⟨a, rfl, others, rfl, rfl⟩
      rfl
    · intro hItems
      cases results with
      | nil => cases hItems
      | cons a others =>
        obtain ⟨rfl, rfl⟩ := List.cons.inj hItems
        exact ⟨a, rfl, others, rfl, rfl⟩

/-- Every result of a list of computations is that of one of them. -/
theorem exists_of_mem_mapM {compute : α → Except ε β} {items : List α} {results : List β} {b : β}
    (hResults : items.mapM compute = .ok results) (hMem : b ∈ results) :
    ∃ item ∈ items, compute item = .ok b := by
  induction items generalizing results with
  | nil =>
    rw [List.mapM_nil, pure_eq_ok_iff] at hResults
    subst hResults
    cases hMem
  | cons item rest ih =>
    simp only [List.mapM_cons, bind_eq_ok_iff, pure_eq_ok_iff] at hResults
    obtain ⟨first, hFirst, others, hOthers, rfl⟩ := hResults
    rcases List.mem_cons.mp hMem with rfl | hRest
    · exact ⟨item, List.mem_cons_self, hFirst⟩
    · obtain ⟨found, hFound, hSame⟩ := ih hOthers hRest
      exact ⟨found, List.mem_cons_of_mem item hFound, hSame⟩

/-- Where every result is written for something, all of them are written for a list of it. -/
theorem exists_map_of_mapM {γ : Type} {compute : α → Except ε β} {write : γ → β}
    {Proper : γ → Prop} {items : List α} {results : List β}
    (hResults : items.mapM compute = .ok results)
    (hEach : ∀ item b, compute item = .ok b → ∃ c, Proper c ∧ b = write c) :
    ∃ sources : List γ, (∀ c ∈ sources, Proper c) ∧ results = sources.map write := by
  induction items generalizing results with
  | nil =>
    rw [List.mapM_nil, pure_eq_ok_iff] at hResults
    exact ⟨[], nofun, hResults.symm⟩
  | cons item rest ih =>
    simp only [List.mapM_cons, bind_eq_ok_iff, pure_eq_ok_iff] at hResults
    obtain ⟨b, hItem, others, hOthers, rfl⟩ := hResults
    obtain ⟨c, hProper, rfl⟩ := hEach item b hItem
    obtain ⟨sources, hSources, rfl⟩ := ih hOthers
    exact ⟨c :: sources, List.forall_mem_cons.mpr ⟨hProper, hSources⟩, rfl⟩

/-- A fold that succeeds keeps whatever its steps keep. -/
theorem foldlM_induct {step : β → α → Except ε β} {Keeps : β → Prop} {items : List α}
    {start final : β} (hStep : ∀ item ∈ items, ∀ current next, Keeps current →
      step current item = .ok next → Keeps next)
    (hStart : Keeps start) (hFold : items.foldlM step start = .ok final) : Keeps final := by
  induction items generalizing start with
  | nil =>
    rw [List.foldlM_nil, pure_eq_ok_iff] at hFold
    exact hFold ▸ hStart
  | cons item rest ih =>
    rw [List.foldlM_cons, bind_eq_ok_iff] at hFold
    obtain ⟨next, hNext, hRest⟩ := hFold
    refine ih ?_ (hStep item List.mem_cons_self start next hStart hNext) hRest
    intro other hMem
    exact hStep other (List.mem_cons_of_mem _ hMem)

/-- Where every step of a fold writes something over what can be read, or leaves it, a
fold that succeeds leaves what the last step wrote. -/
theorem foldlM_writes {γ : Type} {step : β → α → Except ε β} {read : β → Option γ}
    {written : α → Option γ} {items : List α} {start final : β}
    (hStep : ∀ item current next, step current item = .ok next →
      read next = (written item).or (read current))
    (hFold : items.foldlM step start = .ok final) :
    read final = (items.reverse.findSome? written).or (read start) := by
  induction items generalizing start with
  | nil =>
    rw [List.foldlM_nil, pure_eq_ok_iff] at hFold
    simp [hFold]
  | cons item rest ih =>
    rw [List.foldlM_cons, bind_eq_ok_iff] at hFold
    obtain ⟨middle, hMiddle, hRest⟩ := hFold
    -- what the rest wrote comes first, as it stands later in the list
    rw [ih hRest, hStep item start middle hMiddle, List.reverse_cons, List.findSome?_append,
      Option.or_assoc]
    simp

/-- Where each step does to the image of a state what another one does to the state, so does
a fold. -/
theorem foldlM_image {γ : Type} {image : β → γ} {step : β → α → Except ε β}
    {imageStep : γ → α → Except ε γ} {items : List α}
    (hStep : ∀ item ∈ items, ∀ current,
      imageStep (image current) item = (step current item).map image) (start : β) :
    items.foldlM imageStep (image start) = (items.foldlM step start).map image := by
  induction items generalizing start with
  | nil => rfl
  | cons item rest ih =>
    obtain ⟨hItem, hRest⟩ := List.forall_mem_cons.mp hStep
    rw [List.foldlM_cons, List.foldlM_cons, hItem start]
    cases step start item with
    | error error => rfl
    | ok next => exact ih hRest next

/-- Where the success of a step does not depend on the state, a fold succeeds when
every step does. -/
theorem exists_foldlM_eq_ok_iff {step : β → α → Except ε β} {Succeeds : α → Prop}
    (hStep : ∀ current item, (∃ next, step current item = .ok next) ↔ Succeeds item)
    (items : List α) (start : β) :
    (∃ final, items.foldlM step start = .ok final) ↔ ∀ item ∈ items, Succeeds item := by
  induction items generalizing start with
  | nil =>
    rw [List.foldlM_nil]
    simp
  | cons item rest ih =>
    rw [List.foldlM_cons, List.forall_mem_cons]
    simp only [bind_eq_ok_iff]
    constructor
    · rintro ⟨final, next, hNext, hRest⟩
      exact ⟨(hStep start item).mp ⟨next, hNext⟩, (ih next).mp ⟨final, hRest⟩⟩
    · rintro ⟨hItem, hRest⟩
      obtain ⟨next, hNext⟩ := (hStep start item).mpr hItem
      obtain ⟨final, hFinal⟩ := (ih next).mpr hRest
      exact ⟨final, next, hNext, hFinal⟩

/-- A fold fails with the error of its first failing step, which the state after the steps
before it meets. -/
theorem foldlM_eq_error_iff {step : β → α → Except ε β} {items : List α} {start : β} {error : ε} :
    items.foldlM step start = .error error ↔
      ∃ before item after current, items = before ++ item :: after ∧
        before.foldlM step start = .ok current ∧ step current item = .error error := by
  constructor
  · intro hFold
    induction items generalizing start with
    | nil =>
      rw [List.foldlM_nil] at hFold
      cases hFold
    | cons item rest ih =>
      rw [List.foldlM_cons, bind_eq_error_iff] at hFold
      rcases hFold with hItem | ⟨next, hItem, hRest⟩
      · exact ⟨[], item, rest, start, rfl, rfl, hItem⟩
      · obtain ⟨before, found, after, current, rfl, hBefore, hFound⟩ := ih hRest
        refine ⟨item :: before, found, after, current, rfl, ?_, hFound⟩
        rw [List.foldlM_cons, bind_ok hItem]
        exact hBefore
  · rintro ⟨before, item, after, current, rfl, hBefore, hItem⟩
    rw [List.foldlM_append, bind_ok hBefore, List.foldlM_cons, bind_error hItem]

section Failure

variable {γ : Type} {step : β → α → Except ε β}

/-- Why a computation fails, if it does. -/
def failure? : Except ε α → Option ε
  | .error error => some error
  | .ok _ => none

theorem failure?_eq_some_iff {outcome : Except ε α} {error : ε} :
    failure? outcome = some error ↔ outcome = .error error := by
  cases outcome <;> simp [failure?]

theorem failure?_eq_none_iff {outcome : Except ε α} :
    failure? outcome = none ↔ ∃ a, outcome = .ok a := by
  cases outcome <;> simp [failure?]

theorem failure?_map (outcome : Except ε α) (change : α → β) :
    failure? (outcome.map change) = failure? outcome := by
  cases outcome <;> rfl

/-- A sequence fails as its first step does, or else as the second one. -/
theorem failure?_seq {δ : Type} (first : Except ε α) (second : Except ε β) (join : α → β → δ) :
    failure? (do return join (← first) (← second)) = (failure? first).or (failure? second) := by
  cases first with
  | error error => rfl
  | ok a => cases second <;> rfl

/-- Going through items fails as the first of them that fails. -/
theorem failure?_mapM (compute : α → Except ε β) (items : List α) :
    failure? (items.mapM compute) = items.findSome? fun item => failure? (compute item) := by
  induction items with
  | nil => rfl
  | cons item rest ih =>
    rw [List.mapM_cons, failure?_seq (compute item) (rest.mapM compute) List.cons, ih,
      List.findSome?_cons]
    cases failure? (compute item) <;> rfl

theorem failure?_mapError (outcome : Except ε α) (change : ε → δ) :
    failure? (outcome.mapError change) = (failure? outcome).map change := by
  cases outcome <;> rfl

/-- Sequences fail alike if their first steps do and whatever follows on the results. -/
theorem failure?_bind_congr {first : Except ε α} {other : Except ε γ} {next : α → Except ε β}
    {follow : γ → Except ε δ} (hFirst : failure? first = failure? other)
    (hNext : ∀ a c, failure? (next a) = failure? (follow c)) :
    failure? (first >>= next) = failure? (other >>= follow) := by
  cases first with
  | error error =>
    cases other with
    | error otherError => exact hFirst
    | ok c => cases hFirst
  | ok a =>
    cases other with
    | error error => cases hFirst
    | ok c => exact hNext a c

/-- A fold fails alike from every start if its steps do. -/
theorem failure?_foldlM {other : γ → α → Except ε γ}
    (hStep : ∀ b c item, failure? (step b item) = failure? (other c item)) (items : List α)
    (start : β) (otherStart : γ) :
    failure? (items.foldlM step start) = failure? (items.foldlM other otherStart) := by
  induction items generalizing start otherStart with
  | nil => rfl
  | cons item rest ih =>
    rw [List.foldlM_cons, List.foldlM_cons]
    exact failure?_bind_congr (hStep start otherStart item) fun b c => ih b c

end Failure

section Reaches

variable {Passes Stops : α → Prop} {item : α} {items : List α}

/-- Going through the items leads past some that pass to one that stops. -/
def Reaches (Passes Stops : α → Prop) (items : List α) : Prop :=
  ∃ before item after, items = before ++ item :: after ∧
    (∀ other ∈ before, Passes other) ∧ Stops item

@[simp]
theorem reaches_nil : Reaches Passes Stops [] ↔ False := by
  constructor
  · rintro ⟨before, item, after, hSplit, _⟩
    cases before <;> cases hSplit
  · exact False.elim

/-- Either the first item stops, or it passes and one behind it is reached. -/
@[simp]
theorem reaches_cons :
    Reaches Passes Stops (item :: items) ↔ Stops item ∨ (Passes item ∧ Reaches Passes Stops items) := by
  constructor
  · rintro ⟨before, found, after, hSplit, hBefore, hFound⟩
    cases before with
    | nil =>
      cases hSplit
      exact Or.inl hFound
    | cons first before =>
      obtain ⟨rfl, hRest⟩ := List.cons.inj hSplit
      obtain ⟨hFirst, hOthers⟩ := List.forall_mem_cons.mp hBefore
      exact Or.inr ⟨hFirst, before, found, after, hRest, hOthers, hFound⟩
  · rintro (hFirst | ⟨hFirst, before, found, after, rfl, hBefore, hFound⟩)
    · exact ⟨[], item, items, rfl, by simp, hFirst⟩
    · exact ⟨item :: before, found, after, rfl, List.forall_mem_cons.mpr ⟨hFirst, hBefore⟩,
        hFound⟩

theorem reaches_congr {Passes' Stops' : α → Prop}
    (hPasses : ∀ item ∈ items, (Passes item ↔ Passes' item))
    (hStops : ∀ item ∈ items, (Stops item ↔ Stops' item)) :
    Reaches Passes Stops items ↔ Reaches Passes' Stops' items := by
  induction items with
  | nil => simp
  | cons item rest ih =>
    obtain ⟨hPassesItem, hPassesRest⟩ := List.forall_mem_cons.mp hPasses
    obtain ⟨hStopsItem, hStopsRest⟩ := List.forall_mem_cons.mp hStops
    rw [reaches_cons, reaches_cons, hPassesItem, hStopsItem, ih hPassesRest hStopsRest]

end Reaches

end SingleTable.Outcome
