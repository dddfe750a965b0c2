/-!
# Entry lists ordered by key

A map is kept as the list of its entries in ascending key order.  The functions
here work on bare lists; `Ordered.NameMap` packs a list with the proof that it
is ascending, and nested values and stored rows use the bare lists.
-/

namespace SingleTable.Entries

variable {κ α β : Type}

/-- Keys are strictly ascending, hence distinct. -/
def Ascending [Ord κ] (entries : List (κ × α)) : Prop :=
  entries.Pairwise fun a b => compare a.1 b.1 = .lt

/-- The value filed under `key`. -/
def find? [DecidableEq κ] (key : κ) : List (κ × α) → Option α
  | [] => none
  | (other, value) :: rest => if other = key then some value else find? key rest

/-- File `value` under `key`, replacing what was there. -/
def insert [Ord κ] (key : κ) (value : α) : List (κ × α) → List (κ × α)
  | [] => [(key, value)]
  | (other, old) :: rest =>
    match compare key other with
    | .lt => (key, value) :: (other, old) :: rest
    | .eq => (key, value) :: rest
    | .gt => (other, old) :: insert key value rest

/-- Drop the entry filed under `key`. -/
def erase [DecidableEq κ] (key : κ) (entries : List (κ × α)) : List (κ × α) :=
  entries.filter fun entry => entry.1 ≠ key

/-- File every entry of `delta` in turn, so that a later one wins. -/
def overlay [Ord κ] (entries delta : List (κ × α)) : List (κ × α) :=
  delta.foldl (fun acc entry => insert entry.1 entry.2 acc) entries

/-- The ascending list of the given entries; of two with one key the later wins. -/
def ofList [Ord κ] (entries : List (κ × α)) : List (κ × α) :=
  overlay [] entries

section Lookup

variable [DecidableEq κ]

@[simp]
theorem find?_nil (key : κ) : find? key ([] : List (κ × α)) = none := rfl

theorem find?_cons (key other : κ) (value : α) (rest : List (κ × α)) :
    find? key ((other, value) :: rest) =
      if other = key then some value else find? key rest := rfl

theorem mem_of_find?_eq_some {key : κ} {value : α} {entries : List (κ × α)}
    (hFind : find? key entries = some value) : (key, value) ∈ entries := by
  induction entries with
  | nil => simp at hFind
  | cons entry rest ih =>
    obtain ⟨other, old⟩ := entry
    rw [find?_cons] at hFind
    split at hFind
    · next hSame =>
      subst hSame
      simp only [Option.some.injEq] at hFind
      simp [hFind]
    · exact List.mem_cons_of_mem _ (ih hFind)

theorem find?_eq_none_iff {key : κ} {entries : List (κ × α)} :
    find? key entries = none ↔ ∀ value, (key, value) ∉ entries := by
  induction entries with
  | nil => simp
  | cons entry rest ih =>
    obtain ⟨other, old⟩ := entry
    rw [find?_cons]
    split
    · next hSame =>
      subst hSame
      constructor
      · intro hBad
        simp at hBad
      · intro hAbsent
        exact absurd List.mem_cons_self (hAbsent old)
    · next hOther =>
      rw [ih]
      constructor
      · intro hAbsent value hMem
        rcases List.mem_cons.mp hMem with hEq | hRest
        · exact hOther (congrArg Prod.fst hEq).symm
        · exact hAbsent value hRest
      · intro hAbsent value hMem
        exact hAbsent value (List.mem_cons_of_mem _ hMem)

end Lookup

section Order

variable [Ord κ]

theorem ascending_nil : Ascending ([] : List (κ × α)) := List.Pairwise.nil

theorem Ascending.tail {entry : κ × α} {rest : List (κ × α)}
    (hAscending : Ascending (entry :: rest)) : Ascending rest :=
  (List.pairwise_cons.mp hAscending).2

theorem Ascending.filter {entries : List (κ × α)} (hAscending : Ascending entries)
    (keep : κ × α → Bool) : Ascending (entries.filter keep) :=
  List.Pairwise.filter keep hAscending

theorem Ascending.erase [DecidableEq κ] {entries : List (κ × α)}
    (hAscending : Ascending entries) (key : κ) : Ascending (erase key entries) :=
  hAscending.filter _

/-- An inserted list holds the new entry and entries that were there before. -/
theorem mem_insert {key : κ} {value : α} {entries : List (κ × α)} {entry : κ × α}
    (hMem : entry ∈ insert key value entries) :
    entry = (key, value) ∨ entry ∈ entries := by
  induction entries with
  | nil => simpa [insert] using hMem
  | cons head rest ih =>
    obtain ⟨other, old⟩ := head
    simp only [insert] at hMem
    split at hMem
    · simpa using hMem
    · rcases List.mem_cons.mp hMem with hEq | hRest
      · exact Or.inl hEq
      · exact Or.inr (List.mem_cons_of_mem _ hRest)
    · rcases List.mem_cons.mp hMem with hEq | hRest
      · exact Or.inr (hEq ▸ List.mem_cons_self)
      · rcases ih hRest with hNew | hOld
        · exact Or.inl hNew
        · exact Or.inr (List.mem_cons_of_mem _ hOld)

theorem mem_overlay {entries delta : List (κ × α)} {entry : κ × α}
    (hMem : entry ∈ overlay entries delta) : entry ∈ delta ∨ entry ∈ entries := by
  induction delta generalizing entries with
  | nil => exact Or.inr hMem
  | cons head rest ih =>
    rcases ih hMem with hRest | hInsert
    · exact Or.inl (List.mem_cons_of_mem _ hRest)
    · rcases mem_insert hInsert with rfl | hOld
      · exact Or.inl List.mem_cons_self
      · exact Or.inr hOld

theorem mem_ofList {entries : List (κ × α)} {entry : κ × α} (hMem : entry ∈ ofList entries) :
    entry ∈ entries :=
  (mem_overlay hMem).resolve_right List.not_mem_nil

variable [Std.TransOrd κ] [Std.LawfulEqOrd κ]

theorem Ascending.insert {entries : List (κ × α)} (hAscending : Ascending entries)
    (key : κ) (value : α) : Ascending (insert key value entries) := by
  induction entries with
  | nil => simp [Entries.insert, Ascending]
  | cons head rest ih =>
    obtain ⟨other, old⟩ := head
    obtain ⟨hHead, hRest⟩ := List.pairwise_cons.mp hAscending
    simp only [Entries.insert]
    split
    · next hBelow =>
      refine List.pairwise_cons.mpr ⟨?_, hAscending⟩
      intro entry hMem
      rcases List.mem_cons.mp hMem with hEq | hTail
      · simpa [hEq] using hBelow
      · exact Std.TransCmp.lt_trans hBelow (hHead entry hTail)
    · next hSame =>
      have hEq : key = other := Std.LawfulEqCmp.eq_of_compare hSame
      subst hEq
      exact List.pairwise_cons.mpr ⟨hHead, hRest⟩
    · next hAbove =>
      refine List.pairwise_cons.mpr ⟨?_, ih hRest⟩
      intro entry hMem
      rcases mem_insert hMem with hNew | hOld
      · simpa [hNew] using Std.OrientedCmp.lt_of_gt hAbove
      · exact hHead entry hOld

theorem Ascending.overlay {entries : List (κ × α)} (hAscending : Ascending entries)
    (delta : List (κ × α)) : Ascending (overlay entries delta) := by
  induction delta generalizing entries with
  | nil => exact hAscending
  | cons head rest ih => exact ih (hAscending.insert head.1 head.2)

theorem ascending_ofList (entries : List (κ × α)) : Ascending (ofList entries) :=
  ascending_nil.overlay entries

end Order

/-- What is found after an insertion: the new value under its key, else what was found before. -/
theorem find?_insert [DecidableEq κ] [Ord κ] [Std.LawfulEqOrd κ]
    (key other : κ) (value : α) (entries : List (κ × α)) :
    find? other (insert key value entries) =
      if key = other then some value else find? other entries := by
  induction entries with
  | nil => simp [insert, find?_cons]
  | cons head rest ih =>
    obtain ⟨name, old⟩ := head
    simp only [insert]
    split
    · simp [find?_cons]
    · next hSame =>
      have hEq : key = name := Std.LawfulEqCmp.eq_of_compare hSame
      subst hEq
      by_cases hName : key = other <;> simp [find?_cons, hName]
    · next hAbove =>
      rw [find?_cons, ih, find?_cons]
      by_cases hName : name = other
      · have hKey : key ≠ other := by
          intro hBad
          rw [hBad, hName] at hAbove
          simp [Std.ReflCmp.compare_self] at hAbove
        simp [hName, hKey]
      · simp [hName]

/-- What is found after an erasure: nothing under the erased key, else what was found before. -/
theorem find?_erase [DecidableEq κ] (key other : κ) (entries : List (κ × α)) :
    find? other (erase key entries) =
      if key = other then none else find? other entries := by
  induction entries with
  | nil => simp [erase]
  | cons head rest ih =>
    obtain ⟨name, old⟩ := head
    simp only [erase, List.filter_cons] at ih ⊢
    by_cases hName : name = key
    · subst hName
      simp only [ne_eq, not_true_eq_false, decide_false, Bool.false_eq_true, ↓reduceIte, ih,
        find?_cons]
      split <;> rfl
    · simp only [ne_eq, hName, not_false_eq_true, decide_true, ↓reduceIte, find?_cons, ih]
      by_cases hOther : name = other
      · have : ¬key = other := fun hBad => hName (hOther.trans hBad.symm)
        simp [hOther, this]
      · simp [hOther]

section Distinct

variable [DecidableEq κ] [Ord κ] [Std.LawfulEqOrd κ]

/-- The first key of an ascending list is not among the others. -/
theorem Ascending.find?_head {key : κ} {value : α} {rest : List (κ × α)}
    (hAscending : Ascending ((key, value) :: rest)) : find? key rest = none := by
  refine find?_eq_none_iff.mpr ?_
  intro other hMem
  have hBelow := (List.pairwise_cons.mp hAscending).1 (key, other) hMem
  simp [Std.ReflCmp.compare_self] at hBelow

omit [DecidableEq κ] in
/-- The keys of an ascending list are distinct. -/
theorem Ascending.nodup_keys {entries : List (κ × α)} (hAscending : Ascending entries) :
    (entries.map Prod.fst).Nodup := by
  unfold List.Nodup
  rw [List.pairwise_map]
  refine List.Pairwise.imp ?_ hAscending
  rintro ⟨key, value⟩ ⟨other, otherValue⟩ hBelow rfl
  simp [Std.ReflCmp.compare_self] at hBelow

omit [Ord κ] [Std.LawfulEqOrd κ] in
/-- Among entries with distinct keys every one is found. -/
theorem mem_iff_of_nodup {key : κ} {value : α} {entries : List (κ × α)}
    (hNodup : (entries.map Prod.fst).Nodup) :
    (key, value) ∈ entries ↔ find? key entries = some value := by
  constructor
  · intro hMem
    induction entries with
    | nil => simp at hMem
    | cons entry rest ih =>
      obtain ⟨other, old⟩ := entry
      rw [List.map_cons, List.nodup_cons] at hNodup
      rw [find?_cons]
      rcases List.mem_cons.mp hMem with hEq | hRest
      · simp only [Prod.mk.injEq] at hEq
        simp [hEq.1, hEq.2]
      · have hOther : other ≠ key := by
          rintro rfl
          exact hNodup.1 (List.mem_map.mpr ⟨(other, value), hRest, rfl⟩)
        rw [if_neg hOther, ih hNodup.2 hRest]
  · exact mem_of_find?_eq_some

theorem Ascending.mem_iff {key : κ} {value : α} {entries : List (κ × α)}
    (hAscending : Ascending entries) :
    (key, value) ∈ entries ↔ find? key entries = some value :=
  mem_iff_of_nodup hAscending.nodup_keys

/-- What is found among the entries whose value passes a test. -/
theorem Ascending.find?_filter {entries : List (κ × α)} (hAscending : Ascending entries)
    (test : α → Bool) (key : κ) :
    find? key (entries.filter fun entry => test entry.2) = (find? key entries).filter test := by
  induction entries with
  | nil => rfl
  | cons entry rest ih =>
    obtain ⟨other, old⟩ := entry
    have hRest := ih hAscending.tail
    rw [List.filter_cons, find?_cons]
    by_cases hSame : other = key
    · subst hSame
      cases hTest : test old with
      | true => simp [find?_cons, Option.filter, hTest]
      | false => simp [hRest, hAscending.find?_head, Option.filter, hTest]
    · cases hTest : test old with
      | true => simp [find?_cons, hSame, hRest]
      | false => simp [hSame, hRest]

/-- What is found after filing entries with distinct keys: theirs first. -/
theorem find?_overlay {entries delta : List (κ × α)} (hDelta : (delta.map Prod.fst).Nodup)
    (key : κ) :
    find? key (overlay entries delta) = (find? key delta).or (find? key entries) := by
  induction delta generalizing entries with
  | nil => rfl
  | cons entry rest ih =>
    obtain ⟨other, value⟩ := entry
    rw [List.map_cons, List.nodup_cons] at hDelta
    have hRest : find? key (overlay (insert other value entries) rest) = _ :=
      ih hDelta.2
    rw [find?_insert] at hRest
    change find? key (overlay (insert other value entries) rest) = _
    rw [hRest, find?_cons]
    by_cases hSame : other = key
    · subst hSame
      have hNone : find? other rest = none := by
        refine find?_eq_none_iff.mpr fun value hMem => hDelta.1 ?_
        exact List.mem_map.mpr ⟨(other, value), hMem, rfl⟩
      simp [hNone]
    · simp [hSame]

omit [DecidableEq κ] [Ord κ] [Std.LawfulEqOrd κ] in
theorem nodup_of_nodup_keys {entries : List (κ × α)} (hNodup : (entries.map Prod.fst).Nodup) :
    entries.Nodup := by
  refine List.Pairwise.of_map Prod.fst ?_ hNodup
  exact fun _ _ hDiffer hSame => hDiffer (congrArg Prod.fst hSame)

/-- Two ascending lists in which every key finds the same value are equal. -/
theorem Ascending.ext [Std.TransOrd κ] {entries others : List (κ × α)}
    (hEntries : Ascending entries) (hOthers : Ascending others)
    (hFind : ∀ key, find? key entries = find? key others) : entries = others := by
  have hPerm : entries.Perm others := by
    refine (List.perm_ext_iff_of_nodup (nodup_of_nodup_keys hEntries.nodup_keys)
      (nodup_of_nodup_keys hOthers.nodup_keys)).mpr ?_
    rintro ⟨key, value⟩
    rw [hEntries.mem_iff, hOthers.mem_iff, hFind]
  refine hPerm.eq_of_pairwise ?_ hEntries hOthers
  intro a b _ _ hBelow hAbove
  have hCycle := Std.TransCmp.lt_trans hBelow hAbove
  simp [Std.ReflCmp.compare_self] at hCycle

/-- Filing entries with distinct keys changes only their order. -/
theorem perm_ofList [Std.TransOrd κ] {entries : List (κ × α)}
    (hNodup : (entries.map Prod.fst).Nodup) : (ofList entries).Perm entries := by
  have hAscending := ascending_ofList entries
  refine (List.perm_ext_iff_of_nodup (nodup_of_nodup_keys hAscending.nodup_keys)
    (nodup_of_nodup_keys hNodup)).mpr ?_
  rintro ⟨key, value⟩
  have hFind : find? key (ofList entries) = (find? key entries).or (find? key []) :=
    find?_overlay hNodup key
  rw [hAscending.mem_iff, mem_iff_of_nodup hNodup, hFind, find?_nil, Option.or_none]

/-- Filing the entries of an ascending list again changes nothing. -/
theorem ofList_of_ascending [Std.TransOrd κ] {entries : List (κ × α)}
    (hAscending : Ascending entries) : ofList entries = entries := by
  refine (ascending_ofList entries).ext hAscending fun key => ?_
  have hFind : find? key (ofList entries) = (find? key entries).or (find? key []) :=
    find?_overlay hAscending.nodup_keys key
  rw [hFind, find?_nil, Option.or_none]

end Distinct

end SingleTable.Entries
