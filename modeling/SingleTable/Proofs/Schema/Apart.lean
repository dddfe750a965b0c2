import Mathlib.Data.List.Pairwise
import SingleTable.Proofs.Schema.Matching

/-!
# Kinds that are told apart by their keys

Two leading texts diverge if neither starts with the other; then no text starts with both.
So two kinds of a table have no row in common if their partition texts diverge, or if both
have a sort column under the same attribute and their sort texts diverge
(`ToldApart.not_both_match`).  Among kinds that are told apart pairwise a row is of at most
one, and so it is found whatever the order in which they are tried.
-/

namespace SingleTable

/-- Neither text starts with the other. -/
def Text.Diverge (a b : String) : Prop :=
  startsWith a b = false ∧ startsWith b a = false

namespace Text.Diverge

variable {a b : String}

instance : Decidable (Diverge a b) :=
  inferInstanceAs (Decidable (_ ∧ _))

theorem symm (hDiverge : Diverge a b) : Diverge b a :=
  And.symm hDiverge

/-- Two texts diverge exactly if nothing starts with both of them. -/
theorem iff_not_both :
    Diverge a b ↔ ∀ text, ¬ (startsWith text a = true ∧ startsWith text b = true) := by
  constructor
  · rintro ⟨hFirst, hSecond⟩ text ⟨hStarts, hOtherStarts⟩
    rcases startsWith_or_startsWith hStarts hOtherStarts with hOther | hOther
    · rw [hFirst] at hOther
      cases hOther
    · rw [hSecond] at hOther
      cases hOther
  · intro hNone
    -- the longer one of two comparable texts starts with both
    constructor
    · exact Bool.eq_false_iff.mpr fun hStarts => hNone a ⟨startsWith_self a, hStarts⟩
    · exact Bool.eq_false_iff.mpr fun hStarts => hNone b ⟨hStarts, startsWith_self b⟩

end Text.Diverge

namespace Schema

/-- Two kinds are told apart by how their partition texts start, or by how their sort texts
under the same attribute do. -/
inductive ToldApart (schema other : Schema) : Prop
  | byPartition
      (diverge : Text.Diverge schema.partition.leadText other.partition.leadText)
  | bySort {column otherColumn : Column}
      (sort : schema.sort = some column) (otherSort : other.sort = some otherColumn)
      (name : column.attributeName = otherColumn.attributeName)
      (diverge : Text.Diverge column.leadText otherColumn.leadText)

/-- The kinds keep their partition texts under one attribute, and any two of them are told
apart. -/
structure TellsApart (partition : String) (schemas : List Schema) : Prop where
  partition : ∀ schema ∈ schemas, schema.partition.attributeName = partition
  apart : schemas.Pairwise ToldApart

variable {schema other : Schema} {schemas : List Schema} {partition : String} {row : Item}

theorem ToldApart.symm : ToldApart schema other → ToldApart other schema
  | .byPartition hDiverge => .byPartition hDiverge.symm
  | .bySort hSort hOther hName hDiverge => .bySort hOther hSort hName.symm hDiverge.symm

instance : Std.Symm ToldApart :=
  ⟨fun _ _ => ToldApart.symm⟩

/-- No row is of two kinds that are told apart. -/
theorem ToldApart.not_both_match (hApart : ToldApart schema other)
    (hName : schema.partition.attributeName = other.partition.attributeName) :
    ¬ (schema.matchesRow row = true ∧ other.matchesRow row = true) := by
  rintro ⟨hMatches, hOther⟩
  cases hApart with
  | byPartition hDiverge =>
    obtain ⟨text, hText, hStarts⟩ := partitionMatches_iff.mp (matchesRow_iff.mp hMatches).1
    rw [hName] at hText
    exact Text.Diverge.iff_not_both.mp hDiverge text
      ⟨hStarts, startsWith_of_matchesRow hOther hText⟩
  | bySort hSort hOtherSort hSortName hDiverge =>
    obtain ⟨text, hText, hStarts⟩ :=
      (sortMatches_iff_of_sort hSort).mp (matchesRow_iff.mp hMatches).2.1
    obtain ⟨otherText, hOtherText, hOtherStarts⟩ :=
      (sortMatches_iff_of_sort hOtherSort).mp (matchesRow_iff.mp hOther).2.1
    -- both read the same attribute of the row
    rw [hSortName, hOtherText, Option.some.injEq, Cell.string.injEq] at hText
    rw [hText] at hOtherStarts
    exact Text.Diverge.iff_not_both.mp hDiverge text ⟨hStarts, hOtherStarts⟩

/-- A row with texts under the key attributes, and nothing else, is of a kind if both texts
start as the kind asks. -/
theorem matchesRow_of_texts {column : Column} {text sortText : String}
    (hSort : schema.sort = some column)
    (hDiffer : column.attributeName ≠ schema.partition.attributeName)
    (hStarts : Text.startsWith text schema.partition.leadText = true)
    (hSortStarts : Text.startsWith sortText column.leadText = true)
    (hRow : ∀ name, row.find? name =
      if column.attributeName = name then some (.string sortText)
      else if schema.partition.attributeName = name then some (.string text) else none) :
    schema.matchesRow row = true := by
  refine matchesRow_iff.mpr ⟨partitionMatches_iff.mpr ⟨text, ?_, hStarts⟩,
    (sortMatches_iff_of_sort hSort).mpr ⟨sortText, ?_, hSortStarts⟩, fun name hMem => ?_⟩
  · rw [hRow, if_neg hDiffer, if_pos rfl]
  · rw [hRow, if_pos rfl]
  · obtain ⟨cell, hFound⟩ := NameMap.exists_find?_of_mem_names hMem
    rw [hRow] at hFound
    split at hFound
    · next hName => exact hName ▸ knows_of_mem_keyColumns (mem_keyColumns_iff.mpr (Or.inr hSort))
    · split at hFound
      · next hName => exact hName ▸ knows_of_mem_keyColumns (mem_keyColumns_iff.mpr (Or.inl rfl))
      · cases hFound

/-- Where two kinds have their key columns under the same two attributes, they are told
apart exactly if no row is of both. -/
theorem toldApart_iff_not_both_match {column otherColumn : Column}
    (hSort : schema.sort = some column) (hOtherSort : other.sort = some otherColumn)
    (hName : schema.partition.attributeName = other.partition.attributeName)
    (hSortName : column.attributeName = otherColumn.attributeName)
    (hDiffer : column.attributeName ≠ schema.partition.attributeName) :
    ToldApart schema other ↔
      ∀ row, ¬ (schema.matchesRow row = true ∧ other.matchesRow row = true) := by
  constructor
  · exact fun hApart row => hApart.not_both_match hName
  · intro hNone
    by_contra hTogether
    have hLeads : ¬ Text.Diverge schema.partition.leadText other.partition.leadText :=
      fun hDiverge => hTogether (.byPartition hDiverge)
    have hSortLeads : ¬ Text.Diverge column.leadText otherColumn.leadText :=
      fun hDiverge => hTogether (.bySort hSort hOtherSort hSortName hDiverge)
    rw [Text.Diverge.iff_not_both, not_forall_not] at hLeads hSortLeads
    obtain ⟨text, hStarts, hOtherStarts⟩ := hLeads
    obtain ⟨sortText, hSortStarts, hOtherSortStarts⟩ := hSortLeads
    let row : Item := ((NameMap.empty.insert schema.partition.attributeName
      (.string text)).insert column.attributeName (.string sortText))
    have hRow : ∀ name, row.find? name =
        if column.attributeName = name then some (.string sortText)
        else if schema.partition.attributeName = name then some (.string text) else none := by
      intro name
      rw [NameMap.find?_insert, NameMap.find?_insert, NameMap.find?_empty]
    refine hNone row ⟨matchesRow_of_texts hSort hDiffer hStarts hSortStarts hRow, ?_⟩
    rw [hName, hSortName] at hRow hDiffer
    exact matchesRow_of_texts hOtherSort hDiffer hOtherStarts hOtherSortStarts hRow

namespace TellsApart

theorem of_perm {candidates : List Schema} (hTells : TellsApart partition schemas)
    (hPerm : candidates.Perm schemas) : TellsApart partition candidates where
  partition schema hMem := hTells.partition schema (hPerm.mem_iff.mp hMem)
  apart := (hPerm.pairwise_iff ToldApart.symm).mpr hTells.apart

theorem tail (hTells : TellsApart partition (schema :: schemas)) :
    TellsApart partition schemas where
  partition other hMem := hTells.partition other (List.mem_cons_of_mem _ hMem)
  apart := hTells.apart.of_cons

/-- A row of the first kind is of none of the others. -/
theorem countP_tail_eq_zero (hTells : TellsApart partition (schema :: schemas))
    (hMatches : schema.matchesRow row = true) : schemas.countP (·.matchesRow row) = 0 := by
  rw [List.countP_eq_zero]
  intro other hMem hOther
  have hApart := List.rel_of_pairwise_cons hTells.apart hMem
  refine hApart.not_both_match ?_ ⟨hMatches, hOther⟩
  rw [hTells.partition schema List.mem_cons_self,
    hTells.partition other (List.mem_cons_of_mem _ hMem)]

theorem countP_le_one (hTells : TellsApart partition schemas) (row : Item) :
    schemas.countP (·.matchesRow row) ≤ 1 := by
  induction schemas with
  | nil => exact Nat.zero_le 1
  | cons schema rest ih =>
    by_cases hMatches : schema.matchesRow row = true
    · have hNone := hTells.countP_tail_eq_zero hMatches
      rw [List.countP_cons, if_pos hMatches]
      omega
    · rw [List.countP_cons, if_neg hMatches]
      exact ih hTells.tail

theorem eq_of_matchesRow (hTells : TellsApart partition schemas) (hMem : schema ∈ schemas)
    (hOther : other ∈ schemas) (hMatches : schema.matchesRow row = true)
    (hOtherMatches : other.matchesRow row = true) : other = schema := by
  by_contra hNe
  have hApart := hTells.apart.forall hOther hMem hNe
  refine hApart.not_both_match ?_ ⟨hOtherMatches, hMatches⟩
  rw [hTells.partition other hOther, hTells.partition schema hMem]

/-- The kind that is found first is the one that the row is of. -/
theorem firstMatch?_eq_some_iff (hTells : TellsApart partition schemas) :
    firstMatch? schemas row = some schema ↔ schema ∈ schemas ∧ schema.matchesRow row = true := by
  constructor
  · intro hFirst
    exact ⟨List.mem_of_find?_eq_some hFirst, (List.find?_eq_some_iff_append.mp hFirst).1⟩
  · rintro ⟨hMem, hMatches⟩
    refine firstMatch?_eq_some_of_only hMem fun other hOther => ⟨?_, ?_⟩
    · exact hTells.eq_of_matchesRow hMem hOther hMatches
    · rintro rfl
      exact hMatches

end TellsApart

/-- Among kinds that are told apart by their keys a row is of at most one, and trying them
in any order finds the same one, or none. -/
theorem same_kind_found_in_any_order (hTells : TellsApart partition schemas) (row : Item) :
    schemas.countP (·.matchesRow row) ≤ 1 ∧
      ∀ candidates, candidates.Perm schemas →
        firstMatch? candidates row = firstMatch? schemas row := by
  refine ⟨hTells.countP_le_one row, fun candidates hPerm => ?_⟩
  ext schema
  rw [(hTells.of_perm hPerm).firstMatch?_eq_some_iff, hTells.firstMatch?_eq_some_iff,
    hPerm.mem_iff]

/-! Posts and votes of a thread, told apart by their sort texts, beside forums. -/

/-- A post of a thread. -/
def post : Schema where
  partition := .keyed "thread" .partition "thread:"
  sort := some (.keyed "post" .sort "post:")
  columns := [.plain "text" .string]

/-- A vote in a thread. -/
def vote : Schema where
  partition := .keyed "thread" .partition "thread:"
  sort := some (.keyed "voter" .sort "vote:")
  columns := [.plain "weight" .integer]

/-- A forum, without a sort column. -/
def forum : Schema where
  partition := .keyed "forum" .partition "forum:"
  sort := none
  columns := [.plain "title" .string]

/-- A row of a vote. -/
def ballot : Item :=
  .ofList [("pk", .string "thread:1"), ("sk", .string "vote:ada"), ("weight", .number "2")]

theorem tellsApart_thread : TellsApart "pk" [post, vote, forum] where
  partition := by
    intro schema hMem
    simp only [List.mem_cons, List.not_mem_nil, or_false] at hMem
    rcases hMem with rfl | rfl | rfl <;> rfl
  apart := by
    simp only [List.pairwise_cons, List.mem_cons, List.not_mem_nil, or_false,
      forall_eq_or_imp, forall_eq]
    exact ⟨⟨.bySort rfl rfl rfl (by decide), .byPartition (by decide)⟩,
      .byPartition (by decide), fun _ hFalse => hFalse.elim, .nil⟩

theorem same_kind_found_for_ballot :
    TellsApart "pk" [post, vote, forum] ∧
      ∀ candidates, candidates.Perm [post, vote, forum] →
        firstMatch? candidates ballot = some vote := by
  refine ⟨tellsApart_thread, fun candidates hPerm => ?_⟩
  rw [(same_kind_found_in_any_order tellsApart_thread ballot).2 candidates hPerm]
  rfl

end Schema

end SingleTable
