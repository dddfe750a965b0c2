import SingleTable.Proofs.Table.Keyed
import SingleTable.Proofs.Table.Unresolved

/-!
# Pages of a query

A query answers with an empty page and a page of matches.  The matches are picked from the
rows without moving any, so they come in the order of the scan, which is that of the primary
keys, and a limit cuts the list of the matches and not that of the rows.
-/

namespace SingleTable

open Outcome

/-- The count of a page is the number of its items, in 64 bits. -/
def Page.Counted (page : Page) : Prop :=
  page.count.toNat = page.items.length % UInt64.size

theorem Page.counted_ofItems (items : List Item) : (Page.ofItems items).Counted := rfl

namespace Table

variable {table : Table} {request : ReadRequest} {view : Option View} {expression : String}
  {bindings : Bindings} {rows found : List Item} {row : Item}

/-- A row matches a query if it is part of the view and all conditions hold of it. -/
def Matches (table : Table) (view : Option View) (expression : String) (bindings : Bindings)
    (row : Item) : Prop :=
  row ∈ table.items ∧ table.inView view row = true ∧
    ∃ conditions, Condition.ofText expression = .ok conditions ∧
      Condition.allHold conditions bindings row = .ok true

section Selection

variable {conditions : List Condition}

/-- A selection moves no row. -/
theorem sublist_of_select (hSelect : select conditions bindings rows = .ok found) :
    found.Sublist rows := by
  induction rows generalizing found with
  | nil =>
    cases hSelect
    exact List.Sublist.refl []
  | cons row rest ih =>
    obtain ⟨holds, -, selected, hRest, rfl⟩ := select_cons_eq_ok_iff.mp hSelect
    cases holds with
    | true => exact (ih hRest).cons_cons row
    | false => exact (ih hRest).cons row

/-- A selection holds just the rows of which all conditions hold. -/
theorem mem_of_select (hSelect : select conditions bindings rows = .ok found) :
    row ∈ found ↔ row ∈ rows ∧ Condition.allHold conditions bindings row = .ok true := by
  induction rows generalizing found with
  | nil =>
    cases hSelect
    simp
  | cons head rest ih =>
    obtain ⟨holds, hHead, selected, hRest, rfl⟩ := select_cons_eq_ok_iff.mp hSelect
    rw [List.mem_cons, or_and_right, ← ih hRest]
    cases holds with
    | true =>
      have hSame : row = head → Condition.allHold conditions bindings row = .ok true := by
        rintro rfl
        exact hHead
      rw [if_pos rfl, List.mem_cons, and_iff_left_of_imp hSame]
    | false =>
      have hOther : ¬(row = head ∧ Condition.allHold conditions bindings row = .ok true) := by
        rintro ⟨rfl, hHolds⟩
        rw [hHead] at hHolds
        cases hHolds
      simp [hOther]

/-- Without conditions every row is selected. -/
theorem select_nil (bindings : Bindings) (rows : List Item) :
    select [] bindings rows = .ok rows := by
  have hEvery : ∀ row ∈ rows, Condition.allHold [] bindings row = .ok true := fun _ _ => rfl
  rw [select_eq_filter hEvery]
  simp

end Selection

/-- The rows that a query gives are the matches, in the order of the scan. -/
theorem matches_of_query (hQuery : table.query view expression bindings = .ok rows) :
    rows.Sublist table.items ∧ ∀ row, row ∈ rows ↔ table.Matches view expression bindings row := by
  obtain ⟨conditions, hConditions, hSelect⟩ := bind_eq_ok_iff.mp hQuery
  refine ⟨(sublist_of_select hSelect).trans List.filter_sublist, fun row => ?_⟩
  rw [mem_of_select hSelect, List.mem_filter, and_assoc]
  refine and_congr_right fun _ => and_congr_right fun _ =>
    ⟨fun hHolds => ⟨_, hConditions, hHolds⟩, ?_⟩
  rintro ⟨_, hSame, hHolds⟩
  rw [hConditions, Except.ok.injEq] at hSame
  rwa [hSame]

/-- Without a view and conditions a query gives every row. -/
theorem query_none_empty (table : Table) (bindings : Bindings) :
    table.query none "" bindings = .ok table.items := by
  have hConditions : Condition.ofText "" = .ok [] := rfl
  have hEvery : table.items.filter (table.inView none) = table.items := by simp [inView]
  unfold query
  rw [bind_ok hConditions, hEvery, select_nil]

/-- Rows in the order of the scan are in strictly ascending order of their primary keys. -/
theorem Keyed.exists_keys_of_sublist (hKeyed : table.Keyed) (hRows : rows.Sublist table.items) :
    ∃ keys : List Key, rows.map table.primaryKey = keys.map .ok ∧ keys.Pairwise Key.Precedes := by
  obtain ⟨entries, hEntries, rfl⟩ := List.sublist_map_iff.mp hRows
  refine ⟨entries.map Prod.fst, ?_, ?_⟩
  · rw [List.map_map, List.map_map]
    refine List.map_congr_left fun entry hMem => ?_
    exact hKeyed.filed entry.1 entry.2 (hEntries.subset hMem)
  · rw [List.pairwise_map]
    exact hKeyed.pairwise_precedes.sublist hEntries

/-- No row is listed twice. -/
theorem Keyed.nodup_of_sublist (hKeyed : table.Keyed) (hRows : rows.Sublist table.items) :
    rows.Nodup := by
  refine (hKeyed.pairwise_primaryKey_ne.sublist hRows).imp ?_
  rintro row other hDiffer rfl
  exact hDiffer rfl

section Limits

variable {limit : Int32}

/-- No limit, or zero. -/
def Unlimited (limit : Option Int32) : Prop :=
  limit = none ∨ limit = some 0

theorem limitOf_of_unlimited (hLimit : Unlimited request.limit) : limitOf request = .ok none := by
  unfold limitOf
  rcases hLimit with hNone | hZero
  · rw [hNone]
  · rw [hZero]
    rfl

theorem limitOf_of_pos (hPos : 0 < limit) (hLimit : request.limit = some limit) :
    limitOf request = .ok (some limit.toInt.toNat) := by
  have hBound : 0 < limit.toInt := Int32.lt_iff_toInt_lt.mp hPos
  have hZero : limit ≠ 0 := by
    rintro rfl
    exact absurd hBound (by decide)
  have hNegative : ¬limit < 0 := by
    rw [Int32.lt_iff_toInt_lt]
    exact Int.not_lt.mpr (Int.le_of_lt hBound)
  unfold limitOf
  simp only [hLimit]
  rw [if_neg hZero, if_neg hNegative]

/-- A negative limit is refused, whatever else the request says. -/
theorem exists_queryPages_eq_error (table : Table) (hNegative : limit < 0)
    (hLimit : request.limit = some limit) :
    ∃ error, table.queryPages request = .error error ∧ error.code = .validation := by
  have hRefused : limitOf request = .error (.ofFault (.limitTooSmall limit)) := by
    have hZero : limit ≠ 0 := by
      rintro rfl
      exact absurd hNegative (by decide)
    unfold limitOf
    simp only [hLimit]
    rw [if_neg hZero, if_pos hNegative]
  unfold queryPages
  cases hView : viewOf request with
  | error error =>
    refine ⟨error, rfl, ?_⟩
    unfold viewOf at hView
    split at hView
    · cases hView
    · split at hView
      · cases hView
      · cases hView
        rfl
  | ok view =>
    rw [hRefused]
    exact ⟨_, rfl, rfl⟩

end Limits

/-- The pages of a query that can be evaluated. -/
theorem queryPages_of_query {limit : Option Nat} (hView : viewOf request = .ok view)
    (hLimit : limitOf request = .ok limit)
    (hQuery : table.query view (request.condition.getD "") request.bindings = .ok rows) :
    table.queryPages request = .ok [.ofItems [], .ofItems (takeUpTo limit rows)] := by
  unfold queryPages
  rw [bind_ok hView, bind_ok hLimit, hQuery]
  rfl

theorem counted_of_queryPages {pages : List Page} (hPages : table.queryPages request = .ok pages) :
    ∀ page ∈ pages, page.Counted := by
  unfold queryPages at hPages
  obtain ⟨view, -, hPages⟩ := bind_eq_ok_iff.mp hPages
  obtain ⟨limit, -, hPages⟩ := bind_eq_ok_iff.mp hPages
  obtain ⟨rows, -, hPages⟩ := bind_eq_ok_iff.mp hPages
  cases hPages
  intro page hMem
  simp only [List.mem_cons, List.not_mem_nil, or_false] at hMem
  rcases hMem with rfl | rfl
  · exact Page.counted_ofItems _
  · exact Page.counted_ofItems _

/-- Paging loses and reorders nothing.  After every history, for every view or none and every
key condition that can be evaluated on the table: the matches are rows of the scan in its
order, which is the strictly ascending order of their primary keys, and none is listed twice;
without a limit, or with the limit zero, the answer is an empty page and a page of all matches;
with a limit of `n` the pages hold the first `n` matches, so a larger limit only adds to the
end.  The count of each page is the number of its items.  Without a view and a key condition
the pages hold what the scan holds.  A negative limit is refused on every table. -/
theorem pages_hold_first_matches (layout : Layout) (writes : List Write) (request : ReadRequest) :
    let table := (empty layout).run writes
    let pages (limit : Option Int32) := table.queryPages { request with limit }
    (∀ view rows, viewOf request = .ok view →
      table.query view (request.condition.getD "") request.bindings = .ok rows →
      (rows.Sublist table.items ∧
        (∀ row, row ∈ rows ↔
          table.Matches view (request.condition.getD "") request.bindings row) ∧
        (∃ keys : List Key, rows.map table.primaryKey = keys.map .ok ∧
          keys.Pairwise Key.Precedes) ∧
        rows.Nodup) ∧
      (∀ limit, Unlimited limit → ∃ first second, pages limit = .ok [first, second] ∧
        first.items = [] ∧ second.items = rows) ∧
      (∀ limit : Int32, 0 < limit → ∃ given, pages (some limit) = .ok given ∧
        given.flatMap Page.items = rows.take limit.toInt.toNat) ∧
      ∀ smaller larger : Int32, 0 < smaller → smaller ≤ larger →
        ∃ few many, pages (some smaller) = .ok few ∧ pages (some larger) = .ok many ∧
          few.flatMap Page.items <+: many.flatMap Page.items) ∧
    (∀ limit given, pages limit = .ok given → ∀ page ∈ given, page.Counted) ∧
    (request.view = none → request.condition = none → ∀ limit, Unlimited limit →
      ∃ given, pages limit = .ok given ∧
        given.flatMap Page.items = table.scanPages.flatMap Page.items) ∧
    ∀ (other : Table) (limit : Int32), limit < 0 →
      ∃ error, other.queryPages { request with limit := some limit } = .error error ∧
        error.code = .validation := by
  intro table pages
  have hKeyed : table.Keyed := keyed_run layout writes
  refine ⟨fun view rows hView hQuery => ?_, fun limit given => counted_of_queryPages,
    fun hNoView hNoCondition limit hLimit => ?_,
    fun other limit hNegative => other.exists_queryPages_eq_error hNegative rfl⟩
  · obtain ⟨hRows, hMatches⟩ := matches_of_query hQuery
    have hSame : ∀ limit, viewOf { request with limit } = .ok view := fun _ => hView
    have hFirst : ∀ limit : Int32, 0 < limit →
        pages (some limit) = .ok [.ofItems [], .ofItems (rows.take limit.toInt.toNat)] :=
      fun limit hPos => queryPages_of_query (hSame _) (limitOf_of_pos hPos rfl) hQuery
    refine ⟨⟨hRows, hMatches, hKeyed.exists_keys_of_sublist hRows, hKeyed.nodup_of_sublist hRows⟩,
      fun limit hLimit => ?_, fun limit hPos => ⟨_, hFirst limit hPos, by simp [Page.ofItems]⟩,
      fun smaller larger hPos hLe => ?_⟩
    · exact ⟨_, _, queryPages_of_query (hSame limit) (limitOf_of_unlimited hLimit) hQuery, rfl, rfl⟩
    · have hNumbers : smaller.toInt ≤ larger.toInt := Int32.le_iff_toInt_le.mp hLe
      have hLarger : 0 < larger := by
        rw [Int32.lt_iff_toInt_lt] at hPos ⊢
        exact Int.lt_of_lt_of_le hPos hNumbers
      refine ⟨_, _, hFirst smaller hPos, hFirst larger hLarger, ?_⟩
      simp only [Page.ofItems, List.flatMap_cons, List.flatMap_nil, List.nil_append,
        List.append_nil]
      exact List.take_prefix_take_left (Int.toNat_le_toNat hNumbers)
  · have hView : viewOf { request with limit } = .ok none := by
      unfold viewOf
      simp only [hNoView]
    have hQuery : table.query none (request.condition.getD "") request.bindings =
        .ok table.items := by
      rw [hNoCondition]
      exact table.query_none_empty request.bindings
    exact ⟨_, queryPages_of_query hView (limitOf_of_unlimited hLimit) hQuery, rfl⟩

/-- Of the sort texts from `b` on, the first one in key order fits on a page of one row. -/
theorem pages_hold_first_matches_of_one_row :
    let row (sort : String) : Item := .ofList [("pk", .string "user"), ("sk", .string sort)]
    let table : Table := (empty {}).run [.addRow (row "d"), .addRow (row "a"), .addRow (row "b")]
    let request : ReadRequest := ⟨"NA", some "inverted", some "#s >= :s",
      ⟨.ofList [("#s", "sk")], .ofList [(":s", .string "b")]⟩, none⟩
    (viewOf request = .ok (some (.named "inverted" .sort .partition)) ∧
      table.query (some (.named "inverted" .sort .partition)) "#s >= :s" request.bindings =
        .ok [row "b", row "d"]) ∧
      ∃ given, table.queryPages { request with limit := some 1 } = .ok given ∧
        given.flatMap Page.items = [row "b"] := by
  intro row table request
  have hView : viewOf request = .ok (some (.named "inverted" .sort .partition)) := rfl
  have hQuery : table.query (some (.named "inverted" .sort .partition)) "#s >= :s"
      request.bindings = .ok [row "b", row "d"] := rfl
  obtain ⟨hMatches, -⟩ := pages_hold_first_matches {}
    [.addRow (row "d"), .addRow (row "a"), .addRow (row "b")] request
  obtain ⟨-, -, hFirst, -⟩ := hMatches _ _ hView hQuery
  exact ⟨⟨hView, hQuery⟩, hFirst 1 (by decide)⟩

end Table

end SingleTable
