import SingleTable.Codec.Encode
import SingleTable.Proofs.Calendar.Chronology
import SingleTable.Proofs.Expression.PrintedCondition
import SingleTable.Proofs.Table.TextQuery

/-!
# Queries by time

Dates and times are stored as texts that compare like the seconds that they show, as long
as the year has four digits.  A key condition against a stored date and time therefore
selects the rows before it, after it or in its second, and a range selects the rows
between two of them (`stored_instants_in_order`).  Fractions of a second are not stored,
so they do not count.
-/

namespace SingleTable

open Outcome

/-- What is stored for an instant as a date and time. -/
theorem Codec.encodeAs_instant (t : Instant) :
    encodeAs (.instant t) .datetime = .ok (some (.string t.text)) := rfl

/-- The cell is what is stored for an instant as a date and time, in a year of four
digits. -/
structure Cell.Dates (cell : Cell) (t : Instant) : Prop where
  stored : Codec.encodeAs (.instant t) .datetime = .ok (some cell)
  year : t.HasPlainYear

theorem Cell.Dates.eq_string {cell : Cell} {t : Instant} (hDates : cell.Dates t) :
    cell = .string t.text := by
  have hSame := hDates.stored.symm.trans (Codec.encodeAs_instant t)
  cases hSame
  rfl

/-- The attribute of a row dates an instant, or is missing where there is none. -/
def Item.Dated (row : Item) (target : String) : Option Instant → Prop
  | some t => ∃ cell, row.find? target = some cell ∧ cell.Dates t
  | none => row.find? target = none

namespace Condition

variable {bindings : Bindings} {condition : Condition} {target : String}

/-- What a sign asks of two instants: it compares the seconds that they lie in. -/
def Comparator.chronological (comparator : Comparator) (t u : Instant) : Bool :=
  match comparator with
  | .equal => decide (t.secondStart = u.secondStart)
  | .less => t.secondStart.before u.secondStart
  | .atMost => !u.secondStart.before t.secondStart
  | .greater => u.secondStart.before t.secondStart
  | .atLeast => !t.secondStart.before u.secondStart

/-- An instant lies between two others, or in the same second as one of them. -/
def liesBetween (low high t : Instant) : Bool :=
  Comparator.atLeast.chronological t low && Comparator.atMost.chronological t high

/-- Signs compare texts of instants as they compare instants. -/
theorem compares_text (comparator : Comparator) {t u : Instant} (hYear : t.HasPlainYear)
    (hOther : u.HasPlainYear) :
    compares comparator.operator t.text u.text = comparator.chronological t u := by
  rw [Bool.eq_iff_iff]
  cases comparator with
  | equal => simp [compares, Comparator.operator, Comparator.chronological,
      Instant.text_eq_iff hYear hOther]
  | less => simp [compares, Comparator.operator, Comparator.chronological,
      Instant.text_lt_iff hYear hOther]
  | atMost => simp [compares, Comparator.operator, Comparator.chronological,
      Instant.text_le_iff hYear hOther]
  | greater => simp [compares, Comparator.operator, Comparator.chronological,
      Instant.text_lt_iff hOther hYear]
  | atLeast => simp [compares, Comparator.operator, Comparator.chronological,
      Instant.text_le_iff hOther hYear]

theorem admits_single {reference : String} {cell : Cell} {t u : Instant}
    (comparator : Comparator) (name : String) (hYear : t.HasPlainYear)
    (hValue : bindings.values.find? reference = some cell) (hCell : cell.Dates u) :
    admits ⟨comparator.operator, name, .single reference⟩ bindings t.text =
      .ok (comparator.chronological t u) := by
  rw [hCell.eq_string] at hValue
  unfold admits
  simp only
  rw [bind_ok (Bindings.valueText_of_find? hValue), compares_text comparator hYear hCell.year]
  rfl

theorem admits_range {lowReference highReference : String} {lowCell highCell : Cell}
    {t low high : Instant} (name : String) (hYear : t.HasPlainYear)
    (hLow : bindings.values.find? lowReference = some lowCell) (hLowCell : lowCell.Dates low)
    (hHigh : bindings.values.find? highReference = some highCell)
    (hHighCell : highCell.Dates high) :
    admits ⟨.between, name, .range lowReference highReference⟩ bindings t.text =
      .ok (liesBetween low high t) := by
  have hAbove := compares_text .atLeast hYear hLowCell.year
  have hBelow := compares_text .atMost hYear hHighCell.year
  rw [hLowCell.eq_string] at hLow
  rw [hHighCell.eq_string] at hHigh
  unfold admits liesBetween
  simp only [if_true]
  rw [bind_ok (Bindings.valueText_of_find? hLow), bind_ok (Bindings.valueText_of_find? hHigh),
    ← hAbove, ← hBelow]
  rfl

/-- A condition holds of a row as it admits the instant of the row; a row without one is
turned away. -/
theorem holds_of_dated {row : Item} {moment : Option Instant} {test : Instant → Bool}
    (hRow : row.Dated target moment) (hName : bindings.name condition.name = .ok target)
    (hAdmits : ∀ t : Instant, t.HasPlainYear → condition.admits bindings t.text = .ok (test t)) :
    condition.holds bindings row = .ok (moment.any test) := by
  unfold holds
  rw [bind_ok hName]
  cases moment with
  | none =>
    have hMissing : row.find? target = none := hRow
    simp only [hMissing]
    rfl
  | some t =>
    obtain ⟨cell, hCell, hDates⟩ := hRow
    rw [hDates.eq_string] at hCell
    simp only [hCell, Cell.text?]
    exact hAdmits t hDates.year

end Condition

namespace Table

variable {table : Table} {view : Option View} {bindings : Bindings} {target : String}
  {moment : Item → Option Instant} {condition : Condition} {expression : String}

/-- A query by a condition on instants selects the rows whose instants it admits. -/
theorem query_of_dated {test : Instant → Bool}
    (hRows : ∀ row ∈ table.items.filter (table.inView view), row.Dated target (moment row))
    (hRead : Condition.ofText expression = .ok [condition])
    (hName : bindings.name condition.name = .ok target)
    (hAdmits : ∀ t : Instant, t.HasPlainYear → condition.admits bindings t.text = .ok (test t)) :
    table.query view expression bindings =
      .ok ((table.items.filter (table.inView view)).filter fun row => (moment row).any test) := by
  have hDecided : ∀ row ∈ table.items.filter (table.inView view),
      Condition.allHold [condition] bindings row = .ok ((moment row).any test) := by
    intro row hMem
    have hHolds := Condition.holds_of_dated (hRows row hMem) hName hAdmits
    simp only [Condition.allHold, hHolds]
    cases (moment row).any test <;> rfl
  unfold query
  rw [bind_ok hRead]
  exact select_eq_filter hDecided

/-- Stored dates and times of years of four digits are texts in the order of the instants,
and equal only for instants in one second.  Hence a key condition on them, with a sign or
with a range, selects exactly the rows whose instants lie where it says, by whole seconds. -/
theorem stored_instants_in_order :
    (∀ t u : Instant, t.HasPlainYear → u.HasPlainYear → ∃ text other : String,
      Codec.encodeAs (.instant t) .datetime = .ok (some (.string text)) ∧
      Codec.encodeAs (.instant u) .datetime = .ok (some (.string other)) ∧
      (u.before t = false → text ≤ other) ∧
      (text = other → t.secondStart = u.secondStart)) ∧
    ∀ (table : Table) (view : Option View) (target : String) (moment : Item → Option Instant),
      (∀ row ∈ table.items.filter (table.inView view), row.Dated target (moment row)) →
      ∀ (bindings : Bindings) (expression name : String), bindings.name name = .ok target →
        (∀ (comparator : Condition.Comparator) (reference : String) (cell : Cell) (u : Instant),
          Condition.ofText expression = .ok [⟨comparator.operator, name, .single reference⟩] →
          bindings.values.find? reference = some cell → cell.Dates u →
          table.query view expression bindings =
            .ok ((table.items.filter (table.inView view)).filter fun row =>
              (moment row).any (comparator.chronological · u))) ∧
        (∀ (lowReference highReference : String) (lowCell highCell : Cell) (low high : Instant),
          Condition.ofText expression =
            .ok [⟨.between, name, .range lowReference highReference⟩] →
          bindings.values.find? lowReference = some lowCell → lowCell.Dates low →
          bindings.values.find? highReference = some highCell → highCell.Dates high →
          table.query view expression bindings =
            .ok ((table.items.filter (table.inView view)).filter fun row =>
              (moment row).any (Condition.liesBetween low high))) := by
  constructor
  · intro t u hYear hOther
    exact ⟨t.text, u.text, Codec.encodeAs_instant t, Codec.encodeAs_instant u,
      Instant.text_le_of_not_before hYear hOther, (Instant.text_eq_iff hYear hOther).mp⟩
  · intro table view target moment hRows bindings expression name hName
    constructor
    · intro comparator reference cell u hRead hValue hCell
      exact query_of_dated hRows hRead hName fun t hYear =>
        Condition.admits_single comparator name hYear hValue hCell
    · intro lowReference highReference lowCell highCell low high hRead hLow hLowCell hHigh hHighCell
      exact query_of_dated hRows hRead hName fun t hYear =>
        Condition.admits_range name hYear hLow hLowCell hHigh hHighCell

/-- Half a second into the leap second at the end of 2005. -/
def leapSecond : Instant := ⟨1136073599, 1500000000, by decide, by decide⟩

/-- A quarter of a second into 2006. -/
def newYear : Instant := ⟨1136073600, 250000000, by decide, by decide⟩

/-- A row of the leap second. -/
def leapRow : Item :=
  .ofList [("pk", .string "log"), ("sk", .string "a"), ("at", .string "2005-12-31T23:59:60Z")]

/-- A row of the first second of the new year. -/
def newYearRow : Item :=
  .ofList [("pk", .string "log"), ("sk", .string "b"), ("at", .string "2006-01-01T00:00:00Z")]

/-- A row without a date. -/
def datelessRow : Item :=
  .ofList [("pk", .string "log"), ("sk", .string "c")]

/-- The leap second is found before the new year, and the row without a date is not. -/
theorem stored_instants_in_order_of_new_year :
    let table := (empty {}).run [.addRow leapRow, .addRow newYearRow, .addRow datelessRow]
    let bindings : Bindings :=
      ⟨.ofList [("#t", "at")], .ofList [(":u", .string "2006-01-01T00:00:00Z")]⟩
    (leapSecond.HasPlainYear ∧ newYear.HasPlainYear ∧ newYear.before leapSecond = false) ∧
      leapSecond.text ≤ newYear.text ∧ table.items = [leapRow, newYearRow, datelessRow] ∧
      table.query none "#t < :u" bindings = .ok [leapRow] ∧
      table.query none "#t BETWEEN :u AND :u" bindings = .ok [newYearRow] := by
  intro table bindings
  have hLeapYear : leapSecond.HasPlainYear := ⟨by decide, by decide⟩
  have hNewYear : newYear.HasPlainYear := ⟨by decide, by decide⟩
  have hItems : table.items = [leapRow, newYearRow, datelessRow] := rfl
  let moment (row : Item) : Option Instant :=
    if row = leapRow then some leapSecond else if row = newYearRow then some newYear else none
  have hRows : ∀ row ∈ table.items.filter (table.inView none), row.Dated "at" (moment row) := by
    intro row hMem
    have hStored : row ∈ [leapRow, newYearRow, datelessRow] := hItems ▸ (List.mem_filter.mp hMem).1
    simp only [List.mem_cons, List.not_mem_nil, or_false] at hStored
    rcases hStored with rfl | rfl | rfl
    · exact ⟨_, rfl, by decide, hLeapYear⟩
    · exact ⟨_, rfl, by decide, hNewYear⟩
    · rfl
  have hDates : (Cell.string "2006-01-01T00:00:00Z").Dates newYear := ⟨rfl, hNewYear⟩
  obtain ⟨hTexts, hQueries⟩ := stored_instants_in_order
  obtain ⟨text, other, hText, hOther, hOrder, -⟩ := hTexts leapSecond newYear hLeapYear hNewYear
  refine ⟨⟨hLeapYear, hNewYear, rfl⟩, ?_, hItems, ?_, ?_⟩
  · cases (Codec.encodeAs_instant leapSecond).symm.trans hText
    cases (Codec.encodeAs_instant newYear).symm.trans hOther
    exact hOrder rfl
  · obtain ⟨hSigns, -⟩ := hQueries table none "at" moment hRows bindings "#t < :u" "#t" rfl
    exact hSigns .less ":u" _ newYear rfl rfl hDates
  · obtain ⟨-, hRanges⟩ :=
      hQueries table none "at" moment hRows bindings "#t BETWEEN :u AND :u" "#t" rfl
    exact hRanges ":u" ":u" _ _ newYear newYear rfl rfl hDates rfl hDates

end Table

end SingleTable
