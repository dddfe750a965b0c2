import SingleTable.Proofs.Codec.Children
import SingleTable.Proofs.Codec.FreeForm

/-!
# Cells that can be read

Whatever a column writes for a value, it also writes for a value of the kind that it
declares, and so it can read it, with one exception.  A timestamp column takes any number
and writes its whole part as seconds, also where no instant has as many: the calendar ends
long before 64 bits do.  Such a cell is refused as an invalid date, and with it the map
that holds it.
-/

namespace SingleTable

open Outcome Codec Calendar

/-- The whole number as which the value is stored where whole numbers are.  Fractions are
cut off, and a string is read as a float first. -/
def Value.wholePart? : Value → Option Int64
  | .integer n => some n
  | .float x => (finite x).toOption.map Double.truncate
  | .bool value => some (if value then 1 else 0)
  | .string text => (readFloat text).toOption.map Double.truncate
  | _ => none

/-- No instant has as many seconds. -/
def Calendar.BeyondCalendar (seconds : Int64) : Prop :=
  seconds.toInt < minSecond ∨ maxSecond < seconds.toInt

/-- A timestamp column, or one among the children at any depth, writes a number of seconds
that no instant has. -/
inductive Column.WritesBeyond : Column → Value → Prop where
  | seconds {column : Column} {value : Value} {n : Int64} (hChildren : column.children = [])
    (hType : column.type = .timestamp) (hWhole : value.wholePart? = some n)
    (hBeyond : BeyondCalendar n) : column.WritesBeyond value
  | entry {column child : Column} {entries : List (String × Value)} {value : Value}
    (hChild : child ∈ column.children) (hEntry : Entries.find? child.name entries = some value)
    (hValue : child.WritesBeyond value) : column.WritesBeyond (.map entries)

namespace Codec

variable {type : ColumnType} {value : Value} {cell : Cell} {text : String}

theorem toOption_eq_some_of_ok {α : Type} {result : Result α} {a : α} (hResult : result = .ok a) :
    result.toOption = some a := by
  rw [hResult]
  rfl

/-- What is written for a whole number is the text of the value's whole part. -/
theorem wholePart?_of_integerText (hText : integerText type value = .ok text) :
    ∃ n, value.wholePart? = some n ∧ text = int64Text n := by
  cases value with
  | integer n =>
    cases hText
    exact ⟨n, rfl, rfl⟩
  | float x =>
    simp only [integerText, bind_eq_ok_iff, pure_eq_ok_iff] at hText
    obtain ⟨y, hFinite, rfl⟩ := hText
    exact ⟨y.truncate, by simp [Value.wholePart?, toOption_eq_some_of_ok hFinite], rfl⟩
  | bool b =>
    cases hText
    cases b
    · exact ⟨0, rfl, by decide⟩
    · exact ⟨1, rfl, by decide⟩
  | string content =>
    simp only [integerText, bind_eq_ok_iff, pure_eq_ok_iff] at hText
    obtain ⟨y, hRead, rfl⟩ := hText
    exact ⟨y.truncate, by simp [Value.wholePart?, toOption_eq_some_of_ok hRead], rfl⟩
  | _ => cases hText

theorem isFinite_of_readFloat {x : Double} (hRead : readFloat text = .ok x) :
    x.isFinite = true := by
  unfold readFloat orError at hRead
  split at hRead
  · next y hText =>
    cases hRead
    exact (Option.filter_eq_some_iff.mp hText).2
  · cases hRead

/-- What is written for a float is the text of a finite one. -/
theorem finite_of_floatText (hText : floatText type value = .ok text) :
    ∃ x : Double, x.isFinite = true ∧ text = x.text := by
  cases value with
  | float x =>
    simp only [floatText, bind_eq_ok_iff, pure_eq_ok_iff] at hText
    obtain ⟨y, hFinite, rfl⟩ := hText
    unfold finite at hFinite
    split at hFinite
    · next hX =>
      cases hFinite
      exact ⟨x, hX, rfl⟩
    · cases hFinite
  | integer n =>
    simp only [floatText, Except.ok.injEq] at hText
    exact ⟨_, Double.isFinite_ofInt n, hText.symm⟩
  | string content =>
    simp only [floatText, bind_eq_ok_iff, pure_eq_ok_iff] at hText
    obtain ⟨y, hRead, rfl⟩ := hText
    exact ⟨y, isFinite_of_readFloat hRead, rfl⟩
  | _ => cases hText

/-- The instant without the fraction of its second, a leap second being kept. -/
def wholeSecond (t : Instant) : Instant :=
  ⟨t.seconds, t.nanos / nanosPerSecond * nanosPerSecond, t.range, by
    have hFit := t.nanos_fit
    unfold NanosFit nanosPerSecond at *
    omega⟩

theorem text_wholeSecond (t : Instant) : (wholeSecond t).text = t.text := by
  have hShown : (wholeSecond t).shownSecond = t.shownSecond := by
    have hFit := t.nanos_fit
    unfold NanosFit at hFit
    unfold Instant.shownSecond wholeSecond Instant.second nanosPerSecond at *
    simp only
    split <;> split <;> omega
  unfold Instant.text Instant.clockText
  rw [hShown]
  rfl

/-- The date of an instant. -/
def dateOf (t : Instant) : Date :=
  ⟨t.year, t.month, t.day, t.year_range, t.civilDay.month_range, t.civilDay.day_range⟩

/-- The texts of a set of whole numbers are those of integers. -/
theorem exists_integers_of_mapM {values : List Value} {texts : List String}
    (hTexts : values.mapM (integerText type) = .ok texts) :
    ∃ ns : List Int64, texts = ns.map int64Text := by
  obtain ⟨ns, _, hSame⟩ := exists_map_of_mapM hTexts fun value text hText => by
    obtain ⟨n, _, hSame⟩ := wholePart?_of_integerText hText
    exact ⟨n, trivial, hSame⟩
  exact ⟨ns, hSame⟩

/-- What a type other than that of timestamps writes for any value, it writes for a value
of its own kind. -/
theorem exists_ofType_of_encodeFlat (hCell : encodeFlat value type = .ok cell)
    (hFilled : value.isNull = false) (hType : type ≠ .timestamp) :
    ∃ typed : Value, typed.OfType type ∧ encodeFlat typed type = .ok cell := by
  cases type with
  | timestamp => exact absurd rfl hType
  | boolean =>
    cases hCell
    exact ⟨_, .boolean value.truthy, rfl⟩
  | datetime =>
    have hText : ∃ t : Instant, cell = .string t.text := by
      cases value with
      | instant t =>
        cases hCell
        exact ⟨t, rfl⟩
      | string text =>
        simp only [encodeFlat, bind_eq_ok_iff, pure_eq_ok_iff] at hCell
        obtain ⟨t, _, rfl⟩ := hCell
        exact ⟨t, rfl⟩
      | _ => cases hCell
    obtain ⟨t, rfl⟩ := hText
    refine ⟨.instant (wholeSecond t), .datetime (Nat.mul_mod_left _ _), ?_⟩
    rw [encodeFlat, text_wholeSecond]
  | date =>
    cases value with
    | date day => exact ⟨.date day, .date day, hCell⟩
    | instant t =>
      cases hCell
      exact ⟨.date (dateOf t), .date (dateOf t), rfl⟩
    | _ => cases hCell
  | float =>
    simp only [encodeFlat, map_eq_ok_iff] at hCell
    obtain ⟨text, hText, rfl⟩ := hCell
    obtain ⟨x, hFinite, rfl⟩ := finite_of_floatText hText
    refine ⟨.float x, .float hFinite, ?_⟩
    rw [encodeFlat, floatText_finite hFinite]
    rfl
  | integer =>
    simp only [encodeFlat, map_eq_ok_iff] at hCell
    obtain ⟨text, hText, rfl⟩ := hCell
    obtain ⟨n, _, rfl⟩ := wholePart?_of_integerText hText
    exact ⟨.integer n, .integer n, rfl⟩
  | bytes =>
    simp only [encodeFlat, map_eq_ok_iff] at hCell
    obtain ⟨content, _, rfl⟩ := hCell
    exact ⟨.bytes content, .bytes content, rfl⟩
  | string =>
    simp only [encodeFlat, map_eq_ok_iff] at hCell
    obtain ⟨text, hText, rfl⟩ := hCell
    exact ⟨.string text, .string (plainText_ne_empty hText hFilled), rfl⟩
  | stringSet =>
    simp only [encodeFlat, bind_eq_ok_iff, pure_eq_ok_iff] at hCell
    obtain ⟨_, _, texts, _, rfl⟩ := hCell
    exact ⟨.stringSet texts, .stringSet texts, encodeFlat_stringSet texts⟩
  | integerSet =>
    simp only [encodeFlat, bind_eq_ok_iff, pure_eq_ok_iff] at hCell
    obtain ⟨_, _, texts, hTexts, rfl⟩ := hCell
    obtain ⟨ns, rfl⟩ := exists_integers_of_mapM hTexts
    exact ⟨.integerSet ns, .integerSet ns, encodeFlat_integerSet ns⟩
  | floatSet =>
    simp only [encodeFlat, bind_eq_ok_iff, pure_eq_ok_iff] at hCell
    obtain ⟨_, _, texts, hTexts, rfl⟩ := hCell
    obtain ⟨xs, hFinite, rfl⟩ := exists_map_of_mapM hTexts fun _ _ => finite_of_floatText
    exact ⟨.floatSet xs, .floatSet hFinite, encodeFlat_floatSet hFinite⟩
  | binarySet =>
    simp only [encodeFlat, bind_eq_ok_iff, pure_eq_ok_iff] at hCell
    obtain ⟨_, _, all, _, rfl⟩ := hCell
    exact ⟨.binarySet all, .binarySet all, encodeFlat_binarySet all⟩
  | list | map => cases hCell

/-- A flat cell is read if its column does not hold timestamps. -/
theorem exists_decodeFlat (hCell : encodeFlat value type = .ok cell)
    (hFilled : value.isNull = false) (hType : type ≠ .timestamp) :
    ∃ read, decodeFlat cell type = .ok read := by
  obtain ⟨typed, hTyped, hSame⟩ := exists_ofType_of_encodeFlat hCell hFilled hType
  obtain ⟨other, hOther, hRead⟩ := decodeFlat_of_encodeFlat hTyped
  rw [hSame, Except.ok.injEq] at hOther
  exact ⟨typed, hOther ▸ hRead⟩

/-- What can become of reading, where `Beyond` says that a number of seconds is in the way. -/
inductive Reading {α : Type} (Beyond : Prop) : Result α → Prop where
  | read (hWithin : ¬Beyond) (a : α) : Reading Beyond (.ok a)
  | refused (hBeyond : Beyond) (text : String) : Reading Beyond (.error (.invalidDate text))

theorem reading_of_exists {α : Type} {Beyond : Prop} {result : Result α} (hWithin : ¬Beyond)
    (hRead : ∃ a, result = .ok a) : Reading Beyond result := by
  obtain ⟨a, rfl⟩ := hRead
  exact .read hWithin a

theorem Reading.map {α β : Type} {Beyond : Prop} {result : Result α}
    (hReading : Reading Beyond result) (change : α → β) : Reading Beyond (result.map change) := by
  cases hReading with
  | read hWithin a => exact .read hWithin (change a)
  | refused hBeyond text => exact .refused hBeyond text

theorem Reading.congr {α : Type} {Beyond Other : Prop} {result : Result α}
    (hReading : Reading Beyond result) (hSame : Beyond ↔ Other) : Reading Other result := by
  rwa [← propext hSame]

/-- A number of seconds is read unless no instant has as many. -/
theorem reading_readTimestamp (n : Int64) :
    Reading (BeyondCalendar n) (readTimestamp (int64Text n)) := by
  unfold readTimestamp
  rw [bind_ok readInteger_int64Text]
  unfold Instant.of? BeyondCalendar
  by_cases hRange : minSecond ≤ n.toInt ∧ n.toInt ≤ maxSecond
  · have hFit : NanosFit n.toInt 0 := Or.inl (by decide)
    rw [dif_pos hRange, dif_pos hFit]
    exact .read (by omega) _
  · rw [dif_neg hRange]
    exact .refused (by omega) _

/-- A timestamp column writes a number of seconds that no instant has. -/
def WritesBeyondFlat (type : ColumnType) (value : Value) : Prop :=
  type = .timestamp ∧ ∃ n, value.wholePart? = some n ∧ BeyondCalendar n

theorem not_writesBeyondFlat (hType : type ≠ .timestamp) : ¬WritesBeyondFlat type value :=
  fun hBeyond => hType hBeyond.1

/-- The seconds of an instant are within the calendar. -/
theorem not_beyondCalendar_seconds (t : Instant) : ¬BeyondCalendar (Int64.ofInt t.seconds) := by
  have hRange := t.range
  unfold BeyondCalendar
  rw [toInt_ofInt_seconds]
  omega

/-- A timestamp is stored as a number of seconds: the whole part of a number, or the seconds
of an instant. -/
theorem exists_seconds_of_encodeFlat (hCell : encodeFlat value .timestamp = .ok cell) :
    ∃ n, cell = .number (int64Text n) ∧
      (value.wholePart? = some n ∨ value.wholePart? = none ∧ ¬BeyondCalendar n) := by
  have hNumber : (integerText .timestamp value).map Cell.number = .ok cell →
      ∃ n, cell = .number (int64Text n) ∧
        (value.wholePart? = some n ∨ value.wholePart? = none ∧ ¬BeyondCalendar n) := by
    intro hText
    rw [map_eq_ok_iff] at hText
    obtain ⟨text, hText, rfl⟩ := hText
    obtain ⟨n, hWhole, rfl⟩ := wholePart?_of_integerText hText
    exact ⟨n, rfl, Or.inl hWhole⟩
  cases value with
  | instant t =>
    cases hCell
    refine ⟨Int64.ofInt t.seconds, ?_, Or.inr ⟨rfl, not_beyondCalendar_seconds t⟩⟩
    rw [int64Text, toInt_ofInt_seconds]
  | _ => exact hNumber hCell

theorem reading_timestamp (hCell : encodeFlat value .timestamp = .ok cell) :
    Reading (WritesBeyondFlat .timestamp value) (decodeFlat cell .timestamp) := by
  obtain ⟨n, rfl, hSource⟩ := exists_seconds_of_encodeFlat hCell
  apply ((reading_readTimestamp n).map Value.instant).congr
  rcases hSource with hWhole | ⟨hNone, hWithin⟩
  · simp [WritesBeyondFlat, hWhole]
  · simp [WritesBeyondFlat, hNone, hWithin]

theorem reading_decodeFlat (hCell : encodeFlat value type = .ok cell)
    (hFilled : value.isNull = false) :
    Reading (WritesBeyondFlat type value) (decodeFlat cell type) := by
  by_cases hType : type = .timestamp
  · subst hType
    exact reading_timestamp hCell
  · exact reading_of_exists (not_writesBeyondFlat hType) (exists_decodeFlat hCell hFilled hType)

/-- Lists and maps without declared children are read as what was written for them. -/
theorem decodeItems_of_encodeItems {items : List Value} {cells : List Cell}
    (hCells : encodeItems items = .ok cells) :
    decodeItems cells = .ok (Value.readBackItems items) := by
  have hWritten := written_encodeItems items
  rw [hCells] at hWritten
  cases hWritten with
  | stored _ hRead => exact hRead

theorem decodeEntries_of_encodeEntries {entries : List (String × Value)}
    {cells : List (String × Cell)} (hCells : encodeEntries entries = .ok cells) :
    decodeEntries cells = .ok (Value.readBackEntries entries) := by
  have hWritten := written_encodeEntries entries
  rw [hCells] at hWritten
  cases hWritten with
  | stored _ hRead => exact hRead

theorem reading_decodeAs (hCell : encodeAs value type = .ok (some cell)) :
    Reading (WritesBeyondFlat type value) (decodeAs cell type) := by
  cases storedAs_of_encodeAs hCell with
  | list hType hCells =>
    subst hType
    exact reading_of_exists (not_writesBeyondFlat (by decide))
      ⟨_, bind_ok (decodeItems_of_encodeItems hCells) _⟩
  | map hType hCells =>
    subst hType
    exact reading_of_exists (not_writesBeyondFlat (by decide))
      ⟨_, bind_ok (decodeEntries_of_encodeEntries hCells) _⟩
  | flat hFilled hFlat =>
    rw [decodeAs_of_encodeFlat hFlat hFilled]
    exact reading_decodeFlat hFlat hFilled

section Children

variable {entries : List (String × Value)} {cells : List (String × Cell)}
  {children : List Column} {column : Column}

/-- What becomes of a child whose cell, if there is one, is read: without a cell nothing is
in the way. -/
def ReadingStored (Beyond : Prop) (child : Column) : Option Cell → Prop
  | none => ¬Beyond
  | some cell => cell.isBlank = false ∧ Reading Beyond (child.decode cell)

/-- Children are read one after another, up to the first that cannot be read. -/
theorem reading_decodeChildren {Beyond : Column → Prop}
    (hEach : ∀ child ∈ children,
      ReadingStored (Beyond child) child (Entries.find? child.name cells)) :
    Reading (∃ child ∈ children, Beyond child) (decodeChildren cells children) := by
  induction children with
  | nil => exact .read (by simp) []
  | cons child others ih =>
    obtain ⟨hHere, hLater⟩ := List.forall_mem_cons.mp hEach
    have hRest := ih hLater
    rw [decodeChildren]
    simp only [List.exists_mem_cons_iff]
    cases hCell : Entries.find? child.name cells with
    | none =>
      rw [hCell] at hHere
      exact hRest.congr (or_iff_right hHere).symm
    | some cell =>
      rw [hCell] at hHere
      obtain ⟨hBlank, hReading⟩ := hHere
      simp only [hBlank]
      unfold Column.decode at hReading
      generalize decode cell child = here at hReading ⊢
      generalize decodeChildren cells others = later at hRest ⊢
      cases hReading with
      | refused hBeyond text => exact .refused (Or.inl hBeyond) text
      | read hWithin value =>
        cases hRest with
        | refused hBeyond text => exact .refused (Or.inr hBeyond) text
        | read hOthers values => exact .read (not_or.mpr ⟨hWithin, hOthers⟩) _

end Children

end Codec

namespace Column

theorem writesBeyond_iff_of_no_children {column : Column} {value : Value}
    (hChildren : column.children = []) :
    column.WritesBeyond value ↔ WritesBeyondFlat column.type value := by
  constructor
  · rintro (⟨_, hType, hWhole, hBeyond⟩ | ⟨hChild, _, _⟩)
    · exact ⟨hType, _, hWhole, hBeyond⟩
    · rw [hChildren] at hChild
      cases hChild
  · rintro ⟨hType, n, hWhole, hBeyond⟩
    exact .seconds hChildren hType hWhole hBeyond

theorem writesBeyond_map_iff {column : Column} {entries : List (String × Value)}
    (hChildren : column.children ≠ []) :
    column.WritesBeyond (.map entries) ↔ ∃ child ∈ column.children,
      ∃ value, Entries.find? child.name entries = some value ∧ child.WritesBeyond value := by
  constructor
  · rintro (⟨hNone, _, _, _⟩ | ⟨hChild, hEntry, hValue⟩)
    · exact absurd hNone hChildren
    · exact ⟨_, hChild, _, hEntry, hValue⟩
  · rintro ⟨child, hChild, value, hEntry, hValue⟩
    exact .entry hChild hEntry hValue

/-- Null and the empty string have no number in them. -/
theorem not_writesBeyond_of_isNull {column : Column} {value : Value}
    (hNull : value.isNull = true) : ¬column.WritesBeyond value := by
  rintro (⟨_, _, hWhole, _⟩ | _)
  · cases value with
    | string text =>
      have hEmpty : text = "" := by simpa using hNull
      subst hEmpty
      cases hWhole
    | null => cases hWhole
    | _ => cases hNull
  · cases hNull

end Column

namespace Codec

variable {column child : Column} {entries : List (String × Value)} {value : Value} {cell : Cell}

/-- A child reads what it stored for its entry as it reads what it writes for any value. -/
theorem readingStored_of_storesFor {stored : Option Cell} (hStored : StoresFor entries child stored)
    (hEach : ∀ value cell, child.encode value = .ok (some cell) →
      Reading (child.WritesBeyond value) (child.decode cell)) :
    ReadingStored (∃ value, Entries.find? child.name entries = some value ∧
      child.WritesBeyond value) child stored := by
  unfold StoresFor at hStored
  split at hStored
  · next hNone =>
    subst hStored
    simp [ReadingStored, hNone]
  · next value hEntry =>
    simp only [hEntry, Option.some.injEq, exists_eq_left']
    cases stored with
    | none =>
      apply Column.not_writesBeyond_of_isNull
      simpa using child.isNull_of_encode hStored
    | some cell => exact ⟨child.isBlank_of_encode hStored, hEach value cell hStored⟩

/-- What a column wrote is read, unless a number of seconds that no instant has is in it. -/
theorem reading_decode (hDistinct : column.DistinctNames)
    (hCell : column.encode value = .ok (some cell)) :
    Reading (column.WritesBeyond value) (column.decode cell) := by
  -- the cell of a child is what the child wrote, which is what the induction needs
  induction hDistinct generalizing value cell with
  | @intro column hNames _ ih =>
    by_cases hChildren : column.children = []
    · rw [encode_of_no_children hChildren] at hCell
      rw [decode_of_no_children hChildren]
      exact (reading_decodeAs hCell).congr
        (Column.writesBeyond_iff_of_no_children hChildren).symm
    · obtain ⟨entries, cells, rfl, hCells, rfl⟩ := exists_encodeChildren hChildren hCell
      have hFiles := encodeChildren_eq_ok_iff.mp hCells
      have hNodup := hFiles.names_sublist.nodup hNames
      have hReading := reading_decodeChildren fun child hChild => by
        have hStored := hFiles.find? hNames child hChild
        have hFind : Entries.find? child.name (Entries.ofList cells) =
            Entries.find? child.name cells := NameMap.find?_ofList hNodup child.name
        rw [← hFind] at hStored
        exact readingStored_of_storesFor hStored fun _ _ => ih child hChild
      rw [decode_of_children hChildren]
      exact (hReading.map _).congr (Column.writesBeyond_map_iff hChildren).symm

end Codec

/-- A cell that a column wrote is read, unless the value holds a number under a timestamp
column whose whole part is more, or less, seconds than an instant can have.  Then the cell
is refused as an invalid date. -/
theorem Column.unreadable_beyond_calendar {column : Column} {value : Value} {cell : Cell}
    (hDistinct : column.DistinctNames) (hCell : column.encode value = .ok (some cell)) :
    ((∃ read, column.decode cell = .ok read) ↔ ¬column.WritesBeyond value) ∧
      ∀ error, column.decode cell = .error error → ∃ text, error = .invalidDate text := by
  have hReading := reading_decode hDistinct hCell
  generalize column.decode cell = result at hReading ⊢
  cases hReading with
  | read hWithin read => exact ⟨iff_of_true ⟨read, rfl⟩ hWithin, nofun⟩
  | refused hBeyond text =>
    refine ⟨iff_of_false nofun (not_not_intro hBeyond), ?_⟩
    rintro _ ⟨⟩
    exact ⟨text, rfl⟩

/-- A pass for a gate, with the second from which it is void. -/
def Column.pass : Column :=
  .ofChildren "pass" [.plain "gate" .string, .plain "void" .timestamp]

theorem Column.distinctNames_pass : pass.DistinctNames := by
  refine ⟨by decide, ?_⟩
  rw [pass, ofChildren, List.forall_mem_cons, List.forall_mem_singleton]
  exact ⟨distinctNames_plain "gate" .string, distinctNames_plain "void" .timestamp⟩

/-- A pass that is never void is written with the last second of 64 bits, and not read. -/
theorem Column.unreadable_beyond_calendar_of_pass :
    pass.DistinctNames ∧
      pass.encode (.map [("gate", .string "north"), ("void", .integer Int64.maxValue)]) =
        .ok (some (.map [("gate", .string "north"), ("void", .number "9223372036854775807")])) ∧
      ¬∃ read, pass.decode (.map [("gate", .string "north"),
        ("void", .number "9223372036854775807")]) = .ok read := by
  have hCell : pass.encode (.map [("gate", .string "north"), ("void", .integer Int64.maxValue)]) =
      .ok (some (.map [("gate", .string "north"), ("void", .number "9223372036854775807")])) := by
    rfl
  refine ⟨distinctNames_pass, hCell, fun hRead => ?_⟩
  apply (unreadable_beyond_calendar distinctNames_pass hCell).1.mp hRead
  apply WritesBeyond.entry (List.mem_cons_of_mem _ List.mem_cons_self) rfl
  exact .seconds rfl rfl rfl (Or.inr (by decide))

/-- A number of seconds beyond the calendar is written, and what is written is refused. -/
theorem Column.timestamp_written_and_refused :
    ∃ cell, (plain "void" .timestamp).encode (.integer Int64.maxValue) = .ok (some cell) ∧
      (plain "void" .timestamp).decode cell = .error (.invalidDate "9223372036854775807") :=
  ⟨.number "9223372036854775807", rfl, rfl⟩

end SingleTable
