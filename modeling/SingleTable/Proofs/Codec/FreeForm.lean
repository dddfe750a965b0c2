import SingleTable.Proofs.Codec.RoundTrip

/-!
# Values without a declared type

A value that no column declares is written by the type it implies, and its cell is read
by the type that the cell implies.  This fails exactly for values that hold a float that
is not finite, and writes nothing exactly for null and the empty string.  Of any other
value the cell is read as `Value.readBack`: entries without content are gone, dates and
instants have become their texts, and an empty set of floats has become one of integers.
Everything else is read as it was, as the text of a float is never that of an integer.
-/

namespace SingleTable

open Outcome Codec

namespace DecimalLayout

theorem point_mem_positional (d : DecimalDigits) : '.' ∈ positional d := by
  unfold positional
  split
  · simp
  · simp only
    split <;> simp

theorem letter_mem_scientific (d : DecimalDigits) : 'e' ∈ scientific d := by
  simp [scientific]

/-- The text of a magnitude has a point or an exponent. -/
theorem mark_mem_magnitude (layout : DecimalLayout) (size : Magnitude) :
    '.' ∈ layout.magnitude size ∨ 'e' ∈ layout.magnitude size := by
  unfold magnitude
  split
  · exact Or.inl (by decide)
  · simp only
    split
    · exact Or.inl (point_mem_positional _)
    · exact Or.inr (letter_mem_scientific _)

end DecimalLayout

/-- The text of a finite float is not that of an integer. -/
theorem Double.isIntegerText_text {x : Double} (hFinite : x.isFinite = true) :
    ColumnType.isIntegerText x.text = false := by
  cases x with
  | nan => cases hFinite
  | infinite negative => cases hFinite
  | finite negative size =>
    have hNone : Number.readInt? (plainLayout.render (.finite negative size)) = none := by
      have hSize : ∀ c ∈ plainLayout.magnitude size,
          c ∈ plainLayout.render (.finite negative size) :=
        fun c hMem => List.mem_append_right _ hMem
      rcases plainLayout.mark_mem_magnitude size with hPoint | hLetter
      · exact Number.readInt?_eq_none_of_mem (hSize _ hPoint) (by decide) (by decide)
      · exact Number.readInt?_eq_none_of_mem (hSize _ hLetter) (by decide) (by decide)
    unfold ColumnType.isIntegerText text Number.readInt64?
    rw [String.toList_ofList, hNone]
    rfl

theorem Codec.isIntegerText_int64Text (n : Int64) :
    ColumnType.isIntegerText (int64Text n) = true := by
  unfold ColumnType.isIntegerText int64Text Number.intText
  rw [String.toList_ofList, Number.readInt64?_intDigits]
  rfl

namespace Value

/-- Some float in the value, at any depth, is infinite or not a number. -/
inductive HoldsNonFinite : Value → Prop where
  | float {x : Double} (hValue : x.isFinite = false) : HoldsNonFinite (.float x)
  | floatSet {x : Double} {xs : List Double} (hMem : x ∈ xs) (hValue : x.isFinite = false) :
    HoldsNonFinite (.floatSet xs)
  | list {item : Value} {items : List Value} (hMem : item ∈ items)
    (hItem : item.HoldsNonFinite) : HoldsNonFinite (.list items)
  | map {name : String} {value : Value} {entries : List (String × Value)}
    (hMem : (name, value) ∈ entries) (hValue : value.HoldsNonFinite) :
    HoldsNonFinite (.map entries)

mutual

/-- The value that is read where a value was written without a declared type. -/
def readBack : Value → Value
  | .date day => .string day.text
  | .instant t => .string t.text
  | .list items => .list (readBackItems items)
  | .map entries => .map (readBackEntries entries)
  | .floatSet [] => .integerSet []
  | value => value

/-- Nothing is read for null and the empty string. -/
def readBackItems : List Value → List Value
  | [] => []
  | item :: rest => if item.isNull then readBackItems rest else readBack item :: readBackItems rest

/-- Nothing is read for names of null and the empty string. -/
def readBackEntries : List (String × Value) → List (String × Value)
  | [] => []
  | (name, value) :: rest =>
    if value.isNull then readBackEntries rest else (name, readBack value) :: readBackEntries rest

end

/-- What can become of a value that is written without a declared type. -/
inductive Written (value : Value) : Result (Option Cell) → Prop where
  | refused (hBad : value.HoldsNonFinite) (text : String) :
    Written value (.error (.invalidNumber text))
  | omitted (hGood : ¬value.HoldsNonFinite) (hNull : value.isNull = true) :
    Written value (.ok none)
  | stored (hGood : ¬value.HoldsNonFinite) (hFilled : value.isNull = false) {cell : Cell}
    (hRead : decodeInferred cell = .ok value.readBack) : Written value (.ok (some cell))

/-- What can become of the parts of a list or map, where `Bad` says that one of them
cannot be written, and `values` is what is read for the others. -/
inductive WrittenParts {α β : Type} (Bad : Prop) (read : List α → Result (List β))
    (values : List β) : Result (List α) → Prop where
  | refused (hBad : Bad) (text : String) :
    WrittenParts Bad read values (.error (.invalidNumber text))
  | stored (hGood : ¬Bad) {cells : List α} (hRead : read cells = .ok values) :
    WrittenParts Bad read values (.ok cells)

/-- What can become of the items of a list. -/
abbrev WrittenItems (items : List Value) : Result (List Cell) → Prop :=
  WrittenParts (∃ item ∈ items, item.HoldsNonFinite) decodeItems (readBackItems items)

/-- What can become of the entries of a map. -/
abbrev WrittenEntries (entries : List (String × Value)) :
    Result (List (String × Cell)) → Prop :=
  WrittenParts (∃ entry ∈ entries, entry.2.HoldsNonFinite) decodeEntries (readBackEntries entries)

theorem holdsNonFinite_list_iff {items : List Value} :
    (list items).HoldsNonFinite ↔ ∃ item ∈ items, item.HoldsNonFinite := by
  constructor
  · rintro (_ | _ | ⟨hMem, hItem⟩)
    exact ⟨_, hMem, hItem⟩
  · rintro ⟨item, hMem, hItem⟩
    exact .list hMem hItem

theorem holdsNonFinite_map_iff {entries : List (String × Value)} :
    (map entries).HoldsNonFinite ↔ ∃ entry ∈ entries, entry.2.HoldsNonFinite := by
  constructor
  · rintro (_ | _ | _ | ⟨hMem, hValue⟩)
    exact ⟨_, hMem, hValue⟩
  · rintro ⟨⟨name, value⟩, hMem, hValue⟩
    exact .map hMem hValue

end Value

namespace Codec

open Value

theorem floatText_nonFinite {type : ColumnType} {x : Double} (hValue : x.isFinite = false) :
    floatText type (.float x) = .error (.invalidNumber x.text) := by
  simp only [floatText, finite, hValue]
  rfl

theorem mapM_floatText_nonFinite {type : ColumnType} {xs : List Double}
    (hBad : ∃ x ∈ xs, x.isFinite = false) :
    ∃ text, (xs.map Value.float).mapM (floatText type) = .error (.invalidNumber text) := by
  induction xs with
  | nil => simp at hBad
  | cons x rest ih =>
    rw [List.map_cons, List.mapM_cons]
    cases hFinite : x.isFinite with
    | false =>
      rw [floatText_nonFinite hFinite]
      exact ⟨x.text, rfl⟩
    | true =>
      have hRest : ∃ x ∈ rest, x.isFinite = false := by
        simpa [hFinite] using hBad
      obtain ⟨text, hText⟩ := ih hRest
      rw [bind_ok (floatText_finite hFinite), hText]
      exact ⟨text, rfl⟩

variable {value : Value} {cell : Cell}

theorem written_of_cell (hStored : encodeAs value (.ofValue value) = .ok (some cell))
    (hGood : ¬value.HoldsNonFinite) (hFilled : value.isNull = false)
    (hRead : decodeInferred cell = .ok value.readBack) :
    value.Written (encodeAs value (.ofValue value)) :=
  hStored ▸ .stored hGood hFilled hRead

theorem written_integer (n : Int64) :
    (Value.integer n).Written (encodeAs (.integer n) .integer) := by
  refine @written_of_cell (.integer n) (.number (int64Text n)) rfl nofun rfl ?_
  show decodeFlat (.number (int64Text n)) (.ofCell (.number (int64Text n))) = _
  rw [ColumnType.ofCell, isIntegerText_int64Text]
  show (readInteger (int64Text n)).map Value.integer = _
  rw [readInteger_int64Text]
  rfl

theorem written_float (x : Double) : (Value.float x).Written (encodeAs (.float x) .float) := by
  have hSteps : encodeAs (.float x) .float =
      (do return some (← (floatText .float (.float x)).map Cell.number)) := rfl
  cases hFinite : x.isFinite with
  | false =>
    rw [hSteps, floatText_nonFinite hFinite]
    exact .refused (.float hFinite) x.text
  | true =>
    refine @written_of_cell (.float x) (.number x.text) ?_ ?_ rfl ?_
    · refine hSteps.trans ?_
      rw [floatText_finite hFinite]
      rfl
    · rintro ⟨hBad⟩
      exact absurd hFinite (by simp [hBad])
    · show decodeFlat (.number x.text) (.ofCell (.number x.text)) = _
      rw [ColumnType.ofCell, Double.isIntegerText_text hFinite]
      show (readFloat x.text).map Value.float = _
      rw [readFloat_text hFinite]
      rfl

theorem written_integerSet (ns : List Int64) :
    (Value.integerSet ns).Written (encodeAs (.integerSet ns) .integerSet) := by
  have hAll : (ns.map int64Text).all ColumnType.isIntegerText = true := by
    rw [List.all_map, List.all_eq_true]
    exact fun n _ => isIntegerText_int64Text n
  refine @written_of_cell (.integerSet ns) (.numberSet (ns.map int64Text))
    (bind_ok (encodeFlat_integerSet ns) _) nofun rfl ?_
  show decodeFlat (.numberSet (ns.map int64Text)) (.ofCell (.numberSet (ns.map int64Text))) = _
  rw [ColumnType.ofCell, hAll]
  show ((ns.map int64Text).mapM readInteger).map Value.integerSet = _
  rw [mapM_readInteger]
  rfl

/-- A set of floats is read as such because none of its texts is that of an integer,
unless there are no texts. -/
theorem decodeInferred_floatTexts {xs : List Double} (hFinite : ∀ x ∈ xs, x.isFinite = true) :
    decodeInferred (.numberSet (xs.map Double.text)) = .ok (Value.floatSet xs).readBack := by
  cases xs with
  | nil => rfl
  | cons x rest =>
    have hSome : ((x :: rest).map Double.text).all ColumnType.isIntegerText = false := by
      simp [Double.isIntegerText_text (hFinite x List.mem_cons_self)]
    show decodeFlat _ (.ofCell (.numberSet ((x :: rest).map Double.text))) = _
    rw [ColumnType.ofCell, hSome]
    show (((x :: rest).map Double.text).mapM readFloat).map Value.floatSet = _
    rw [mapM_readFloat hFinite]
    rfl

theorem written_floatSet (xs : List Double) :
    (Value.floatSet xs).Written (encodeAs (.floatSet xs) .floatSet) := by
  by_cases hFinite : ∀ x ∈ xs, x.isFinite = true
  · refine @written_of_cell (.floatSet xs) _ (bind_ok (encodeFlat_floatSet hFinite) _) ?_ rfl
      (decodeInferred_floatTexts hFinite)
    rintro (_ | ⟨hMem, hBad⟩)
    exact absurd (hFinite _ hMem) (by simp [hBad])
  · have hBad : ∃ x ∈ xs, x.isFinite = false := by
      simpa using hFinite
    obtain ⟨text, hText⟩ := @mapM_floatText_nonFinite .floatSet xs hBad
    have hSteps : encodeAs (.floatSet xs) .floatSet = .error (.invalidNumber text) :=
      bind_error (bind_error hText _) _
    obtain ⟨x, hMem, hValue⟩ := hBad
    rw [hSteps]
    exact .refused (.floatSet hMem hValue) text

theorem decodeInferred_string {text : String} (hFilled : text ≠ "") :
    decodeInferred (.string text) = .ok (.string text) := by
  have hBlank : (Cell.string text).isBlank = false := by simpa using hFilled
  show (if (Cell.string text).isBlank then _ else _) = _
  rw [hBlank]
  rfl

theorem written_string (text : String) :
    (Value.string text).Written (encodeAs (.string text) .string) := by
  have hSteps : encodeAs (.string text) .string =
      if text.isEmpty then .ok none else .ok (some (.string text)) := rfl
  cases hText : text.isEmpty with
  | true =>
    rw [hSteps, hText]
    exact .omitted nofun hText
  | false =>
    refine @written_of_cell (.string text) (.string text) ?_ nofun hText ?_
    · rw [← Value.isNull_string] at hText
      exact hSteps.trans (if_neg (by simpa using hText))
    · exact decodeInferred_string (by simpa using hText)

theorem written_list {items : List Value} (hItems : WrittenItems items (encodeItems items)) :
    (Value.list items).Written (encodeAs (.list items) .list) := by
  rw [encodeAs_list]
  generalize encodeItems items = result at hItems ⊢
  cases hItems with
  | refused hBad text => exact .refused (holdsNonFinite_list_iff.mpr hBad) text
  | stored hGood hRead =>
    exact .stored (mt holdsNonFinite_list_iff.mp hGood) rfl (bind_ok hRead _)

theorem written_map {entries : List (String × Value)}
    (hEntries : WrittenEntries entries (encodeEntries entries)) :
    (Value.map entries).Written (encodeAs (.map entries) .map) := by
  rw [encodeAs_map]
  generalize encodeEntries entries = result at hEntries ⊢
  cases hEntries with
  | refused hBad text => exact .refused (holdsNonFinite_map_iff.mpr hBad) text
  | stored hGood hRead =>
    exact .stored (mt holdsNonFinite_map_iff.mp hGood) rfl (bind_ok hRead _)

/-- One more part in front: without content it leaves nothing, and otherwise its cell,
which `toPart` and `toValue` put in the place of the part. -/
theorem writtenParts_cons {α β : Type} {Bad : Prop} {read : List α → Result (List β)}
    {values : List β} {stored : Result (Option Cell)} {others : Result (List α)}
    {toPart : Cell → α} {toValue : Value → β}
    (hJoin : ∀ {cell read? cells rest}, decodeInferred cell = .ok read? → read cells = .ok rest →
      read (toPart cell :: cells) = .ok (toValue read? :: rest))
    (hValue : value.Written stored) (hRest : WrittenParts Bad read values others) :
    WrittenParts (value.HoldsNonFinite ∨ Bad) read
      (if value.isNull then values else toValue value.readBack :: values)
      (do
        let cell? ← stored
        let cells ← others
        return (cell?.map toPart).toList ++ cells) := by
  cases hValue with
  | refused hBad text => exact .refused (Or.inl hBad) text
  | omitted hGood hNull =>
    rw [if_pos hNull]
    cases hRest with
    | refused hBad text => exact .refused (Or.inr hBad) text
    | stored hOthers hRead => exact .stored (not_or.mpr ⟨hGood, hOthers⟩) hRead
  | stored hGood hFilled hCell =>
    rw [if_neg (by simp [hFilled])]
    cases hRest with
    | refused hBad text => exact .refused (Or.inr hBad) text
    | stored hOthers hRead => exact .stored (not_or.mpr ⟨hGood, hOthers⟩) (hJoin hCell hRead)

theorem writtenItems_cons {item : Value} {rest : List Value}
    (hItem : item.Written (encodeAs item (.ofValue item)))
    (hRest : WrittenItems rest (encodeItems rest)) :
    WrittenItems (item :: rest) (encodeItems (item :: rest)) := by
  have hCons := @writtenParts_cons item _ _ _ _ _ _ _ id id
    (fun hCell hCells => (bind_ok hCell _).trans (bind_ok hCells _)) hItem hRest
  simp only [Option.map_id_fun, id_eq] at hCons
  rw [encodeItems_cons, WrittenItems, readBackItems, List.exists_mem_cons_iff]
  exact hCons

theorem writtenEntries_cons {name : String} {value : Value} {rest : List (String × Value)}
    (hValue : value.Written (encodeAs value (.ofValue value)))
    (hRest : WrittenEntries rest (encodeEntries rest)) :
    WrittenEntries ((name, value) :: rest) (encodeEntries ((name, value) :: rest)) := by
  have hCons := @writtenParts_cons value _ _ _ _ _ _ _ (Prod.mk name) (Prod.mk name)
    (fun hCell hCells => (bind_ok hCell _).trans (bind_ok hCells _)) hValue hRest
  rw [encodeEntries_cons, WrittenEntries, readBackEntries, List.exists_mem_cons_iff]
  exact hCons

mutual

/-- What becomes of a value that is written by the type it implies. -/
theorem written_encodeAs : (value : Value) → value.Written (encodeAs value (.ofValue value))
  | .null => .omitted nofun rfl
  | .bool b => @written_of_cell (.bool b) (.bool b) rfl nofun rfl rfl
  | .string text => written_string text
  | .integer n => written_integer n
  | .float x => written_float x
  | .bytes content => @written_of_cell (.bytes content) (.binary content) rfl nofun rfl rfl
  | .date day =>
    @written_of_cell (.date day) (.string day.text) rfl nofun rfl
      (decodeInferred_string day.text_ne_empty)
  | .instant t =>
    @written_of_cell (.instant t) (.string t.text) rfl nofun rfl
      (decodeInferred_string t.text_ne_empty)
  | .list items => written_list (written_encodeItems items)
  | .map entries => written_map (written_encodeEntries entries)
  | .stringSet texts =>
    @written_of_cell (.stringSet texts) (.stringSet texts) (bind_ok (encodeFlat_stringSet texts) _)
      nofun rfl rfl
  | .integerSet ns => written_integerSet ns
  | .floatSet xs => written_floatSet xs
  | .binarySet all =>
    @written_of_cell (.binarySet all) (.binarySet all) (bind_ok (encodeFlat_binarySet all) _)
      nofun rfl rfl

theorem written_encodeItems : (items : List Value) → WrittenItems items (encodeItems items)
  | [] => .stored (by simp) rfl
  | item :: rest => writtenItems_cons (written_encodeAs item) (written_encodeItems rest)

theorem written_encodeEntries :
    (entries : List (String × Value)) → WrittenEntries entries (encodeEntries entries)
  | [] => .stored (by simp) rfl
  | (_, value) :: rest => writtenEntries_cons (written_encodeAs value) (written_encodeEntries rest)

end

/-- Writing a value by the type it implies fails exactly when the value holds a float that
is not finite, and then because of its number; it writes nothing exactly for null and the
empty string; and any other value gives a cell that is read, by the type it implies in
turn, as `Value.readBack`. -/
theorem free_form_value_read_back (value : Value) :
    ((∃ error, encodeAs value (.ofValue value) = .error error) ↔ value.HoldsNonFinite) ∧
      (∀ error, encodeAs value (.ofValue value) = .error error →
        ∃ text, error = .invalidNumber text) ∧
      (encodeAs value (.ofValue value) = .ok none ↔ value.isNull = true) ∧
      (¬value.HoldsNonFinite → value.isNull = false →
        ∃ cell, encodeAs value (.ofValue value) = .ok (some cell) ∧
          decodeInferred cell = .ok value.readBack) := by
  have hWritten := written_encodeAs value
  generalize encodeAs value (.ofValue value) = result at hWritten ⊢
  cases hWritten with
  | refused hBad text =>
    refine ⟨⟨fun _ => hBad, fun _ => ⟨_, rfl⟩⟩, ?_, ?_, fun hGood => absurd hBad hGood⟩
    · rintro _ ⟨⟩
      exact ⟨text, rfl⟩
    · -- null and the empty string hold no float
      refine ⟨nofun, fun hNull => ?_⟩
      cases hBad <;> cases hNull
  | omitted hGood hNull =>
    refine ⟨⟨nofun, fun hBad => absurd hBad hGood⟩, nofun, ⟨fun _ => hNull, fun _ => rfl⟩, ?_⟩
    intro _ hFilled
    rw [hNull] at hFilled
    cases hFilled
  | @stored _ hFilled cell hRead =>
    refine ⟨⟨nofun, fun hBad => absurd hBad ‹_›⟩, nofun, ⟨nofun, fun hNull => ?_⟩, ?_⟩
    · rw [hNull] at hFilled
      cases hFilled
    · exact fun _ _ => ⟨cell, rfl, hRead⟩

end Codec

end SingleTable
