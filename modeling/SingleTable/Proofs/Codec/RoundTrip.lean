import Mathlib.Data.List.Basic
import SingleTable.Proofs.Codec.Children
import SingleTable.Proofs.Codec.Payload
import SingleTable.Proofs.Codec.Stored
import SingleTable.Proofs.Codec.Tagged

/-!
# Values read back

A value of the kind that a column declares is stored, and the cell is read back as the
value.  For a column without children this is one case for each type.  A column with
children stores the entries that its children declare, one child after another, and reads
them in the same order; as the names of the children differ, every child finds the cell
that it stored.
-/

namespace SingleTable

open Outcome Codec Calendar

/-- The values of the kind that a column type stands for: texts are not empty, floats
finite, and instants without a fraction of a second.  A timestamp is no leap second
either, which a number of seconds cannot tell. -/
inductive Value.OfType : ColumnType → Value → Prop where
  | boolean (value : Bool) : OfType .boolean (.bool value)
  | bytes (content : Bytes) : OfType .bytes (.bytes content)
  | date (day : Date) : OfType .date (.date day)
  | integer (n : Int64) : OfType .integer (.integer n)
  | string {text : String} (hFilled : text ≠ "") : OfType .string (.string text)
  | float {x : Double} (hFinite : x.isFinite = true) : OfType .float (.float x)
  | datetime {t : Instant} (hWhole : t.nanos % nanosPerSecond = 0) :
    OfType .datetime (.instant t)
  | timestamp {t : Instant} (hWhole : t.nanos = 0) : OfType .timestamp (.instant t)
  | stringSet (texts : List String) : OfType .stringSet (.stringSet texts)
  | integerSet (ns : List Int64) : OfType .integerSet (.integerSet ns)
  | floatSet {xs : List Double} (hFinite : ∀ x ∈ xs, x.isFinite = true) :
    OfType .floatSet (.floatSet xs)
  | binarySet (all : List Bytes) : OfType .binarySet (.binarySet all)

/-- The children of a column have different names, and so have theirs. -/
inductive Column.DistinctNames : Column → Prop where
  | intro {column : Column} (hNames : (column.children.map Column.name).Nodup)
    (hEach : ∀ child ∈ column.children, child.DistinctNames) : column.DistinctNames

/-- The values that a column stores as they are: those of its type, or for a column with
children the maps in which every entry is declared and such a value of its child. -/
inductive Column.Canonical : Column → Value → Prop where
  | flat {column : Column} {value : Value} (hChildren : column.children = [])
    (hValue : value.OfType column.type) : column.Canonical value
  | entries {column : Column} {entries : List (String × Value)} (hChildren : column.children ≠ [])
    (hAscending : Entries.Ascending entries)
    (hDeclared : ∀ entry ∈ entries, entry.1 ∈ column.children.map Column.name)
    (hEach : ∀ entry ∈ entries, ∀ child ∈ column.children, child.name = entry.1 →
      child.Canonical entry.2) : column.Canonical (.map entries)

namespace Codec

variable {type : ColumnType} {value : Value} {cell : Cell}

/-- Texts of a set are read one by one. -/
theorem mapM_readInteger (ns : List Int64) :
    (ns.map int64Text).mapM readInteger = .ok ns := by
  have hEach : ∀ n ∈ ns, readInteger (int64Text n) = .ok (id n) := fun _ _ => readInteger_int64Text
  rw [mapM_map_eq_ok hEach, List.map_id]

theorem mapM_readFloat {xs : List Double} (hFinite : ∀ x ∈ xs, x.isFinite = true) :
    (xs.map Double.text).mapM readFloat = .ok xs := by
  have hEach : ∀ x ∈ xs, readFloat x.text = .ok (id x) := fun x hMem =>
    readFloat_text (hFinite x hMem)
  rw [mapM_map_eq_ok hEach, List.map_id]

theorem floatText_finite {x : Double} (hFinite : x.isFinite = true) :
    floatText type (.float x) = .ok x.text := by
  have hOk : finite x = .ok x := by simp [finite, hFinite]
  exact bind_ok hOk _

theorem encodeFlat_stringSet (texts : List String) :
    encodeFlat (.stringSet texts) .stringSet = .ok (.stringSet texts) := by
  have hTexts : (texts.map Value.string).mapM (plainText .stringSet) = .ok (texts.map id) :=
    mapM_map_eq_ok fun _ _ => rfl
  rw [List.map_id] at hTexts
  exact bind_ok hTexts _

theorem encodeFlat_integerSet (ns : List Int64) :
    encodeFlat (.integerSet ns) .integerSet = .ok (.numberSet (ns.map int64Text)) := by
  have hTexts : (ns.map Value.integer).mapM (integerText .integerSet) =
      .ok (ns.map int64Text) := mapM_map_eq_ok fun _ _ => rfl
  exact bind_ok hTexts _

theorem encodeFlat_floatSet {xs : List Double} (hFinite : ∀ x ∈ xs, x.isFinite = true) :
    encodeFlat (.floatSet xs) .floatSet = .ok (.numberSet (xs.map Double.text)) := by
  have hTexts : (xs.map Value.float).mapM (floatText .floatSet) = .ok (xs.map Double.text) :=
    mapM_map_eq_ok fun x hMem => floatText_finite (hFinite x hMem)
  exact bind_ok hTexts _

theorem encodeFlat_binarySet (all : List Bytes) :
    encodeFlat (.binarySet all) .binarySet = .ok (.binarySet all) := by
  have hContents : (all.map Value.bytes).mapM (byteContent .binarySet) = .ok (all.map id) :=
    mapM_map_eq_ok fun _ _ => rfl
  rw [List.map_id] at hContents
  exact bind_ok hContents _

/-- A value of a type is written to a cell that is read as the value. -/
theorem decodeFlat_of_encodeFlat (hValue : value.OfType type) :
    ∃ cell, encodeFlat value type = .ok cell ∧ decodeFlat cell type = .ok value := by
  cases hValue with
  | boolean value => exact ⟨.bool value, rfl, rfl⟩
  | bytes content => exact ⟨.binary content, rfl, rfl⟩
  | @string text hFilled => exact ⟨.string text, rfl, rfl⟩
  | date day =>
    refine ⟨.string day.text, rfl, ?_⟩
    rw [decodeFlat, readDate_text]
    rfl
  | integer n =>
    refine ⟨.number (int64Text n), rfl, ?_⟩
    rw [decodeFlat, readInteger_int64Text]
    rfl
  | @float x hFinite =>
    refine ⟨.number x.text, ?_, ?_⟩
    · rw [encodeFlat, floatText_finite hFinite]
      rfl
    · rw [decodeFlat, readFloat_text hFinite]
      rfl
  | @datetime t hWhole =>
    refine ⟨.string t.text, rfl, ?_⟩
    rw [decodeFlat, readInstant_text hWhole]
    rfl
  | @timestamp t hWhole =>
    refine ⟨.number (Number.intText t.seconds), rfl, ?_⟩
    rw [decodeFlat, readTimestamp_seconds hWhole]
    rfl
  | stringSet texts => exact ⟨.stringSet texts, encodeFlat_stringSet texts, rfl⟩
  | integerSet ns =>
    refine ⟨.numberSet (ns.map int64Text), encodeFlat_integerSet ns, ?_⟩
    rw [decodeFlat, mapM_readInteger]
    rfl
  | @floatSet xs hFinite =>
    refine ⟨.numberSet (xs.map Double.text), encodeFlat_floatSet hFinite, ?_⟩
    rw [decodeFlat, mapM_readFloat hFinite]
    rfl
  | binarySet all => exact ⟨.binarySet all, encodeFlat_binarySet all, rfl⟩

/-- The cell of a value that is not null is read by the column's type. -/
theorem decodeAs_of_encodeFlat (hCell : encodeFlat value type = .ok cell)
    (hNull : value.isNull = false) : decodeAs cell type = decodeFlat cell type := by
  obtain ⟨hList, hMap⟩ := flat_of_encodeFlat hCell
  rw [decodeAs]
  · simp only [isBlank_of_encodeFlat hCell hNull]
    rfl
  · exact hList
  · exact hMap

/-- A value that is neither null nor a container of the type's own kind is stored flat. -/
theorem encodeAs_of_encodeFlat (hCell : encodeFlat value type = .ok cell)
    (hNull : value.isNull = false) : encodeAs value type = .ok (some cell) := by
  cases value with
  | list items =>
    rw [encodeAs, if_neg (by rintro rfl; cases hCell)]
    exact bind_ok hCell _
  | map entries =>
    rw [encodeAs, if_neg (by rintro rfl; cases hCell)]
    exact bind_ok hCell _
  | _ =>
    rw [encodeAs]
    · simp only [hNull]
      exact bind_ok hCell _
    · simp
    · simp

theorem isNull_of_ofType (hValue : value.OfType type) : value.isNull = false := by
  cases hValue with
  | @string text hFilled => simpa using hFilled
  | _ => rfl

/-- A value of a type is stored and read back, without regard to declared children. -/
theorem decodeAs_of_encodeAs (hValue : value.OfType type) :
    ∃ cell, encodeAs value type = .ok (some cell) ∧ decodeAs cell type = .ok value := by
  obtain ⟨cell, hCell, hRead⟩ := decodeFlat_of_encodeFlat hValue
  have hNull := isNull_of_ofType hValue
  exact ⟨cell, encodeAs_of_encodeFlat hCell hNull, (decodeAs_of_encodeFlat hCell hNull).trans hRead⟩

section Children

variable {entries : List (String × Value)} {children : List Column}

/-- The entries that children declare, in the order of the children. -/
def declared {α : Type} (entries : List (String × α)) (children : List Column) :
    List (String × α) :=
  children.filterMap fun child => (Entries.find? child.name entries).map fun a => (child.name, a)

theorem files_declared (entries : List (String × Value)) (children : List Column) :
    Files (fun child part => part = Entries.find? child.name entries) children
      (declared entries children) := by
  induction children with
  | nil => exact .nil
  | cons child others ih =>
    have hCons : declared entries (child :: others) =
        ((Entries.find? child.name entries).map (Prod.mk child.name)).toList ++
          declared entries others := by
      unfold declared
      rw [List.filterMap_cons]
      cases Entries.find? child.name entries <;> rfl
    rw [hCons]
    exact .cons rfl ih

/-- The child has a cell from which its entry is read. -/
def ReadsBack (child : Column) (cell : Cell) (value : Value) : Prop :=
  cell.isBlank = false ∧ child.decode cell = .ok value

/-- A child that stores its entry so that it is read back also does so if it has none. -/
theorem exists_storesFor {child : Column}
    (hStored : ∀ value, Entries.find? child.name entries = some value →
      ∃ cell, child.encode value = .ok (some cell) ∧ ReadsBack child cell value) :
    ∃ stored, StoresFor entries child stored ∧
      ∀ cells, Entries.find? child.name cells = stored →
        ReadsFor cells child (Entries.find? child.name entries) := by
  unfold StoresFor ReadsFor
  cases hEntry : Entries.find? child.name entries with
  | none =>
    refine ⟨none, rfl, fun cells hCell => ?_⟩
    rw [hCell]
  | some value =>
    obtain ⟨cell, hCell, hBlank, hRead⟩ := hStored value hEntry
    refine ⟨some cell, hCell, fun cells hFound => ?_⟩
    rw [hFound]
    simp only [hBlank]
    exact ⟨value, hRead, rfl⟩

/-- Where all entries are declared, filing the declared ones gives all of them. -/
theorem ofList_declared (hNames : (children.map Column.name).Nodup)
    (hAscending : Entries.Ascending entries)
    (hDeclared : ∀ entry ∈ entries, entry.1 ∈ children.map Column.name) :
    Entries.ofList (declared entries children) = entries := by
  have hFiles := files_declared entries children
  -- both lists are ascending, so it is enough that every name finds the same
  refine (Entries.ascending_ofList _).ext hAscending fun name => ?_
  have hFind : Entries.find? name (Entries.ofList (declared entries children)) =
      Entries.find? name (declared entries children) :=
    NameMap.find?_ofList (hFiles.names_sublist.nodup hNames) name
  rw [hFind]
  by_cases hChild : name ∈ children.map Column.name
  · obtain ⟨child, hMem, rfl⟩ := List.mem_map.mp hChild
    exact hFiles.find? hNames child hMem
  · rw [hFiles.find?_eq_none hChild]
    refine (Entries.find?_eq_none_iff.mpr fun value hMem => ?_).symm
    exact hChild (hDeclared _ hMem)

end Children

/-- A canonical value is stored, and the cell is read as the value. -/
theorem decode_of_encode {column : Column} (hCanonical : column.Canonical value)
    (hDistinct : column.DistinctNames) :
    ∃ cell, column.encode value = .ok (some cell) ∧ column.decode cell = .ok value := by
  -- every entry of a map is canonical for its child, which is what the induction needs
  induction hCanonical with
  | flat hChildren hValue =>
    rw [encode_of_no_children hChildren]
    obtain ⟨cell, hCell, hRead⟩ := decodeAs_of_encodeAs hValue
    exact ⟨cell, hCell, (decode_of_no_children hChildren).trans hRead⟩
  | @entries column entries hChildren hAscending hDeclared _ ih =>
    obtain ⟨hNames, hDistinctEach⟩ := hDistinct
    have hStored : ∀ child ∈ column.children, ∀ value,
        Entries.find? child.name entries = some value →
        ∃ cell, child.encode value = .ok (some cell) ∧ ReadsBack child cell value := by
      intro child hChild value hValue
      obtain ⟨cell, hCell, hRead⟩ := ih _ (Entries.mem_of_find?_eq_some hValue) child hChild rfl
        (hDistinctEach child hChild)
      exact ⟨cell, hCell, child.isBlank_of_encode hCell, hRead⟩
    obtain ⟨cells, hFiles⟩ :=
      exists_files fun child hChild => exists_storesFor (hStored child hChild)
    have hFound := hFiles.find? hNames
    have hCells : encodeChildren entries column.children = .ok cells :=
      encodeChildren_eq_ok_iff.mpr
        (hFiles.of_find? hNames fun child hChild => (hFound child hChild).1)
    have hValues : decodeChildren (Entries.ofList cells) column.children =
        .ok (declared entries column.children) := by
      have hDeclares := files_declared entries column.children
      refine decodeChildren_eq_ok_iff.mpr (hDeclares.of_find? hNames fun child hChild => ?_)
      rw [hDeclares.find? hNames child hChild]
      exact (hFound child hChild).2 _
        (NameMap.find?_ofList (hFiles.names_sublist.nodup hNames) child.name)
    refine ⟨_, encode_of_children hChildren hCells, ?_⟩
    rw [decode_of_children hChildren, hValues, Except.map,
      ofList_declared hNames hAscending hDeclared]

end Codec

/-- A value in the form that a column stores as it is gives a cell of the column's tag, and
the cell is read as the value. -/
theorem Column.canonical_value_read_back {column : Column} {value : Value}
    (hDistinct : column.DistinctNames) (hCanonical : column.Canonical value) :
    ∃ cell, column.encode value = .ok (some cell) ∧ cell.tag = column.tag ∧
      column.decode cell = .ok value := by
  obtain ⟨cell, hCell, hRead⟩ := Codec.decode_of_encode hCanonical hDistinct
  exact ⟨cell, hCell, Codec.tag_of_encode hCell, hRead⟩

/-- A voyage with a tilt, and an inner map of a start and numbers of ports. -/
def Column.voyage : Column :=
  .ofChildren "voyage"
    [.plain "tilt" .float,
     .ofChildren "log" [.plain "start" .datetime, .plain "ports" .integerSet]]

theorem Column.distinctNames_plain (name : String) (type : ColumnType) :
    (plain name type).DistinctNames :=
  ⟨List.nodup_nil, nofun⟩

theorem Column.distinctNames_voyage : voyage.DistinctNames := by
  refine ⟨by decide, ?_⟩
  rw [voyage, ofChildren, List.forall_mem_cons]
  refine ⟨distinctNames_plain "tilt" .float, ?_⟩
  rw [List.forall_mem_singleton]
  refine ⟨by decide, ?_⟩
  rw [ofChildren, List.forall_mem_cons, List.forall_mem_singleton]
  exact ⟨distinctNames_plain "start" .datetime, distinctNames_plain "ports" .integerSet⟩

/-- The last second of the year before year zero, and the smallest magnitude below zero. -/
def Value.voyage : Value :=
  .map
    [("log", .map
      [("ports", .integerSet [3, -4]),
       ("start", .instant ⟨-62167219201, 0, by decide, by decide⟩)]),
     ("tilt", .float (.finite true ⟨1, by decide⟩))]

theorem Column.canonical_voyage : Column.voyage.Canonical Value.voyage := by
  refine .entries (List.cons_ne_nil _ _) (by unfold Entries.Ascending; decide) (by decide) ?_
  rw [List.forall_mem_cons, List.forall_mem_singleton]
  constructor
  · intro child hChild hName
    rcases List.mem_pair.mp hChild with rfl | rfl
    · exact absurd hName (by decide)
    · refine .entries (List.cons_ne_nil _ _) (by unfold Entries.Ascending; decide) (by decide) ?_
      rw [List.forall_mem_cons, List.forall_mem_singleton]
      constructor
      · intro inner hInner hInnerName
        rcases List.mem_pair.mp hInner with rfl | rfl
        · exact absurd hInnerName (by decide)
        · exact .flat rfl (.integerSet [3, -4])
      · intro inner hInner hInnerName
        rcases List.mem_pair.mp hInner with rfl | rfl
        · exact .flat rfl (.datetime rfl)
        · exact absurd hInnerName (by decide)
  · intro child hChild hName
    rcases List.mem_pair.mp hChild with rfl | rfl
    · exact .flat rfl (.float rfl)
    · exact absurd hName (by decide)

theorem Column.canonical_value_read_back_of_voyage :
    Column.voyage.DistinctNames ∧ Column.voyage.Canonical Value.voyage ∧
      ∃ cell, Column.voyage.encode Value.voyage = .ok (some cell) ∧ cell.tag = .map ∧
        Column.voyage.decode cell = .ok Value.voyage :=
  ⟨distinctNames_voyage, canonical_voyage,
    canonical_value_read_back distinctNames_voyage canonical_voyage⟩

end SingleTable
