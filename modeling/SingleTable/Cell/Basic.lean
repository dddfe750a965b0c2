import SingleTable.Ordered.NameMap
import SingleTable.Text.Quoted

/-!
# Cells

A cell is one attribute value of an item as it is stored and sent: a payload
under one of nine tags.  Numbers are kept as text.  A map cell lists its entries
by name; `Cell.Ordered` says that names are ascending at every depth, which
holds of every cell that is read from JSON.
-/

namespace SingleTable

/-- A byte string. -/
abbrev Bytes := List UInt8

/-- The tag of a cell. -/
inductive Tag where
  | string
  | number
  | bool
  | binary
  | stringSet
  | numberSet
  | binarySet
  | list
  | map
deriving DecidableEq, Repr

namespace Tag

/-- All tags. -/
def all : List Tag :=
  [.string, .number, .bool, .binary, .stringSet, .numberSet, .binarySet, .list, .map]

/-- The tag as it is written. -/
def text : Tag → String
  | .string => "S"
  | .number => "N"
  | .bool => "BOOL"
  | .binary => "B"
  | .stringSet => "SS"
  | .numberSet => "NS"
  | .binarySet => "BS"
  | .list => "L"
  | .map => "M"

/-- The tag that is written so. -/
def ofText? (text : String) : Option Tag :=
  all.find? fun tag => tag.text == text

@[simp]
theorem ofText?_text (tag : Tag) : ofText? tag.text = some tag := by
  cases tag <;> decide

end Tag

/-- One attribute value in stored form. -/
inductive Cell where
  | string (text : String)
  | number (text : String)
  | binary (bytes : Bytes)
  | stringSet (texts : List String)
  | numberSet (texts : List String)
  | binarySet (all : List Bytes)
  | bool (value : Bool)
  | list (cells : List Cell)
  | map (entries : List (String × Cell))

/-- The attributes of a row, or of a key, by name. -/
abbrev Item := NameMap Cell

namespace Cell

instance : Inhabited Cell := ⟨.string ""⟩

mutual

/-- Two cells are equal. -/
def same : Cell → Cell → Bool
  | .string a, .string b => a == b
  | .number a, .number b => a == b
  | .binary a, .binary b => a == b
  | .stringSet a, .stringSet b => a == b
  | .numberSet a, .numberSet b => a == b
  | .binarySet a, .binarySet b => a == b
  | .bool a, .bool b => a == b
  | .list a, .list b => sameCells a b
  | .map a, .map b => sameEntries a b
  | _, _ => false

/-- Two lists of cells are equal. -/
def sameCells : List Cell → List Cell → Bool
  | [], [] => true
  | a :: as, b :: bs => same a b && sameCells as bs
  | _, _ => false

/-- Two entry lists are equal. -/
def sameEntries : List (String × Cell) → List (String × Cell) → Bool
  | [], [] => true
  | (n, a) :: as, (m, b) :: bs => n == m && same a b && sameEntries as bs
  | _, _ => false

end

mutual

theorem same_iff : (a b : Cell) → (same a b = true ↔ a = b)
  | .string _, b => by cases b <;> simp [same]
  | .number _, b => by cases b <;> simp [same]
  | .binary _, b => by cases b <;> simp [same]
  | .stringSet _, b => by cases b <;> simp [same]
  | .numberSet _, b => by cases b <;> simp [same]
  | .binarySet _, b => by cases b <;> simp [same]
  | .bool _, b => by cases b <;> simp [same]
  | .list cells, b => by
    cases b with
    | list others => simp [same, sameCells_iff cells others]
    | _ => simp [same]
  | .map entries, b => by
    cases b with
    | map others => simp [same, sameEntries_iff entries others]
    | _ => simp [same]

theorem sameCells_iff : (as bs : List Cell) → (sameCells as bs = true ↔ as = bs)
  | [], bs => by cases bs <;> simp [sameCells]
  | a :: as, bs => by
    cases bs with
    | nil => simp [sameCells]
    | cons b bs => simp [sameCells, same_iff a b, sameCells_iff as bs]

theorem sameEntries_iff : (as bs : List (String × Cell)) →
    (sameEntries as bs = true ↔ as = bs)
  | [], bs => by cases bs <;> simp [sameEntries]
  | (n, a) :: as, bs => by
    cases bs with
    | nil => simp [sameEntries]
    | cons b bs =>
      obtain ⟨m, b⟩ := b
      simp [sameEntries, same_iff a b, sameEntries_iff as bs]

end

instance : DecidableEq Cell := fun a b => decidable_of_iff _ (same_iff a b)

mutual

/-- Names are strictly ascending in every map of the cell. -/
def Ordered : Cell → Prop
  | .list cells => OrderedCells cells
  | .map entries => Entries.Ascending entries ∧ OrderedEntries entries
  | _ => True

/-- Every cell of a list is ordered. -/
def OrderedCells : List Cell → Prop
  | [] => True
  | cell :: rest => Ordered cell ∧ OrderedCells rest

/-- Every cell of an entry list is ordered. -/
def OrderedEntries : List (String × Cell) → Prop
  | [] => True
  | (_, cell) :: rest => Ordered cell ∧ OrderedEntries rest

end

/-- The tag of a cell. -/
def tag : Cell → Tag
  | .string _ => .string
  | .number _ => .number
  | .binary _ => .binary
  | .stringSet _ => .stringSet
  | .numberSet _ => .numberSet
  | .binarySet _ => .binarySet
  | .bool _ => .bool
  | .list _ => .list
  | .map _ => .map

/-- The payload of a string or number cell: what keys and key conditions compare. -/
def text? : Cell → Option String
  | .string text => some text
  | .number text => some text
  | _ => none

/-- The payload of a string cell. -/
def string? : Cell → Option String
  | .string text => some text
  | _ => none

/-- The payload of a number cell. -/
def number? : Cell → Option String
  | .number text => some text
  | _ => none

/-- The payload of a truth-value cell. -/
def bool? : Cell → Option Bool
  | .bool value => some value
  | _ => none

/-- The payload of a list cell. -/
def list? : Cell → Option (List Cell)
  | .list cells => some cells
  | _ => none

/-- The payload of a map cell. -/
def map? : Cell → Option (List (String × Cell))
  | .map entries => some entries
  | _ => none

/-- The cell counts as not set: it is the empty string. -/
def isBlank : Cell → Bool
  | .string text => text.isEmpty
  | _ => false

/-- A short description of the cell. -/
def summary (cell : Cell) : String :=
  let payload := match cell with
    | .string text => text
    | .number text => text
    | .binary bytes => toString bytes.length ++ " bytes"
    | .stringSet texts => Text.quoteAll texts
    | .numberSet texts => Text.quoteAll texts
    | .binarySet all => toString all.length ++ " items"
    | .bool value => if value then "true" else "false"
    | .list cells => toString cells.length ++ " items"
    | .map entries => toString entries.length ++ " keys"
  "\x7b" ++ cell.tag.text ++ ": " ++ payload ++ "\x7d"

@[simp]
theorem isBlank_string (text : String) : isBlank (.string text) = text.isEmpty := rfl

theorem isBlank_eq_true_iff {cell : Cell} : cell.isBlank = true ↔ cell = .string "" := by
  cases cell <;> simp [isBlank]

end Cell

end SingleTable
