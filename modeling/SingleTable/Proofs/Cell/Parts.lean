import SingleTable.Cell.Basic

/-!
# Cells inside cells

The parts of a cell are the cell itself and the parts of the cells that it lists or maps
names to, so they are all cells inside it at any depth.  What is asked of a cell at every
depth is said of its parts.
-/

namespace SingleTable.Cell

variable {cells : List Cell} {entries : List (String × Cell)}

mutual

/-- The cell and all cells inside it, each in front of those inside it. -/
def parts : Cell → List Cell
  | .list cells => .list cells :: partsOfCells cells
  | .map entries => .map entries :: partsOfEntries entries
  | cell => [cell]

/-- The parts of the cells of a list. -/
def partsOfCells : List Cell → List Cell
  | [] => []
  | cell :: rest => parts cell ++ partsOfCells rest

/-- The parts of the cells of an entry list. -/
def partsOfEntries : List (String × Cell) → List Cell
  | [] => []
  | (_, cell) :: rest => parts cell ++ partsOfEntries rest

end

theorem partsOfCells_eq_flatMap (cells : List Cell) : partsOfCells cells = cells.flatMap parts := by
  induction cells with
  | nil => rfl
  | cons cell rest ih => rw [partsOfCells, List.flatMap_cons, ih]

theorem partsOfEntries_eq_flatMap (entries : List (String × Cell)) :
    partsOfEntries entries = entries.flatMap fun entry => entry.2.parts := by
  induction entries with
  | nil => rfl
  | cons entry rest ih => rw [partsOfEntries, List.flatMap_cons, ih]

theorem parts_list (cells : List Cell) :
    (list cells).parts = .list cells :: cells.flatMap parts := by
  rw [parts, partsOfCells_eq_flatMap]

theorem parts_map (entries : List (String × Cell)) :
    (map entries).parts = .map entries :: entries.flatMap fun entry => entry.2.parts := by
  rw [parts, partsOfEntries_eq_flatMap]

/-- A cell that is neither a list nor a map has no other part. -/
theorem parts_of_flat {cell : Cell} (hList : ∀ cells, cell ≠ .list cells)
    (hMap : ∀ entries, cell ≠ .map entries) : cell.parts = [cell] := by
  rw [parts]
  · exact hList
  · exact hMap

/-- The numbers that stand in the cell itself. -/
def ownNumbers : Cell → List String
  | .number text => [text]
  | .numberSet texts => texts
  | _ => []

/-- The numbers in the cell at every depth, in the order in which they are read. -/
def numbers (cell : Cell) : List String :=
  cell.parts.flatMap ownNumbers

theorem numbers_number (text : String) : (number text).numbers = [text] := rfl

theorem numbers_numberSet (texts : List String) : (numberSet texts).numbers = texts :=
  List.append_nil texts

theorem numbers_list (cells : List Cell) : (list cells).numbers = cells.flatMap numbers := by
  unfold numbers
  rw [parts_list, List.flatMap_cons, List.flatMap_assoc]
  rfl

theorem numbers_map (entries : List (String × Cell)) :
    (map entries).numbers = entries.flatMap fun entry => entry.2.numbers := by
  unfold numbers
  rw [parts_map, List.flatMap_cons, List.flatMap_assoc]
  rfl

/-- No part of the cell is the empty string. -/
def Filled (cell : Cell) : Prop :=
  .string "" ∉ cell.parts

theorem filled_list_iff : (list cells).Filled ↔ ∀ cell ∈ cells, cell.Filled := by
  simp [Filled, parts_list]

theorem filled_map_iff : (map entries).Filled ↔ ∀ entry ∈ entries, entry.2.Filled := by
  simp [Filled, parts_map]

end SingleTable.Cell
