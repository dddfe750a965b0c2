import SingleTable.Codec.Decode
import SingleTable.Codec.Encode
import SingleTable.Proofs.Outcome

/-!
# Entries that children declare

A column with children goes through them in order, both to store a map and to read one.
Every child puts at most one part under its name, and which one depends on the child and
the whole map only, not on the other children.  `Files` says so for storing and for
reading alike; as the names of children differ, every child finds its own part again.
-/

namespace SingleTable

/-- What holds of a column if it holds of its children holds of every column. -/
theorem Column.children_induction {Holds : Column → Prop}
    (hStep : ∀ column : Column, (∀ child ∈ column.children, Holds child) → Holds column)
    (column : Column) : Holds column :=
  hStep column fun child _ => children_induction hStep child
termination_by column
decreasing_by
  obtain ⟨name, type, key, role, lead, computed, children⟩ := column
  have hChild : sizeOf child < sizeOf children := List.sizeOf_lt_of_mem ‹_›
  simp only [Column.mk.sizeOf_spec]
  omega

namespace Codec

open Outcome

variable {α : Type} {Puts Other : Column → Option α → Prop} {child : Column}
  {children : List Column} {part : Option α} {parts : List (String × α)}

/-- Every child in turn puts at most one part under its name, the one that `Puts` says. -/
inductive Files (Puts : Column → Option α → Prop) : List Column → List (String × α) → Prop where
  | nil : Files Puts [] []
  | cons {child : Column} {children : List Column} {part : Option α} {parts : List (String × α)}
    (hPart : Puts child part) (hRest : Files Puts children parts) :
    Files Puts (child :: children) ((part.map (Prod.mk child.name)).toList ++ parts)

theorem files_nil_iff : Files Puts [] parts ↔ parts = [] := by
  constructor
  · rintro ⟨⟩
    rfl
  · rintro rfl
    exact .nil

theorem files_cons_iff :
    Files Puts (child :: children) parts ↔ ∃ part, Puts child part ∧ ∃ rest,
      Files Puts children rest ∧ (part.map (Prod.mk child.name)).toList ++ rest = parts := by
  constructor
  · rintro (_ | ⟨hPart, hRest⟩)
    exact ⟨_, hPart, _, hRest, rfl⟩
  · rintro ⟨part, hPart, rest, hRest, rfl⟩
    exact .cons hPart hRest

/-- If every child can put something, they can all do so in turn. -/
theorem exists_files (hEach : ∀ child ∈ children, ∃ part, Puts child part) :
    ∃ parts, Files Puts children parts := by
  induction children with
  | nil => exact ⟨[], .nil⟩
  | cons child others ih =>
    obtain ⟨⟨part, hPart⟩, hOthers⟩ := List.forall_mem_cons.mp hEach
    obtain ⟨parts, hParts⟩ := ih hOthers
    exact ⟨_, .cons hPart hParts⟩

/-- Parts are put under names of children, each at most once. -/
theorem Files.names_sublist (hFiles : Files Puts children parts) :
    (parts.map Prod.fst).Sublist (children.map Column.name) := by
  induction hFiles with
  | nil => exact List.Sublist.refl []
  | @cons child children part parts _ _ ih =>
    cases part with
    | none => exact ih.cons _
    | some a => exact ih.cons_cons _

theorem Files.find?_eq_none (hFiles : Files Puts children parts) {name : String}
    (hName : name ∉ children.map Column.name) : Entries.find? name parts = none := by
  refine Entries.find?_eq_none_iff.mpr fun a hMem => hName ?_
  exact hFiles.names_sublist.subset (List.mem_map_of_mem hMem)

/-- Every part is what some child puts. -/
theorem Files.exists_puts (hFiles : Files Puts children parts) :
    ∀ entry ∈ parts, ∃ child ∈ children, Puts child (some entry.2) := by
  induction hFiles with
  | nil => exact nofun
  | @cons child children part parts hPart _ ih =>
    intro entry hMem
    rcases List.mem_append.mp hMem with hHere | hLater
    · obtain ⟨a, hSome, rfl⟩ := Option.map_eq_some_iff.mp (Option.mem_toList.mp hHere)
      exact ⟨child, List.mem_cons_self, hSome ▸ hPart⟩
    · obtain ⟨other, hOther, hPuts⟩ := ih entry hLater
      exact ⟨other, List.mem_cons_of_mem _ hOther, hPuts⟩

/-- A child with a name of its own finds the part that it put in front, and the others find
what they put behind it. -/
theorem Files.forall_find?_cons_iff (hRest : Files Puts children parts)
    (hFresh : child.name ∉ children.map Column.name) :
    (∀ other ∈ child :: children, Other other (Entries.find? other.name
      ((part.map (Prod.mk child.name)).toList ++ parts))) ↔
      Other child part ∧ ∀ other ∈ children, Other other (Entries.find? other.name parts) := by
  have hSelf : Entries.find? child.name ((part.map (Prod.mk child.name)).toList ++ parts) =
      part := by
    cases part with
    | none => exact hRest.find?_eq_none hFresh
    | some a => simp [Entries.find?_cons]
  have hLater : ∀ other ∈ children, Entries.find? other.name
      ((part.map (Prod.mk child.name)).toList ++ parts) = Entries.find? other.name parts := by
    intro other hMem
    have hDiffers : child.name ≠ other.name := fun hSame =>
      hFresh (hSame ▸ List.mem_map_of_mem hMem)
    cases part with
    | none => rfl
    | some a => simp [Entries.find?_cons, hDiffers]
  rw [List.forall_mem_cons, hSelf]
  refine and_congr_right fun _ => forall₂_congr fun other hMem => ?_
  rw [hLater other hMem]

/-- Under the name of a child stands what the child puts there. -/
theorem Files.find? (hFiles : Files Puts children parts)
    (hNames : (children.map Column.name).Nodup) :
    ∀ child ∈ children, Puts child (Entries.find? child.name parts) := by
  induction hFiles with
  | nil => exact nofun
  | cons hPart hRest ih =>
    obtain ⟨hFresh, hOthers⟩ := List.nodup_cons.mp hNames
    exact (hRest.forall_find?_cons_iff hFresh).mpr ⟨hPart, ih hOthers⟩

/-- The same parts are put by another rule that puts under each name what stands there. -/
theorem Files.of_find? (hFiles : Files Puts children parts)
    (hNames : (children.map Column.name).Nodup)
    (hEach : ∀ child ∈ children, Other child (Entries.find? child.name parts)) :
    Files Other children parts := by
  induction hFiles with
  | nil => exact .nil
  | cons _ hRest ih =>
    obtain ⟨hFresh, hOthers⟩ := List.nodup_cons.mp hNames
    obtain ⟨hHere, hLater⟩ := (hRest.forall_find?_cons_iff hFresh).mp hEach
    exact .cons hHere (ih hOthers hLater)

section Maps

variable {entries values : List (String × Value)} {cells : List (String × Cell)}
  {column : Column} {value : Value} {cell : Cell}

theorem encode_of_no_children (hChildren : column.children = []) :
    column.encode value = encodeAs value column.type := by
  obtain ⟨name, type, key, role, lead, computed, children⟩ := column
  cases hChildren
  rfl

theorem decode_of_no_children (hChildren : column.children = []) :
    column.decode cell = decodeAs cell column.type := by
  obtain ⟨name, type, key, role, lead, computed, children⟩ := column
  cases hChildren
  rfl

theorem encode_of_children (hChildren : column.children ≠ [])
    (hCells : encodeChildren entries column.children = .ok cells) :
    column.encode (.map entries) = .ok (some (.map (Entries.ofList cells))) := by
  obtain ⟨name, type, key, role, lead, computed, children⟩ := column
  cases children with
  | nil => exact absurd rfl hChildren
  | cons child others => exact bind_ok hCells _

theorem decode_of_children (hChildren : column.children ≠ []) :
    column.decode (.map cells) = (decodeChildren cells column.children).map
      fun values => .map (Entries.ofList values) := by
  obtain ⟨name, type, key, role, lead, computed, children⟩ := column
  cases children with
  | nil => exact absurd rfl hChildren
  | cons child others =>
    show (do return Value.map (Entries.ofList (← decodeChildren cells (child :: others)))) = _
    cases decodeChildren cells (child :: others) <;> rfl

/-- What a child stores for its entry, if there is one. -/
def StoresFor (entries : List (String × Value)) (child : Column) (stored : Option Cell) : Prop :=
  match Entries.find? child.name entries with
  | none => stored = none
  | some value => child.encode value = .ok stored

/-- What a child reads from its cell, if there is one and it is not the empty string. -/
def ReadsFor (cells : List (String × Cell)) (child : Column) (read : Option Value) : Prop :=
  match Entries.find? child.name cells with
  | none => read = none
  | some cell =>
    if cell.isBlank then read = none
    else ∃ value, child.decode cell = .ok value ∧ read = some value

/-- The entries of a map are stored as what the children store for them. -/
theorem encodeChildren_eq_ok_iff :
    encodeChildren entries children = .ok cells ↔ Files (StoresFor entries) children cells := by
  induction children generalizing cells with
  | nil =>
    rw [files_nil_iff, encodeChildren, Except.ok.injEq, eq_comm]
  | cons child others ih =>
    simp only [files_cons_iff, ← ih, StoresFor, encodeChildren]
    cases Entries.find? child.name entries with
    | none => simp
    | some value =>
      simp only [bind_eq_ok_iff, pure_eq_ok_iff]
      refine exists_congr fun stored => and_congr_right fun _ => ?_
      cases stored <;> rfl

/-- The cells of a map are read as what the children read from them. -/
theorem decodeChildren_eq_ok_iff :
    decodeChildren cells children = .ok values ↔ Files (ReadsFor cells) children values := by
  induction children generalizing values with
  | nil =>
    rw [files_nil_iff, decodeChildren, Except.ok.injEq, eq_comm]
  | cons child others ih =>
    simp only [files_cons_iff, ← ih, ReadsFor, decodeChildren]
    cases Entries.find? child.name cells with
    | none => simp
    | some cell =>
      cases hBlank : cell.isBlank with
      | true => simp [hBlank]
      | false =>
        simp only [hBlank, Bool.false_eq_true, ↓reduceIte, bind_eq_ok_iff, pure_eq_ok_iff]
        constructor
        · rintro ⟨value, hValue, rest, hRest, rfl⟩
          exact ⟨some value, ⟨value, hValue, rfl⟩, rest, hRest, rfl⟩
        · rintro ⟨_, ⟨value, hValue, rfl⟩, rest, hRest, rfl⟩
          exact ⟨value, hValue, rest, hRest, rfl⟩

end Maps

end Codec

end SingleTable
