import SingleTable.Ordered.Entries

/-!
# Maps from names

A `NameMap` holds values by name.  Its entries are in ascending name order, so
two maps with the same contents are the same map (`NameMap.ext_find?`).
-/

namespace SingleTable

/-- A finite map from names, as its ascending entry list. -/
structure NameMap (α : Type) where
  entries : List (String × α)
  ascending : Entries.Ascending entries

namespace NameMap

variable {α β : Type}

instance [DecidableEq α] : DecidableEq (NameMap α) := fun a b =>
  decidable_of_iff (a.entries = b.entries) <| by
    cases a; cases b; simp

/-- The map without entries. -/
def empty : NameMap α := ⟨[], Entries.ascending_nil⟩

instance : Inhabited (NameMap α) := ⟨empty⟩

instance : EmptyCollection (NameMap α) := ⟨empty⟩

/-- The value filed under a name. -/
def find? (map : NameMap α) (name : String) : Option α :=
  Entries.find? name map.entries

/-- File a value under a name, replacing what was there. -/
def insert (map : NameMap α) (name : String) (value : α) : NameMap α :=
  ⟨Entries.insert name value map.entries, map.ascending.insert name value⟩

/-- Drop the entry of a name. -/
def erase (map : NameMap α) (name : String) : NameMap α :=
  ⟨Entries.erase name map.entries, map.ascending.erase name⟩

/-- Keep the entries whose value passes a test. -/
def keep (map : NameMap α) (test : α → Bool) : NameMap α :=
  ⟨map.entries.filter fun entry => test entry.2, map.ascending.filter _⟩

/-- The first map with every entry of the second filed over it. -/
def overlay (map delta : NameMap α) : NameMap α :=
  ⟨Entries.overlay map.entries delta.entries, map.ascending.overlay _⟩

/-- The map of the given entries; of two with one name the later wins. -/
def ofList (entries : List (String × α)) : NameMap α :=
  ⟨Entries.ofList entries, Entries.ascending_ofList entries⟩

/-- The names in ascending order. -/
def names (map : NameMap α) : List String :=
  map.entries.map Prod.fst

/-- The map has no entry. -/
def isEmpty (map : NameMap α) : Bool :=
  map.entries.isEmpty

/-- The number of entries. -/
def size (map : NameMap α) : Nat :=
  map.entries.length

/-- The name is filed. -/
def contains (map : NameMap α) (name : String) : Bool :=
  (map.find? name).isSome

/-- Apply a function that may fail to every value, in name order. -/
def traverse {ε : Type} (change : α → Except ε β) (map : NameMap α) :
    Except ε (NameMap β) := do
  let entries ← map.entries.mapM fun entry => do
    let value ← change entry.2
    return (entry.1, value)
  return ofList entries

@[simp]
theorem find?_empty (name : String) : (empty : NameMap α).find? name = none := rfl

@[simp]
theorem find?_insert (map : NameMap α) (name other : String) (value : α) :
    (map.insert name value).find? other =
      if name = other then some value else map.find? other :=
  Entries.find?_insert name other value map.entries

@[simp]
theorem find?_erase (map : NameMap α) (name other : String) :
    (map.erase name).find? other =
      if name = other then none else map.find? other :=
  Entries.find?_erase name other map.entries

@[simp]
theorem find?_keep (map : NameMap α) (test : α → Bool) (name : String) :
    (map.keep test).find? name = (map.find? name).filter test :=
  map.ascending.find?_filter test name

@[simp]
theorem find?_overlay (map delta : NameMap α) (name : String) :
    (map.overlay delta).find? name = (delta.find? name).or (map.find? name) :=
  Entries.find?_overlay delta.ascending.nodup_keys name

theorem find?_ofList {entries : List (String × α)} (hNodup : (entries.map Prod.fst).Nodup)
    (name : String) : (ofList entries).find? name = Entries.find? name entries := by
  have hOver : (ofList entries).find? name =
      (Entries.find? name entries).or (Entries.find? name []) :=
    Entries.find?_overlay hNodup name
  simpa using hOver

theorem find?_ofList_of_mem {entries : List (String × α)} {name : String} {value : α}
    (hNodup : (entries.map Prod.fst).Nodup) (hMem : (name, value) ∈ entries) :
    (ofList entries).find? name = some value := by
  rw [find?_ofList hNodup]
  exact (Entries.mem_iff_of_nodup hNodup).mp hMem

theorem exists_find?_of_mem_names {map : NameMap α} {name : String} (hMem : name ∈ map.names) :
    ∃ value, map.find? name = some value := by
  obtain ⟨⟨_, value⟩, hEntry, rfl⟩ := List.mem_map.mp hMem
  exact ⟨value, map.ascending.mem_iff.mp hEntry⟩

/-- Maps in which every name finds the same value are equal. -/
theorem ext_find? {map other : NameMap α} (hFind : ∀ name, map.find? name = other.find? name) :
    map = other := by
  obtain ⟨entries, hEntries⟩ := map
  obtain ⟨others, hOthers⟩ := other
  have hEq : entries = others := hEntries.ext hOthers hFind
  subst hEq
  rfl

end NameMap

end SingleTable
