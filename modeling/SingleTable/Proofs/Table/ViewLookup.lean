import SingleTable.Proofs.Table.Keyed

/-!
# Look-ups by view and by key

A look-up by key trusts the keys under which the rows are filed, while a look-up by
view computes the key of every row from its attributes.  The two agree because every
row is filed under its own primary key: under the view that is the table itself a row
has the very key it is filed under, and under the inverted view it has that key with
its two texts in each other's place.
-/

namespace SingleTable

/-- A search among the values of entries that hits just those under one key finds what is
filed under it. -/
theorem Entries.find?_map_snd {κ α : Type} [DecidableEq κ] {entries : List (κ × α)} {key : κ}
    {test : α → Bool}
    (hTest : ∀ entry ∈ entries, test entry.2 = true ↔ entry.1 = key) :
    (entries.map Prod.snd).find? test = Entries.find? key entries := by
  induction entries with
  | nil => rfl
  | cons entry rest ih =>
    obtain ⟨other, value⟩ := entry
    have hHead : test value = true ↔ other = key := hTest (other, value) List.mem_cons_self
    have hRest := ih fun entry hMem => hTest entry (List.mem_cons_of_mem _ hMem)
    rw [List.map_cons, find?_cons]
    by_cases hSame : other = key
    · rw [List.find?_cons_of_pos (hHead.mpr hSame), if_pos hSame]
    · rw [List.find?_cons_of_neg (mt hHead.mp hSame), if_neg hSame, hRest]

/-- The view that looks rows up by their sort attribute first. -/
def View.inverted : View := named "inverted" .sort .partition

/-- Every table has the view. -/
theorem View.byId?_inverted : byId? "inverted" = some inverted := rfl

/-- The key with its two texts in each other's place. -/
def Key.inverse? (key : Key) : Option Key :=
  key.sort.map fun sort => ⟨sort, some key.partition⟩

theorem Key.inverse?_eq_some_iff {key : Key} {partition sort : String} :
    key.inverse? = some ⟨sort, some partition⟩ ↔ key = ⟨partition, some sort⟩ := by
  obtain ⟨keyPartition, keySort⟩ := key
  cases keySort with
  | none => simp [inverse?]
  | some keySort =>
    simp only [inverse?, Option.map_some, Option.some.injEq, mk.injEq]
    exact and_comm

namespace Table

variable {table : Table} {key : Key} {row : Item}

/-- Under the table itself a row has its primary key. -/
theorem key?_standard (hKey : table.primaryKey row = .ok key) :
    row.key? .standard table.layout = some key := by
  unfold Item.key?
  rw [View.attributes?_standard]
  exact primaryKey_eq_ok_iff.mp hKey

/-- Under the inverted view a row has its primary key inverted. -/
theorem key?_inverted (hKey : table.primaryKey row = .ok key)
    (hSort : table.layout.sort ≠ none) :
    row.key? .inverted table.layout = key.inverse? := by
  obtain ⟨name, hName⟩ := Option.ne_none_iff_exists'.mp hSort
  rw [primaryKey_eq_ok_iff, hName, Item.keyFor?_eq_some_iff_keyTexts] at hKey
  obtain ⟨hPartition, hSome, hKeySort⟩ := hKey
  obtain ⟨sort, hSortText⟩ := Option.isSome_iff_exists.mp (hSome name rfl)
  have hAttributes : View.inverted.attributes? table.layout =
      some (name, some table.layout.partition) := by
    simp [View.attributes?, View.inverted, View.named, Layout.keyOf?, hName]
  have hBoth : key.sort = some sort := by
    rw [hKeySort]
    exact hSortText
  unfold Item.key? Key.inverse?
  rw [hAttributes, hBoth]
  show row.keyFor? name (some table.layout.partition) = _
  rw [Item.keyFor?_some, hSortText, hPartition]
  rfl

namespace Keyed

/-- A look-up by the table's own view is a look-up by key. -/
theorem findByView?_standard (hKeyed : table.Keyed) (key : Key) :
    table.findByView? .standard key = table.get? key := by
  refine Entries.find?_map_snd fun entry hMem => ?_
  rw [key?_standard (hKeyed.filed entry.1 entry.2 hMem)]
  simp

/-- A look-up by the inverted view is a look-up by the inverted key. -/
theorem findByView?_inverted (hKeyed : table.Keyed) (hSort : table.layout.sort ≠ none)
    (partition sort : String) :
    table.findByView? .inverted ⟨sort, some partition⟩ = table.get? ⟨partition, some sort⟩ := by
  refine Entries.find?_map_snd fun entry hMem => ?_
  rw [key?_inverted (hKeyed.filed entry.1 entry.2 hMem) hSort, beq_iff_eq]
  exact Key.inverse?_eq_some_iff

/-- A scan of the table's own view is a scan of the keys. -/
theorem rowsOfView_standard (hKeyed : table.Keyed) (partition lead : String) :
    table.rowsOfView .standard partition lead = table.rowsOf partition lead := by
  unfold rowsOfView rowsOf items
  rw [List.filter_map]
  congr 1
  refine List.filter_congr fun entry hMem => ?_
  simp [key?_standard (hKeyed.filed entry.1 entry.2 hMem)]

end Keyed

/-- After every history, whatever the names of the key attributes: a scan of the table's
own view lists what a scan of the keys lists, in the same order, where a missing start of
the sort text counts as empty; a look-up by that view finds what is filed under the key; and
where the table has a sort attribute, the inverted view finds what is filed under the
inverted key. -/
theorem view_lookups_eq_key_lookups (layout : Layout) (writes : List Write) :
    let table := (empty layout).run writes
    (∀ (partition : String) (lead : Option String),
      table.rowsOfView .standard partition (lead.getD "") =
        table.rowsOf partition (lead.getD "")) ∧
    (∀ key, table.findByView? .standard key = table.get? key) ∧
    (layout.sort ≠ none → ∀ partition sort,
      table.findByView? .inverted ⟨sort, some partition⟩ =
        table.get? ⟨partition, some sort⟩) := by
  have hKeyed := keyed_run layout writes
  refine ⟨fun partition lead => hKeyed.rowsOfView_standard partition (lead.getD ""),
    hKeyed.findByView?_standard, fun hSort => hKeyed.findByView?_inverted ?_⟩
  rw [layout_run]
  exact hSort

/-- The inverted view of a table with one row finds it by its sort text. -/
theorem view_lookups_eq_key_lookups_of_one_row :
    let row : Item := .ofList [("pk", .string "user"), ("sk", .number "12")]
    let table : Table := (empty {}).run [.addRow row]
    table.findByView? .inverted ⟨"12", some "user"⟩ = table.get? ⟨"user", some "12"⟩ ∧
      table.get? ⟨"user", some "12"⟩ = some row := by
  intro row table
  obtain ⟨_, _, hInverted⟩ := view_lookups_eq_key_lookups {} [.addRow row]
  exact ⟨hInverted (by decide) "user" "12", rfl⟩

end Table

end SingleTable
