import SingleTable.Proofs.Table.Keyed

/-!
# Key conditions and scans

The key condition that fixes a partition text and asks for the start of a sort text
selects the rows that a scan lists, in the same order.  It cannot fail: rows outside
the view are left out before the condition is looked at, and a row in the view holds
a string or number under both attributes.  There the condition reads the same texts
as the key of the row.  Without a view the scan goes by the keys under which the rows
are filed, so there the agreement rests on the rows being filed under their own keys.
-/

namespace SingleTable

open Outcome

/-- The key condition for a partition text and the start of a sort text. -/
def prefixCondition : String :=
  "#p = :p AND begins_with(#s, :s)"

/-- The conditions that the key condition is read as. -/
def prefixConditions : List Condition :=
  [⟨.equal, "#p", .single ":p"⟩, ⟨.beginsWith, "#s", .single ":s"⟩]

theorem ofText_prefixCondition : Condition.ofText prefixCondition = .ok prefixConditions := rfl

/-- What the placeholders of the key condition stand for: two attributes, a partition
text and the start of a sort text. -/
structure Bindings.AskPrefix (bindings : Bindings) (first second partition lead : String) :
    Prop where
  first : bindings.names.find? "#p" = some first
  second : bindings.names.find? "#s" = some second
  partition : bindings.values.find? ":p" = some (.string partition)
  lead : bindings.values.find? ":s" = some (.string lead)

/-- The bindings with just these placeholders. -/
def Bindings.forPrefix (first second partition lead : String) : Bindings where
  names := .ofList [("#p", first), ("#s", second)]
  values := .ofList [(":p", .string partition), (":s", .string lead)]

theorem Bindings.askPrefix_forPrefix (first second partition lead : String) :
    (forPrefix first second partition lead).AskPrefix first second partition lead := by
  have hNames : ∀ name, (forPrefix first second partition lead).names.find? name =
      Entries.find? name [("#p", first), ("#s", second)] :=
    NameMap.find?_ofList (by simp)
  have hValues : ∀ name, (forPrefix first second partition lead).values.find? name =
      Entries.find? name [(":p", .string partition), (":s", .string lead)] :=
    NameMap.find?_ofList (by simp)
  exact ⟨hNames "#p", hNames "#s", hValues ":p", hValues ":s"⟩

variable {bindings : Bindings} {row : Item} {first second partition lead : String}

namespace Condition

/-- A condition with a single operand compares key texts as they are. -/
theorem holds_of_keyText? {condition : Condition} {reference target actual expected : String}
    (hOperand : condition.operand = .single reference)
    (hTarget : bindings.name condition.name = .ok target)
    (hExpected : bindings.valueText reference = .ok expected)
    (hActual : row.keyText? target = some actual) :
    condition.holds bindings row = .ok (compares condition.operator actual expected) := by
  obtain ⟨cell, hCell, hText, _⟩ := Item.keyText?_eq_some_iff.mp hActual
  unfold holds
  rw [bind_ok hTarget]
  simp only [hCell, hText]
  unfold admits
  simp only [hOperand]
  rw [bind_ok hExpected]
  rfl

/-- On a row with a key over the two attributes the conditions ask for the same as a
scan does. -/
theorem allHold_prefixConditions {key : Key}
    (hAsk : bindings.AskPrefix first second partition lead)
    (hKey : row.keyFor? first (some second) = some key) :
    allHold prefixConditions bindings row = .ok (Table.inPartition key partition lead) := by
  obtain ⟨hPartition, hSome, hSort⟩ := Item.keyFor?_eq_some_iff_keyTexts.mp hKey
  obtain ⟨sortText, hSortText⟩ := Option.isSome_iff_exists.mp (hSome second rfl)
  have hFirst : holds ⟨.equal, "#p", .single ":p"⟩ bindings row =
      .ok (key.partition == partition) :=
    holds_of_keyText? rfl (Bindings.name_of_find? (by decide) hAsk.first)
      (Bindings.valueText_of_find? hAsk.partition) hPartition
  have hSecond : holds ⟨.beginsWith, "#s", .single ":s"⟩ bindings row =
      .ok (Text.startsWith sortText lead) :=
    holds_of_keyText? rfl (Bindings.name_of_find? (by decide) hAsk.second)
      (Bindings.valueText_of_find? hAsk.lead) hSortText
  have hStarts : key.sortStarts lead = Text.startsWith sortText lead := by
    simp [Key.sortStarts, hSort, hSortText]
  unfold Table.inPartition
  rw [hStarts]
  simp only [prefixConditions, allHold, hFirst, hSecond]
  cases key.partition == partition <;> cases Text.startsWith sortText lead <;> rfl

end Condition

namespace Table

variable {table : Table}

/-- Where the conditions are decided on every row, they select by what they decide. -/
theorem select_eq_filter {conditions : List Condition} {test : Item → Bool} {rows : List Item}
    (hTest : ∀ row ∈ rows, Condition.allHold conditions bindings row = .ok (test row)) :
    select conditions bindings rows = .ok (rows.filter test) := by
  induction rows with
  | nil => rfl
  | cons row rest ih =>
    have hRow := hTest row List.mem_cons_self
    have hRest := ih fun other hMem => hTest other (List.mem_cons_of_mem row hMem)
    simp only [select, hRow, hRest]
    cases hHolds : test row with
    | true =>
      rw [List.filter_cons_of_pos hHolds]
      rfl
    | false =>
      rw [List.filter_cons_of_neg (by simp [hHolds])]
      rfl

/-- Under a view the key condition selects the rows of the view that a scan lists. -/
theorem query_view_prefixCondition {view : View}
    (hView : view.attributes? table.layout = some (first, some second))
    (hAsk : bindings.AskPrefix first second partition lead) :
    table.query (some view) prefixCondition bindings =
      .ok (table.rowsOfView view partition lead) := by
  have hKeys : ∀ row : Item, row.key? view table.layout = row.keyFor? first (some second) := by
    intro row
    simp [Item.key?, hView]
  have hDecided : ∀ row ∈ table.items.filter (table.inView (some view)),
      Condition.allHold prefixConditions bindings row =
        .ok ((row.key? view table.layout).any fun key => inPartition key partition lead) := by
    intro row hMem
    -- only rows of the view are asked, and they have a key there
    obtain ⟨key, hKey⟩ := Option.isSome_iff_exists.mp
      (show (row.key? view table.layout).isSome = true from (List.mem_filter.mp hMem).2)
    rw [hKey]
    exact Condition.allHold_prefixConditions hAsk (hKeys row ▸ hKey)
  unfold query
  rw [bind_ok ofText_prefixCondition, select_eq_filter hDecided, List.filter_filter]
  unfold rowsOfView
  congr 2
  ext row
  cases hKey : row.key? view table.layout <;> simp [inView, hKey]

/-- Without a view the key condition selects the rows that a scan of the keys lists. -/
theorem query_prefixCondition (hKeyed : table.Keyed)
    (hSort : table.layout.sort = some second)
    (hAsk : bindings.AskPrefix table.layout.partition second partition lead) :
    table.query none prefixCondition bindings = .ok (table.rowsOf partition lead) := by
  have hKeys : ∀ entry ∈ table.rows,
      entry.2.keyFor? table.layout.partition (some second) = some entry.1 := by
    intro entry hMem
    rw [← hSort]
    exact primaryKey_eq_ok_iff.mp (hKeyed.filed entry.1 entry.2 hMem)
  -- what the condition decides, as a test of the row alone
  let test (row : Item) : Bool :=
    (row.keyFor? table.layout.partition (some second)).any
      fun key => inPartition key partition lead
  have hDecided : ∀ row ∈ table.items,
      Condition.allHold prefixConditions bindings row = .ok (test row) := by
    intro row hMem
    obtain ⟨entry, hEntry, rfl⟩ := List.mem_map.mp hMem
    simp only [test, hKeys entry hEntry]
    exact Condition.allHold_prefixConditions hAsk (hKeys entry hEntry)
  have hEvery : table.items.filter (table.inView none) = table.items := by
    simp [inView]
  unfold query
  rw [bind_ok ofText_prefixCondition, hEvery, select_eq_filter hDecided]
  unfold rowsOf items
  rw [List.filter_map]
  congr 2
  refine List.filter_congr fun entry hMem => ?_
  simp [test, hKeys entry hMem]

/-- After every history the key condition for a partition text and the start of a sort
text selects what a scan lists: under every view with two attributes, and without a
view where the table has a sort attribute. -/
theorem prefix_query_eq_scan {layout : Layout} (writes : List Write)
    (hAsk : bindings.AskPrefix first second partition lead) :
    (∀ view : View, view.attributes? layout = some (first, some second) →
      ((empty layout).run writes).query (some view) prefixCondition bindings =
        .ok (((empty layout).run writes).rowsOfView view partition lead)) ∧
    (layout.partition = first → layout.sort = some second →
      ((empty layout).run writes).query none prefixCondition bindings =
        .ok (((empty layout).run writes).rowsOf partition lead)) := by
  have hLayout : ((empty layout).run writes).layout = layout := layout_run layout writes
  constructor
  · intro view hView
    exact query_view_prefixCondition (by rw [hLayout]; exact hView) hAsk
  · rintro rfl hSort
    refine query_prefixCondition (keyed_run layout writes) (by rw [hLayout]; exact hSort) ?_
    rw [hLayout]
    exact hAsk

/-- The two agree on a table with a number as a sort attribute. -/
theorem prefix_query_eq_scan_of_number :
    let row : Item := .ofList [("pk", .string "user"), ("sk", .number "12")]
    let table : Table := (empty {}).run [.addRow row]
    let bindings : Bindings := .forPrefix "pk" "sk" "user" "1"
    table.query (some .standard) prefixCondition bindings =
        .ok (table.rowsOfView .standard "user" "1") ∧
      table.query none prefixCondition bindings = .ok (table.rowsOf "user" "1") := by
  intro row table bindings
  obtain ⟨hView, hTable⟩ := @prefix_query_eq_scan bindings "pk" "sk" "user" "1" {}
    [.addRow row] (Bindings.askPrefix_forPrefix "pk" "sk" "user" "1")
  exact ⟨hView .standard rfl, hTable rfl rfl⟩

end Table

end SingleTable
