import SingleTable.Proofs.Row.Renaming
import SingleTable.Proofs.Table.Locality

/-!
# Tables with renamed attributes

The names of attributes carry no meaning of their own.  A table whose layout and rows are
renamed by an injective map, and which receives renamed writes, gives the same answers as the
table itself, up to the names in rows and errors, and remains its renamed image
(`reply_rename`).  The expressions of the writes stay as they are, so they have to refer to
attributes by placeholders; what these stand for is renamed.
-/

namespace SingleTable

open Outcome

/-- The error about the renamed attribute. -/
def TableError.rename (change : String → String) : TableError → TableError
  | .duplicateKey key => .duplicateKey key
  | .missingKeyAttribute name => .missingKeyAttribute (change name)
  | .invalidKeyType name actual => .invalidKeyType (change name) actual
  | .keyAttributeUpdate name => .keyAttributeUpdate (change name)
  | .expression cause => .expression cause

namespace RowWrite

/-- The write with the attributes of its items renamed, and those that its placeholders stand
for. -/
def rename (change : String → String) : RowWrite → RowWrite
  | .add partition sort global1 global2 others =>
    .add partition sort global1 global2 (others.rename change)
  | .addRow item => .addRow (item.rename change)
  | .updateRow item => .updateRow (item.rename change)
  | .updateByExpression keyItem expression bindings =>
    .updateByExpression (keyItem.rename change) expression (bindings.rename change)
  | .deleteKey key => .deleteKey key
  | .deleteRow item => .deleteRow (item.rename change)

/-- The expression of the write refers to attributes by placeholders only. -/
def ByPlaceholders : RowWrite → Prop
  | .updateByExpression _ expression _ =>
    ∀ step ∈ UpdateStep.ofText expression, step.ByPlaceholders
  | _ => True

end RowWrite

namespace Table

/-- The table with the attributes of its layout and of its rows renamed. -/
def rename (change : String → String) (table : Table) : Table where
  layout := table.layout.rename change
  rows := table.rows.map fun entry => (entry.1, entry.2.rename change)

/-- A result with its error about renamed attributes, and with the image of what it gives. -/
def renamed {α β : Type} (change : String → String) (image : α → β) : Result α → Result β
  | .ok a => .ok (image a)
  | .error error => .error (error.rename change)

/-- What is handed back and what is left in a row, both renamed. -/
def renameBoth (change : String → String) (given : Option Item × Option Item) :
    Option Item × Option Item :=
  (given.1.map (NameMap.rename change), given.2.map (NameMap.rename change))

section Steps

variable {α β γ δ : Type} {change : String → String}

/-- A sequence has a renamed result when its steps have. -/
theorem renamed_bind {image : α → β} {imageNext : γ → δ} {first : Result α}
    {next : α → Result γ} {other : β → Result δ}
    (hNext : ∀ a, other (image a) = renamed change imageNext (next a)) :
    (renamed change image first >>= other) = renamed change imageNext (first >>= next) := by
  cases first with
  | error error => rfl
  | ok a => exact hNext a

theorem renamed_forM {check other : α → Result Unit} {items : List α}
    (hEach : ∀ item ∈ items, other item = renamed change id (check item)) :
    items.forM other = renamed change id (items.forM check) := by
  induction items with
  | nil => rfl
  | cons item rest ih =>
    obtain ⟨hItem, hRest⟩ := List.forall_mem_cons.mp hEach
    show (other item >>= fun _ => rest.forM other) = _
    rw [hItem]
    exact renamed_bind fun _ => ih hRest

end Steps

variable {change : String → String}

theorem rename_set (table : Table) (key : Key) (row : Option Item) :
    (table.set key row).rename change =
      (table.rename change).set key (row.map (NameMap.rename change)) := by
  cases row with
  | none =>
    unfold rename set erase
    simp only [Option.map_none, Entries.erase_map_value]
  | some row =>
    unfold rename set put
    simp only [Option.map_some, Entries.insert_map_value]

theorem get?_rename (table : Table) (key : Key) :
    (table.rename change).get? key = (table.get? key).map (NameMap.rename change) :=
  Entries.find?_map_value (NameMap.rename change) key table.rows

variable (hChange : Function.Injective change)
include hChange

theorem keyText_rename (item : Item) (name : String) :
    keyText (item.rename change) (change name) = renamed change id (keyText item name) := by
  unfold keyText
  rw [NameMap.find?_rename hChange]
  cases item.find? name with
  | none => rfl
  | some cell =>
    cases hText : cell.text? with
    | none => simp only [hText]; rfl
    | some text =>
      simp only [hText]
      cases text.isEmpty <;> rfl

theorem primaryKey_rename (layout : Layout) (item : Item) :
    (empty (layout.rename change)).primaryKey (item.rename change) =
      renamed change id ((empty layout).primaryKey item) := by
  obtain ⟨tableName, partition, sort, global1, global2, global3⟩ := layout
  cases sort with
  | none =>
    show (keyText (item.rename change) (change partition) >>= fun text =>
      Except.ok (Key.mk text none)) = _
    rw [keyText_rename hChange]
    exact renamed_bind fun _ => rfl
  | some name =>
    show (keyText (item.rename change) (change partition) >>= fun text =>
      keyText (item.rename change) (change name) >>= fun sortText =>
        Except.ok (Key.mk text (some sortText))) = _
    rw [keyText_rename hChange, keyText_rename hChange]
    exact renamed_bind fun _ => renamed_bind fun _ => rfl

theorem isPrimary_rename (layout : Layout) (name : String) :
    (layout.rename change).isPrimary (change name) = layout.isPrimary name := by
  rw [Bool.eq_iff_iff, isPrimary_iff, isPrimary_iff]
  cases hSort : layout.sort <;> simp [Layout.rename, hSort, hChange.eq_iff]

/-- A step on a renamed attribute passes the check when the step does. -/
theorem checkTarget_rename (layout : Layout) (bindings : Bindings) {step : UpdateStep}
    (hStep : step.ByPlaceholders) :
    (empty (layout.rename change)).checkTarget (bindings.rename change) step =
      renamed change id ((empty layout).checkTarget bindings step) := by
  have hName := bindings.name_rename change (hStep step.name (by cases step <;> simp [
    UpdateStep.references, UpdateStep.name]))
  unfold checkTarget
  rw [hName]
  cases bindings.name step.name with
  | error error => rfl
  | ok name =>
    show (if (layout.rename change).isPrimary (change name) then _ else _) =
      renamed change id (if layout.isPrimary name then _ else _)
    rw [isPrimary_rename hChange]
    cases layout.isPrimary name <;> rfl

theorem withText_rename (item : Item) (name text : Option String) :
    withText (item.rename change) (name.map change) text =
      (withText item name text).rename change := by
  cases name with
  | none => rfl
  | some name =>
    cases text with
    | none => rfl
    | some text => exact (NameMap.rename_insert hChange item name (.string text)).symm

theorem itemOf_rename (layout : Layout) (partition : String)
    (sort global1 global2 : Option String) (others : Item) :
    itemOf (layout.rename change) partition sort global1 global2 (others.rename change) =
      (itemOf layout partition sort global1 global2 others).rename change := by
  simp only [itemOf, Layout.rename, ← withText_rename hChange, NameMap.rename_insert hChange]

/-- A renamed write is about the row under the same key. -/
theorem key_rename (layout : Layout) (write : RowWrite) :
    (write.rename change).key (layout.rename change) =
      renamed change id (write.key layout) := by
  cases write with
  | add partition sort global1 global2 others =>
    simp only [RowWrite.rename, RowWrite.key, itemOf_rename hChange]
    exact primaryKey_rename hChange layout _
  | addRow item => exact primaryKey_rename hChange layout item
  | updateRow item => exact primaryKey_rename hChange layout item
  | updateByExpression keyItem expression bindings =>
    exact primaryKey_rename hChange layout keyItem
  | deleteKey key => rfl
  | deleteRow item => exact primaryKey_rename hChange layout item

theorem insertion_rename (key : Key) (old : Option Item) (item : Item) :
    RowWrite.insertion key (old.map (NameMap.rename change)) (item.rename change) =
      renamed change (renameBoth change) (RowWrite.insertion key old item) := by
  cases old with
  | some row => rfl
  | none =>
    show Except.ok (none, some (Item.withoutBlanks (item.rename change))) = _
    rw [← Item.rename_withoutBlanks hChange]
    rfl

/-- A renamed write has the renamed effect on a renamed row. -/
theorem effect_rename (layout : Layout) (key : Key) (old : Option Item) {write : RowWrite}
    (hWrite : write.ByPlaceholders) :
    (write.rename change).effect (layout.rename change) key (old.map (NameMap.rename change)) =
      renamed change (renameBoth change) (write.effect layout key old) := by
  cases write with
  | add partition sort global1 global2 others =>
    simp only [RowWrite.rename, RowWrite.effect, itemOf_rename hChange]
    exact insertion_rename hChange key old _
  | addRow item => exact insertion_rename hChange key old item
  | updateRow item =>
    cases old with
    | none =>
      show Except.ok (none, some (Item.withoutBlanks (item.rename change))) = _
      rw [← Item.rename_withoutBlanks hChange]
      rfl
    | some row =>
      show Except.ok (none, some (Item.merged (row.rename change) (item.rename change))) = _
      rw [← Item.rename_merged hChange]
      rfl
  | updateByExpression keyItem expression bindings =>
    have hStart : (old.map (NameMap.rename change)).getD
        (Item.withoutBlanks (keyItem.rename change)) =
          (old.getD keyItem.withoutBlanks).rename change := by
      rw [← Item.rename_withoutBlanks hChange]
      cases old <;> rfl
    simp only [RowWrite.rename, RowWrite.effect, hStart, Item.updated]
    rw [renamed_forM fun step hMem => checkTarget_rename hChange layout bindings (hWrite step hMem),
      UpdateStep.applyAll_rename hChange hWrite]
    apply renamed_bind
    intro _
    cases UpdateStep.applyAll (UpdateStep.ofText expression) bindings
      (old.getD keyItem.withoutBlanks) <;> rfl
  | deleteKey other => rfl
  | deleteRow item => rfl

/-- A renamed write of the renamed table gives what the write of the table gives, renamed. -/
theorem reply_rename (table : Table) {write : RowWrite} (hWrite : write.ByPlaceholders) :
    (table.rename change).reply (write.rename change) =
      renamed change (fun given => (given.1.map (NameMap.rename change), given.2.rename change))
        (table.reply write) := by
  cases hOwn : write.key table.layout with
  | error error =>
    have hKey : (write.rename change).key (table.rename change).layout =
        .error (error.rename change) := by
      show (write.rename change).key (table.layout.rename change) = _
      rw [key_rename hChange, hOwn]
      rfl
    rw [reply_of_key_error hOwn, reply_of_key_error hKey]
    rfl
  | ok key =>
    have hKey : (write.rename change).key (table.rename change).layout = .ok key := by
      show (write.rename change).key (table.layout.rename change) = _
      rw [key_rename hChange, hOwn]
      rfl
    rw [reply_of_key hOwn, reply_of_key hKey, get?_rename]
    show Except.map _ ((write.rename change).effect (table.layout.rename change) key _) = _
    rw [effect_rename hChange table.layout key _ hWrite]
    cases write.effect table.layout key (table.get? key) with
    | error error => rfl
    | ok given =>
      show Except.ok (given.1.map _, (table.rename change).set key (given.2.map _)) =
        Except.ok (given.1.map _, (table.set key given.2).rename change)
      rw [rename_set]

/-- The rows of a renamed table that a view lists are those that the view lists, renamed. -/
theorem rowsOfView_rename (table : Table) (view : View) (partition lead : String) :
    (table.rename change).rowsOfView view partition lead =
      (table.rowsOfView view partition lead).map (NameMap.rename change) := by
  have hItems : (table.rename change).items = table.items.map (NameMap.rename change) := by
    simp [items, rename]
  unfold rowsOfView
  rw [hItems, List.filter_map]
  congr 1
  refine List.filter_congr fun row _ => ?_
  show Option.any _ (Item.key? (row.rename change) view (table.layout.rename change)) = _
  rw [Item.key?_rename hChange]

/-- What is handed back, renamed, or the error about renamed attributes. -/
def renamedAnswer (change : String → String) : Result (Option Item) → Result (Option Item) :=
  renamed change (Option.map (NameMap.rename change))

/-- The answers to writes that come one after another. -/
def answers : Table → List RowWrite → List (Result (Option Item))
  | _, [] => []
  | table, write :: rest => table.answer write :: (table.after write.toWrite).answers rest

theorem answer_rename (table : Table) {write : RowWrite} (hWrite : write.ByPlaceholders) :
    (table.rename change).answer (write.rename change) =
      renamedAnswer change (table.answer write) := by
  unfold answer
  rw [reply_rename hChange table hWrite]
  cases table.reply write <;> rfl

/-- The table after a renamed write is the renamed one. -/
theorem after_rename (table : Table) {write : RowWrite} (hWrite : write.ByPlaceholders) :
    (table.rename change).after (write.rename change).toWrite =
      (table.after write.toWrite).rename change := by
  rw [after_toWrite, after_toWrite, outcome_eq_map_reply, outcome_eq_map_reply,
    reply_rename hChange table hWrite]
  cases table.reply write <;> rfl

theorem answers_rename (table : Table) {writes : List RowWrite}
    (hWrites : ∀ write ∈ writes, write.ByPlaceholders) :
    (table.rename change).answers (writes.map (RowWrite.rename change)) =
      (table.answers writes).map (renamedAnswer change) := by
  induction writes generalizing table with
  | nil => rfl
  | cons write rest ih =>
    obtain ⟨hWrite, hRest⟩ := List.forall_mem_cons.mp hWrites
    simp only [List.map_cons, answers, answer_rename hChange table hWrite,
      after_rename hChange table hWrite, ih _ hRest]

theorem run_rename (table : Table) {writes : List RowWrite}
    (hWrites : ∀ write ∈ writes, write.ByPlaceholders) :
    (table.rename change).run ((writes.map (RowWrite.rename change)).map RowWrite.toWrite) =
      (table.run (writes.map RowWrite.toWrite)).rename change := by
  induction writes generalizing table with
  | nil => rfl
  | cons write rest ih =>
    obtain ⟨hWrite, hRest⟩ := List.forall_mem_cons.mp hWrites
    simp only [List.map_cons, run_cons, after_rename hChange table hWrite, ih _ hRest]

/-- Whatever injective map renames the attributes of a layout, of the items of writes and those
that their placeholders stand for: the renamed writes are answered as the writes are, with the
same errors about renamed attributes and with renamed rows; the table that they leave has the
same keys in the same order, and the renamed row under each; and every view lists the renamed
rows in the same order. -/
theorem renamed_history_mirrors_history (layout : Layout) {writes : List RowWrite}
    (hWrites : ∀ write ∈ writes, write.ByPlaceholders) :
    let table := (empty layout).run (writes.map RowWrite.toWrite)
    let image := (empty (layout.rename change)).run
      ((writes.map (RowWrite.rename change)).map RowWrite.toWrite)
    (empty (layout.rename change)).answers (writes.map (RowWrite.rename change)) =
        ((empty layout).answers writes).map (renamedAnswer change) ∧
      image.rows = table.rows.map (fun entry => (entry.1, entry.2.rename change)) ∧
      ∀ (view : View) (partition : String) (lead : Option String),
        image.rowsOfView view partition (lead.getD "") =
          (table.rowsOfView view partition (lead.getD "")).map (NameMap.rename change) := by
  intro table image
  have hImage : image = table.rename change := run_rename hChange (empty layout) hWrites
  refine ⟨answers_rename hChange (empty layout) hWrites, ?_, ?_⟩
  · rw [hImage]
    rfl
  · intro view partition lead
    rw [hImage]
    exact rowsOfView_rename hChange table view partition (lead.getD "")

omit hChange

/-- The two usual attributes of the primary key in each other's place. -/
def swapKeys (name : String) : String :=
  if name = "pk" then "sk" else if name = "sk" then "pk" else name

theorem injective_swapKeys : Function.Injective swapKeys := by
  apply Function.Involutive.injective
  intro name
  unfold swapKeys
  by_cases hPartition : name = "pk"
  · simp [hPartition]
  · by_cases hSort : name = "sk" <;> simp [hPartition, hSort]

/-- With its two key attributes in each other's place a table takes an insertion and an update
as before, and misses the other attribute in an incomplete key. -/
theorem renamed_history_mirrors_history_of_swap :
    let row : Item := .ofList [("pk", .string "user"), ("sk", .string "7")]
    let writes : List RowWrite := [.addRow row,
      .updateByExpression row "SET #n = :v" ⟨.ofList [("#n", "note")], .ofList [(":v", .bool true)]⟩,
      .deleteRow (.ofList [("pk", .string "user")])]
    let image := (empty (Layout.rename swapKeys {})).run
      ((writes.map (RowWrite.rename swapKeys)).map RowWrite.toWrite)
    let inverted : View := .named "inverted" .sort .partition
    (Function.Injective swapKeys ∧ ∀ write ∈ writes, write.ByPlaceholders) ∧
      (empty (Layout.rename swapKeys {})).answers (writes.map (RowWrite.rename swapKeys)) =
        [.ok none, .ok (some (.ofList [("note", .bool true), ("pk", .string "7"),
          ("sk", .string "user")])), .error (.missingKeyAttribute "pk")] ∧
      image.rowsOfView inverted "7" "" =
        [.ofList [("note", .bool true), ("pk", .string "7"), ("sk", .string "user")]] := by
  intro row writes image inverted
  have hSteps : UpdateStep.ofText "SET #n = :v" = [.set "#n" ":v"] := rfl
  have hStep : (UpdateStep.set "#n" ":v").ByPlaceholders := by
    intro reference hMem
    rw [List.mem_singleton.mp hMem]
    rfl
  have hWrites : ∀ write ∈ writes, write.ByPlaceholders := by
    simp [writes, RowWrite.ByPlaceholders, hSteps, hStep]
  obtain ⟨hAnswers, _, hViews⟩ := renamed_history_mirrors_history injective_swapKeys {} hWrites
  refine ⟨⟨injective_swapKeys, hWrites⟩, hAnswers.trans rfl, ?_⟩
  exact (hViews inverted "7" none).trans rfl

end Table

end SingleTable
