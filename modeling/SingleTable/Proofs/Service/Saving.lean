import SingleTable.Proofs.Schema.Encode
import SingleTable.Proofs.Service.Assignments
import SingleTable.Proofs.Table.Write
import SingleTable.Service.Operations

/-!
# Saving records

Carrying out the request that saves a record.  The expression of the request is
printed, read again and applied to the row under the record's key, and what comes out
is the intended update, column by column.  The schema has to store its keys under the
primary key attributes of the table and its other columns under attributes of their own.
-/

namespace SingleTable

open Outcome

/-- What the attribute of a column holds after a save, given what it held before. -/
def Column.SavedAs (column : Column) (values : Values) (old new : Option Cell) : Prop :=
  match values.find? column.name with
  | none => new = old
  | some value =>
    if value.isNull then new = none
    else if column.name = "created_at" ∧ old.any (!·.isBlank) = true then new = old
    else ∃ cell, column.encode value = .ok (some cell) ∧ new = some cell

namespace Schema

/-- The key columns are stored under exactly the primary key attributes of a table, and
the other columns under attributes of their own. -/
structure Fits (schema : Schema) (layout : Layout) : Prop where
  keys : ∀ name, layout.isPrimary name = true ↔
    ∃ column ∈ schema.keyColumns, column.attributeName = name
  distinct : (schema.allColumns.map Column.attributeName).Nodup
  apart : ∀ column ∈ schema.allColumns, layout.isPrimary column.attributeName = false

/-- Every key column has a value that is stored as a non-empty string or number. -/
def HasKeys (schema : Schema) (values : Values) : Prop :=
  ∀ column ∈ schema.keyColumns, ∃ value cell text,
    values.find? column.name = some value ∧ column.encode value = .ok (some cell) ∧
      cell.text? = some text ∧ text ≠ ""

end Schema

namespace Table

/-- A table comes from another one by a save of a record: the row under a key is the
only one that differs, and it holds what the record says. -/
structure Saved (schema : Schema) (values : Values) (key : Key) (table next : Table)
    (row : Item) : Prop where
  layout : next.layout = table.layout
  found : next.get? key = some row
  others : ∀ other, other ≠ key → next.get? other = table.get? other
  columns : ∀ column ∈ schema.allColumns, column.SavedAs values
    ((table.get? key).bind (·.find? column.attributeName)) (row.find? column.attributeName)
  rest : ∀ old, table.get? key = some old → ∀ name,
    (∀ column ∈ schema.allColumns, column.attributeName ≠ name) →
      row.find? name = old.find? name
  fresh : table.get? key = none →
    ∃ item, schema.encode values = .ok item ∧ row = item.withoutBlanks

end Table

namespace Schema

variable {schema : Schema} {values : Values} {position : Nat} {columns : List Column}
  {assignments : List Assignment} {keyItem start row : Item} {column : Column}

theorem Assigns.eq_of_target? (hAssigns : Assigns values position columns assignments)
    (hDistinct : (columns.map Column.attributeName).Nodup) {assignment other : Assignment}
    (hMem : assignment ∈ assignments) (hOther : other ∈ assignments)
    (hName : (bindingsOf assignments).target? other.step.name =
      some assignment.column.attributeName) : other = assignment := by
  rw [hAssigns.target?_step hOther, Option.some.injEq] at hName
  exact List.inj_on_of_nodup_map (hAssigns.nodup_attributes hDistinct) hOther hMem hName

/-- What the step of an assignment leaves under its attribute. -/
theorem Assigns.find?_of_applyAll (hAssigns : Assigns values position columns assignments)
    (hDistinct : (columns.map Column.attributeName).Nodup) {assignment : Assignment}
    (hMem : assignment ∈ assignments)
    (hApply : UpdateStep.applyAll (UpdateStep.ofText ((expressionOf assignments).getD ""))
      (bindingsOf assignments) start = .ok row) :
    row.find? assignment.column.attributeName =
      if assignment.column.name = "created_at" ∧ assignment.cell.isSome ∧
        start.holds assignment.column.attributeName
      then start.find? assignment.column.attributeName else assignment.cell := by
  have hRow := UpdateStep.find?_of_applyAll_of_only hApply
    (mem_ofText_expressionOf.mpr ⟨assignment, hMem, rfl⟩) (by
      intro step hStep hName
      obtain ⟨other, hOther, rfl⟩ := mem_ofText_expressionOf.mp hStep
      rw [hAssigns.eq_of_target? hDistinct hMem hOther hName])
  have hTarget := Bindings.target?_eq_some_iff.mpr (hAssigns.name_bindingsOf hMem)
  rw [hRow]
  unfold Assignment.step
  cases hCell : assignment.cell with
  | none => simp [UpdateStep.removes, hTarget]
  | some cell =>
    have hValue := hAssigns.find?_bindingsOf hMem hCell
    by_cases hCreated : assignment.column.name = "created_at"
    · cases hHolds : start.holds assignment.column.attributeName <;>
        simp [hCreated, UpdateStep.removes, UpdateStep.written?, hTarget, hValue, hHolds]
    · simp [hCreated, UpdateStep.removes, UpdateStep.written?, hTarget, hValue]

/-- A save leaves other attributes than those of the columns as they were. -/
theorem Assigns.find?_of_applyAll_of_not_mem
    (hAssigns : Assigns values position columns assignments)
    (hApply : UpdateStep.applyAll (UpdateStep.ofText ((expressionOf assignments).getD ""))
      (bindingsOf assignments) start = .ok row) {name : String}
    (hName : ∀ column ∈ columns, column.attributeName ≠ name) :
    row.find? name = start.find? name := by
  refine UpdateStep.find?_of_applyAll_of_untouched hApply fun step hStep hTarget => ?_
  obtain ⟨assignment, hAssignment, rfl⟩ := mem_ofText_expressionOf.mp hStep
  rw [hAssigns.target?_step hAssignment, Option.some.injEq] at hTarget
  exact hName assignment.column (hAssigns.mem_columns hAssignment) hTarget

/-- What the steps of a save leave under the attribute of a column. -/
theorem Assigns.savedAs (hAssigns : Assigns values position columns assignments)
    (hDistinct : (columns.map Column.attributeName).Nodup) (hMem : column ∈ columns)
    (hApply : UpdateStep.applyAll (UpdateStep.ofText ((expressionOf assignments).getD ""))
      (bindingsOf assignments) start = .ok row) :
    column.SavedAs values (start.find? column.attributeName)
      (row.find? column.attributeName) := by
  unfold Column.SavedAs
  cases hValue : values.find? column.name with
  | none =>
    refine UpdateStep.find?_of_applyAll_of_untouched hApply fun step hStep hName => ?_
    obtain ⟨assignment, hAssignment, rfl⟩ := mem_ofText_expressionOf.mp hStep
    rw [hAssigns.target?_step hAssignment, Option.some.injEq] at hName
    -- a step about the attribute would be that of the column, which has no entry
    have hColumn :=
      List.inj_on_of_nodup_map hDistinct (hAssigns.mem_columns hAssignment) hMem hName
    obtain ⟨value, hEntry, _⟩ := hAssigns.encoded assignment hAssignment
    rw [hColumn, hValue] at hEntry
    cases hEntry
  | some value =>
    obtain ⟨assignment, hAssignment, rfl, hCell⟩ := hAssigns.exists_assignment hMem hValue
    have hRow := hAssigns.find?_of_applyAll hDistinct hAssignment hApply
    have hNull := Column.isNull_of_encode hCell
    have hHolds : start.holds assignment.column.attributeName =
        (start.find? assignment.column.attributeName).any (!·.isBlank) := by
      unfold Item.holds
      cases start.find? assignment.column.attributeName <;> rfl
    rw [hRow, ← hHolds]
    cases hStored : assignment.cell with
    | none => simp [hNull, hStored]
    | some cell =>
      rw [hStored] at hCell hNull
      by_cases hKept : assignment.column.name = "created_at" ∧
          start.holds assignment.column.attributeName = true
      · simp [hNull, hKept]
      · simp [hNull, hKept, hCell]

/-- A column that is saved where nothing was holds what the record stores by it. -/
theorem stored?_of_savedAs {new : Option Cell} (hSaved : column.SavedAs values none new)
    (hStorable : Storable values column) :
    new = stored? values column.attributeName column := by
  unfold Column.SavedAs at hSaved
  cases hValue : values.find? column.name with
  | none =>
    rw [hValue] at hSaved
    simpa [stored?, hValue] using hSaved
  | some value =>
    rw [hValue] at hSaved
    obtain ⟨stored, hStored⟩ := hStorable value hValue
    have hNull := Column.isNull_of_encode hStored
    rw [stored?_of_encode hValue hStored]
    cases stored with
    | none => simpa [hNull] using hSaved
    | some cell =>
      have hCell : ∃ other, column.encode value = .ok (some other) ∧ new = some other := by
        simpa [hNull] using hSaved
      obtain ⟨other, hOther, rfl⟩ := hCell
      rw [hStored] at hOther
      exact (Except.ok.inj hOther).symm

section Keys

variable {layout : Layout}

/-- The key of a request has a text under every primary key attribute. -/
theorem exists_keyText?_of_encodeKey (hFits : schema.Fits layout) (hKeys : schema.HasKeys values)
    (hKey : schema.encodeKey values = .ok keyItem) {name : String}
    (hName : layout.isPrimary name = true) : ∃ text, keyItem.keyText? name = some text := by
  refine exists_keyText?_of_foldlM_encodeColumn hKey ((hFits.keys name).mp hName) ?_
  intro column hMem
  obtain ⟨value, cell, text, hValue, hStored, hText, hFilled⟩ := hKeys column hMem
  exact ⟨cell, text, stored?_of_encode hValue hStored, hText, hFilled⟩

/-- The key of a request has no other attribute. -/
theorem find?_of_encodeKey_of_not_primary (hFits : schema.Fits layout)
    (hKey : schema.encodeKey values = .ok keyItem) {name : String}
    (hName : layout.isPrimary name = false) : keyItem.find? name = none := by
  refine find?_of_foldlM_encodeColumn_of_untouched hKey fun column hMem hSame => ?_
  rw [(hFits.keys name).mpr ⟨column, hMem, hSame⟩] at hName
  exact Bool.noConfusion hName

/-- A save under a key where there was no row leaves the row of the record. -/
theorem Assigns.eq_of_fresh (hAssigns : Assigns values 0 schema.allColumns assignments)
    (hFits : schema.Fits layout) (hKey : schema.encodeKey values = .ok keyItem)
    (hApply : UpdateStep.applyAll (UpdateStep.ofText ((expressionOf assignments).getD ""))
      (bindingsOf assignments) keyItem.withoutBlanks = .ok row) :
    ∃ item, schema.encode values = .ok item ∧ row = item.withoutBlanks := by
  have hStorable : ∀ column ∈ schema.allColumns, Storable values column := by
    intro column hMem value hValue
    obtain ⟨assignment, _, _, hStored⟩ := hAssigns.exists_assignment hMem hValue
    exact ⟨assignment.cell, hStored⟩
  obtain ⟨item, hItem⟩ :=
    (exists_foldlM_encodeColumn_eq_ok_iff schema.allColumns keyItem).mpr hStorable
  refine ⟨item, ?_, NameMap.ext_find? fun name => ?_⟩
  · unfold encode
    rw [List.foldlM_append]
    exact (bind_ok hKey _).trans hItem
  -- the row of the record starts from the same key and stores the columns over it
  by_cases hName : ∃ column ∈ schema.allColumns, column.attributeName = name
  · obtain ⟨column, hMem, rfl⟩ := hName
    have hNone := find?_of_encodeKey_of_not_primary hFits hKey (hFits.apart column hMem)
    have hSaved := hAssigns.savedAs hFits.distinct hMem hApply
    unfold Item.withoutBlanks at hSaved ⊢
    rw [NameMap.find?_keep, hNone] at hSaved
    rw [stored?_of_savedAs hSaved (hStorable column hMem), NameMap.find?_keep,
      find?_of_foldlM_encodeColumn_of_nodup hItem hFits.distinct hMem, hNone, Option.or_none]
    cases hStored : stored? values column.attributeName column with
    | none => rfl
    | some cell => simp [Option.filter, isBlank_of_stored? hStored]
  · have hOthers : ∀ column ∈ schema.allColumns, column.attributeName ≠ name :=
      fun column hMem hSame => hName ⟨column, hMem, hSame⟩
    have hUntouched := hAssigns.find?_of_applyAll_of_not_mem hApply hOthers
    have hItemName : item.find? name = keyItem.find? name :=
      find?_of_foldlM_encodeColumn_of_untouched hItem hOthers
    unfold Item.withoutBlanks at hUntouched ⊢
    rw [hUntouched, NameMap.find?_keep, NameMap.find?_keep, hItemName]

end Keys

end Schema

namespace Table

variable {schema : Schema} {values : Values} {table : Table} {keyItem row : Item} {key : Key}
  {assignments : List Schema.Assignment}

/-- The steps of a save can be carried out on a table. -/
theorem exists_updateByExpression_eq_ok
    (hAssigns : Schema.Assigns values 0 schema.allColumns assignments)
    (hFits : schema.Fits table.layout) (hKey : table.primaryKey keyItem = .ok key) :
    ∃ row, UpdateStep.applyAll (UpdateStep.ofText ((Schema.expressionOf assignments).getD ""))
        (Schema.bindingsOf assignments) (table.startOf key keyItem) = .ok row ∧
      table.updateByExpression keyItem ((Schema.expressionOf assignments).getD "")
        (Schema.bindingsOf assignments) = .ok (row, table.put key row) := by
  have hResolves : ∀ step ∈ UpdateStep.ofText ((Schema.expressionOf assignments).getD ""),
      step.Resolves (Schema.bindingsOf assignments) := by
    intro step hStep
    obtain ⟨assignment, hMem, rfl⟩ := Schema.mem_ofText_expressionOf.mp hStep
    exact hAssigns.resolves_step hMem
  have hChecks : ∀ step ∈ UpdateStep.ofText ((Schema.expressionOf assignments).getD ""),
      table.checkTarget (Schema.bindingsOf assignments) step = .ok () := by
    intro step hStep
    obtain ⟨assignment, hMem, rfl⟩ := Schema.mem_ofText_expressionOf.mp hStep
    rw [checkTarget_eq_ok_iff, Schema.Assignment.name_step]
    exact ⟨_, hAssigns.name_bindingsOf hMem, hFits.apart _ (hAssigns.mem_columns hMem)⟩
  obtain ⟨row, hRow⟩ :=
    (UpdateStep.exists_applyAll_eq_ok_iff (table.startOf key keyItem)).mpr hResolves
  exact ⟨row, hRow, updateByExpression_eq_ok_iff.mpr ⟨key, hKey, hChecks, hRow, rfl⟩⟩

/-- What the steps of a save leave in a table. -/
theorem saved_put (hAssigns : Schema.Assigns values 0 schema.allColumns assignments)
    (hFits : schema.Fits table.layout) (hKeyItem : schema.encodeKey values = .ok keyItem)
    (hRow : UpdateStep.applyAll (UpdateStep.ofText ((Schema.expressionOf assignments).getD ""))
      (Schema.bindingsOf assignments) (table.startOf key keyItem) = .ok row) :
    Saved schema values key table (table.put key row) row where
  layout := layout_put table key row
  found := by simp
  others := by
    intro other hOther
    simp [Ne.symm hOther]
  columns := by
    intro column hMem
    -- a row that is not there yet starts from the key alone, which has no such attribute
    have hStart : (table.startOf key keyItem).find? column.attributeName =
        (table.get? key).bind (·.find? column.attributeName) := by
      unfold startOf
      cases table.get? key with
      | some old => rfl
      | none =>
        have hNone := Schema.find?_of_encodeKey_of_not_primary hFits hKeyItem
          (hFits.apart column hMem)
        simp [Item.withoutBlanks, hNone]
    rw [← hStart]
    exact hAssigns.savedAs hFits.distinct hMem hRow
  rest := by
    intro old hOld name hName
    have hStart : table.startOf key keyItem = old := by
      simp [startOf, hOld]
    rw [hStart] at hRow
    exact hAssigns.find?_of_applyAll_of_not_mem hRow hName
  fresh := by
    intro hNone
    have hStart : table.startOf key keyItem = keyItem.withoutBlanks := by
      simp [startOf, hNone]
    rw [hStart] at hRow
    exact hAssigns.eq_of_fresh hFits hKeyItem hRow

/-- Carrying out the request that saves a record succeeds and saves the record. -/
theorem updateItem_saves_record {tableName : String} {request : UpdateRequest}
    (hFits : schema.Fits table.layout) (hKeys : schema.HasKeys values)
    (hRequest : schema.updateRequest tableName values = .ok request) :
    ∃ key row next, table.primaryKey request.key = .ok key ∧
      table.updateItem request = .ok ({ attributes := row }, next) ∧
      Saved schema values key table next row := by
  unfold Schema.updateRequest at hRequest
  simp only [bind_eq_ok_iff, pure_eq_ok_iff] at hRequest
  obtain ⟨keyItem, hKeyItem, assignments, hAssignments, rfl⟩ := hRequest
  have hAssigns := Schema.assigns_of_assignmentsFrom hAssignments
  obtain ⟨key, hKey⟩ := exists_primaryKey_eq_ok fun name hName =>
    Schema.exists_keyText?_of_encodeKey hFits hKeys hKeyItem hName
  obtain ⟨row, hRow, hUpdate⟩ := exists_updateByExpression_eq_ok hAssigns hFits hKey
  refine ⟨key, row, table.put key row, hKey, ?_, saved_put hAssigns hFits hKeyItem hRow⟩
  unfold updateItem
  rw [hUpdate]
  rfl

end Table

/-! An update of a user who is there already, with a column to set, one to remove and
one to keep. -/

namespace Schema

/-- A kind of record with two columns of its own. -/
def user : Schema where
  partition := .keyed "id" .partition "user:"
  sort := some (.keyed "part" .sort "profile")
  columns := [.plain "name" .string, .plain "nick" .string]

/-- A record of the kind. -/
def ada : Values :=
  .ofList [("id", .string "user:1"), ("part", .string "profile"), ("name", .string "Ada"),
    ("nick", .null), ("created_at", .string "2024-05-01T00:00:00Z")]

theorem fits_user : user.Fits {} where
  keys name := by
    simp only [Layout.isPrimary, keyColumns, user, Column.keyed, Column.indexed,
      Column.attributeName, Role.usualName]
    simp only [Bool.or_eq_true, beq_iff_eq, Option.some.injEq, Option.getD_some,
      Option.toList_some, List.mem_cons, List.not_mem_nil, or_false, exists_eq_or_imp,
      exists_eq_left]
    exact or_congr eq_comm Iff.rfl
  distinct := by decide
  apart := by decide

theorem hasKeys_ada : user.HasKeys ada := by
  intro column hMem
  rcases List.mem_cons.mp hMem with rfl | hSort
  · exact ⟨_, _, _, rfl, rfl, rfl, by decide⟩
  · rw [List.mem_singleton.mp hSort]
    exact ⟨_, _, _, rfl, rfl, rfl, by decide⟩

end Schema

/-- A table with a row of the user. -/
def Table.ofUser : Table :=
  (empty {}).put ⟨"user:1", some "profile"⟩
    (.ofList [("pk", .string "user:1"), ("sk", .string "profile"), ("nick", .string "A"),
      ("created_at", .string "2020-01-01T00:00:00Z")])

theorem Table.updateItem_saves_ada :
    ∃ request key row next, Schema.user.updateRequest "users" Schema.ada = .ok request ∧
      ofUser.primaryKey request.key = .ok key ∧
      ofUser.updateItem request = .ok ({ attributes := row }, next) ∧
      Saved Schema.user Schema.ada key ofUser next row := by
  obtain ⟨request, hRequest⟩ :
      ∃ request, Schema.user.updateRequest "users" Schema.ada = .ok request := ⟨_, rfl⟩
  obtain ⟨key, row, next, hSaved⟩ :=
    @updateItem_saves_record Schema.user Schema.ada ofUser "users" request
      Schema.fits_user Schema.hasKeys_ada hRequest
  exact ⟨request, key, row, next, hRequest, hSaved⟩

end SingleTable
