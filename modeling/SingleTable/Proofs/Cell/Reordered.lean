import SingleTable.Proofs.Json.Record

/-!
# Cells read in every order

A cell is read from its JSON in whatever order this lists the members of maps, at any depth,
and so is an item.
-/

namespace SingleTable

open Json Outcome

namespace Cell

mutual

/-- A cell is read from its JSON in every order. -/
theorem ofJson_of_sameUpToOrder : (cell : Cell) → cell.Ordered → {other : Json} →
    other.SameUpToOrder cell.toJson → ofJson other = .ok cell
  | .string _, _, other, hSame | .number _, _, other, hSame | .bool _, _, other, hSame => by
    obtain ⟨_, rfl, ⟨⟩⟩ := SameUpToOrder.exists_payload hSame
    rfl
  | .binary bytes, hOrdered, other, hSame => by
    obtain ⟨_, rfl, ⟨⟩⟩ := SameUpToOrder.exists_payload hSame
    exact ofJson_toJson (.binary bytes) hOrdered
  | .stringSet texts, hOrdered, other, hSame => by
    obtain ⟨_, rfl, hTexts⟩ := SameUpToOrder.exists_payload hSame
    rw [hTexts.eq_ofTexts]
    exact ofJson_toJson (.stringSet texts) hOrdered
  | .numberSet texts, hOrdered, other, hSame => by
    obtain ⟨_, rfl, hTexts⟩ := SameUpToOrder.exists_payload hSame
    rw [hTexts.eq_ofTexts]
    exact ofJson_toJson (.numberSet texts) hOrdered
  | .binarySet all, hOrdered, other, hSame => by
    obtain ⟨_, rfl, hTexts⟩ := SameUpToOrder.exists_payload hSame
    rw [hTexts.eq_ofTexts]
    exact ofJson_toJson (.binarySet all) hOrdered
  | .list cells, hOrdered, other, hSame => by
    obtain ⟨_, rfl, hPayload⟩ := SameUpToOrder.exists_payload hSame
    obtain ⟨items, rfl, hItems⟩ := hPayload.exists_items
    have hCells := ofItems_of_sameUpToOrder cells hOrdered hItems
    exact (ofJson_record .list _).trans (ofPayload_list_iff.mpr ⟨items, cells, rfl, hCells, rfl⟩)
  | .map entries, hOrdered, other, hSame => by
    obtain ⟨_, rfl, hPayload⟩ := SameUpToOrder.exists_payload hSame
    obtain ⟨members, middle, rfl, hOrder, hMembers⟩ := hPayload.exists_members
    have hMiddle := ofMembers_of_sameMembers entries hOrdered.2 hMembers
    obtain ⟨found, hFound, hPerm⟩ := List.perm_comp_forall₂ hOrder hMiddle
    refine (ofJson_record .map _).trans (ofPayload_map_iff.mpr ⟨members, found, rfl, ?_, ?_⟩)
    · exact ofMembers_eq_ok_iff.mpr hFound
    · have hMap := @NameMap.ofList_of_perm Cell found ⟨entries, hOrdered.1⟩ hPerm
      exact congrArg (fun map => Cell.map map.entries) hMap.symm

theorem ofItems_of_sameUpToOrder : (cells : List Cell) → OrderedCells cells →
    {items : List Json} → List.Forall₂ SameUpToOrder items (toJsonCells cells) →
    ofItems items = .ok cells
  | [], _, items, hItems => by
    cases hItems
    rfl
  | cell :: rest, hOrdered, items, hItems => by
    obtain ⟨item, others, hItem, hOthers, rfl⟩ := List.forall₂_cons_right_iff.mp hItems
    rw [ofItems, bind_ok (ofJson_of_sameUpToOrder cell hOrdered.1 hItem),
      bind_ok (ofItems_of_sameUpToOrder rest hOrdered.2 hOthers)]
    rfl

theorem ofMembers_of_sameMembers : (entries : List (String × Cell)) → OrderedEntries entries →
    {members : List (String × Json)} →
    List.Forall₂ SameMember members (toJsonEntries entries) →
    List.Forall₂ (fun member entry => member.1 = entry.1 ∧ ofJson member.2 = .ok entry.2)
      members entries
  | [], _, members, hMembers => by
    cases hMembers
    exact .nil
  | (name, cell) :: rest, hOrdered, members, hMembers => by
    obtain ⟨member, others, hMember, hOthers, rfl⟩ := List.forall₂_cons_right_iff.mp hMembers
    cases hMember with
    | named _ hValue =>
      exact .cons ⟨rfl, ofJson_of_sameUpToOrder cell hOrdered.1 hValue⟩
        (ofMembers_of_sameMembers rest hOrdered.2 hOthers)

end

theorem printable_toJson {cell : Cell} (hOrdered : cell.Ordered) : cell.toJson.Printable :=
  printable_of_isWire (exists_ofJson_iff.mp ⟨cell, ofJson_toJson cell hOrdered⟩)

theorem reads_toJson {cell : Cell} (hOrdered : cell.Ordered) :
    Decoder.Reads ofJson cell.toJson cell where
  printable := printable_toJson hOrdered
  read _ hSame := ofJson_of_sameUpToOrder cell hOrdered hSame

end Cell

namespace Item

/-- Names are strictly ascending in every map inside the item. -/
def Ordered (item : Item) : Prop :=
  ∀ entry ∈ item.entries, entry.2.Ordered

theorem toJson_eq_ofMap (item : Item) : item.toJson = Json.ofMap Cell.toJson item := by
  rw [toJson, Cell.toJsonEntries_eq_map]
  rfl

/-- An item is read from its JSON in every order. -/
theorem reads_toJson {item : Item} (hOrdered : item.Ordered) :
    Decoder.Reads ofJson item.toJson item := by
  rw [toJson_eq_ofMap]
  exact Decoder.reads_members fun entry hMem => Cell.reads_toJson (hOrdered entry hMem)

end Item

end SingleTable
