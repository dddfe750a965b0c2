import Mathlib.Data.List.Forall2
import SingleTable.Cell.Wire
import SingleTable.Proofs.Json.ReadBack
import SingleTable.Proofs.Outcome
import SingleTable.Proofs.Text.Base64

/-!
# Wire forms of cells

The JSON that cells are written as has a grammar of its own, `Json.IsWire`.  A cell is read
back from its JSON, what is read is exactly what the grammar allows, and the JSON of what
was read is the one that it was read from, up to the order in which maps list their
members.  The same holds of texts, as far as no more than `Json.maxDepth` containers in them
stand inside one another.
-/

namespace SingleTable

open Outcome

namespace Json

/-- The JSON that stands for a cell: an object with one member, which is named by a tag and
has the shape of that tag's payload. -/
inductive IsWire : Json → Prop where
  | string (text : String) : IsWire (.record [("S", .string text)])
  | number (text : String) : IsWire (.record [("N", .string text)])
  | bool (value : Bool) : IsWire (.record [("BOOL", .bool value)])
  | binary {text : String} (hStrict : Text.Base64.Strict text.toList) :
    IsWire (.record [("B", .string text)])
  | stringSet (texts : List String) : IsWire (.record [("SS", .ofTexts texts)])
  | numberSet (texts : List String) : IsWire (.record [("NS", .ofTexts texts)])
  | binarySet {texts : List String}
    (hStrict : ∀ text ∈ texts, Text.Base64.Strict text.toList) :
    IsWire (.record [("BS", .ofTexts texts)])
  | list {items : List Json} (hItems : ∀ item ∈ items, item.IsWire) :
    IsWire (.record [("L", .array items)])
  | map {members : List (String × Json)} (hMembers : ∀ member ∈ members, member.2.IsWire) :
    IsWire (.record [("M", .record members)])

/-- Some object in the value, at any depth, has two members of one name. -/
inductive RepeatsName : Json → Prop where
  | here {members : List (String × Json)} {ending : Ending}
    (hNames : ¬(members.map Prod.fst).Nodup) : RepeatsName (.object members ending)
  | member {name : String} {value : Json} {members : List (String × Json)} {ending : Ending}
    (hMem : (name, value) ∈ members) (hValue : value.RepeatsName) :
    RepeatsName (.object members ending)
  | item {item : Json} {items : List Json} (hMem : item ∈ items) (hItem : item.RepeatsName) :
    RepeatsName (.array items)

mutual

/-- The values differ at most in the order of the members of their objects. -/
inductive SameUpToOrder : Json → Json → Prop where
  | refl (json : Json) : SameUpToOrder json json
  | array {items others : List Json} (hItems : List.Forall₂ SameUpToOrder items others) :
    SameUpToOrder (.array items) (.array others)
  | object {members middle others : List (String × Json)} {ending : Ending}
    (hOrder : members.Perm middle) (hMembers : List.Forall₂ SameMember middle others) :
    SameUpToOrder (.object members ending) (.object others ending)

/-- The members have one name, and their values differ at most in the order of members. -/
inductive SameMember : String × Json → String × Json → Prop where
  | named (name : String) {value other : Json} (hValue : value.SameUpToOrder other) :
    SameMember (name, value) (name, other)

end

end Json

theorem Tag.text_of_ofText? {name : String} {tag : Tag} (hTag : ofText? name = some tag) :
    tag.text = name := by
  simpa using List.find?_some hTag

/-- Partners for all members of a list make up a list. -/
theorem exists_forall₂_iff {α β : Type} {Related : α → β → Prop} {items : List α} :
    (∃ partners, List.Forall₂ Related items partners) ↔ ∀ item ∈ items, ∃ b, Related item b := by
  induction items with
  | nil => simp
  | cons item rest ih =>
    rw [List.forall_mem_cons, ← ih]
    constructor
    · rintro ⟨_, _ | ⟨hItem, hRest⟩⟩
      exact ⟨⟨_, hItem⟩, ⟨_, hRest⟩⟩
    · rintro ⟨⟨b, hItem⟩, ⟨partners, hRest⟩⟩
      exact ⟨b :: partners, .cons hItem hRest⟩

theorem exists_of_mem_partners {α β : Type} {Related : α → β → Prop} {items : List α}
    {partners : List β} (hEach : List.Forall₂ Related items partners) {b : β}
    (hMem : b ∈ partners) : ∃ item, Related item b := by
  induction hEach with
  | nil => cases hMem
  | cons hItem _ ih =>
    rcases List.mem_cons.mp hMem with rfl | hRest
    · exact ⟨_, hItem⟩
    · exact ih hRest

theorem Json.sizeOf_item_lt {item : Json} {items : List Json} (hMem : item ∈ items) :
    sizeOf item < sizeOf (Json.array items) := by
  have hItem := List.sizeOf_lt_of_mem hMem
  rw [array.sizeOf_spec]
  omega

theorem Json.sizeOf_member_lt {member : String × Json} {members : List (String × Json)}
    {ending : Ending} (hMem : member ∈ members) :
    sizeOf member.2 < sizeOf (Json.object members ending) := by
  have hMember := List.sizeOf_lt_of_mem hMem
  have hValue : sizeOf member = 1 + sizeOf member.1 + sizeOf member.2 := rfl
  rw [object.sizeOf_spec]
  omega

namespace Json.Decoder

theorem text_eq_ok_iff {json : Json} {content : String} :
    text json = .ok content ↔ json = .string content := by
  cases json <;> simp [text]

theorem bool_eq_ok_iff {json : Json} {value : Bool} :
    bool json = .ok value ↔ json = .bool value := by
  cases json <;> simp [bool]

theorem items_text_eq_ok_iff {json : Json} {texts : List String} :
    items text json = .ok texts ↔ json = .ofTexts texts := by
  cases json with
  | array items =>
    show items.mapM text = .ok texts ↔ _
    rw [mapM_eq_ok_iff_map fun _ _ => text_eq_ok_iff]
    simp [ofTexts]
  | _ => simp [items, ofTexts]

end Json.Decoder

namespace Cell

open Json

theorem ofBase64_eq_ok_iff_decode {text : String} {bytes : Bytes} :
    ofBase64 text = .ok bytes ↔ Text.Base64.decode? text.toList = some bytes := by
  unfold ofBase64
  split <;> simp [*]

theorem ofBase64_eq_ok_iff {text : String} {bytes : Bytes} :
    ofBase64 text = .ok bytes ↔ text = base64 bytes := by
  rw [ofBase64_eq_ok_iff_decode, Text.Base64.decode?_eq_some_iff, base64, String.ext_iff,
    String.toList_ofList]

theorem exists_ofBase64_iff {text : String} :
    (∃ bytes, ofBase64 text = .ok bytes) ↔ Text.Base64.Strict text.toList := by
  simp only [ofBase64_eq_ok_iff_decode, Text.Base64.exists_decode?_iff]

/-- An object is read by the payload of its only member. -/
theorem ofJson_record (tag : Tag) (payload : Json) :
    ofJson (.record [(tag.text, payload)]) = ofPayload tag payload := by
  rw [ofJson]
  simp only [Tag.ofText?_text]
  cases ofPayload tag payload <;> rfl

/-- Only an object with one member, which is named by a tag, is read. -/
theorem exists_record_of_ofJson {json : Json} {cell : Cell} (hRead : ofJson json = .ok cell) :
    ∃ (tag : Tag) (payload : Json), json = .record [(tag.text, payload)] ∧
      ofPayload tag payload = .ok cell := by
  cases json with
  | object members ending =>
    cases members with
    | nil => cases ending <;> cases hRead
    | cons member rest =>
      obtain ⟨name, payload⟩ := member
      rw [ofJson] at hRead
      cases hTag : Tag.ofText? name with
      | none =>
        rw [hTag] at hRead
        cases hRead
      | some tag =>
        rw [hTag] at hRead
        simp only [bind_eq_ok_iff] at hRead
        obtain ⟨read, hPayload, hEnd⟩ := hRead
        cases rest with
        | cons other others => cases hEnd
        | nil =>
          cases ending with
          | unreadable skippable => cases hEnd
          | closed =>
            cases hEnd
            exact ⟨tag, payload, by rw [Tag.text_of_ofText? hTag], hPayload⟩
  | _ =>
    rw [ofJson] at hRead
    · cases hRead
    all_goals simp

section Read

variable {json : Json} {cell : Cell}

theorem ofPayload_list_iff :
    ofPayload .list json = .ok cell ↔
      ∃ items cells, json = .array items ∧ ofItems items = .ok cells ∧ cell = .list cells := by
  cases json with
  | array items =>
    rw [ofPayload, map_eq_ok_iff]
    simp [eq_comm]
  | _ => simp [ofPayload]

theorem ofPayload_map_iff :
    ofPayload .map json = .ok cell ↔
      ∃ members entries, json = .record members ∧ ofMembers members = .ok entries ∧
        cell = .map (Entries.ofList entries) := by
  cases json with
  | object members ending =>
    rw [ofPayload, bind_eq_ok_iff]
    cases ending with
    | closed =>
      constructor
      · rintro ⟨entries, hEntries, ⟨⟩⟩
        exact ⟨members, entries, rfl, hEntries, rfl⟩
      · rintro ⟨_, entries, ⟨⟩, hEntries, rfl⟩
        exact ⟨entries, hEntries, rfl⟩
    | unreadable skippable =>
      refine iff_of_false ?_ (by simp)
      rintro ⟨_, _, ⟨⟩⟩
  | _ => simp [ofPayload]

/-- The items of a list are read one by one. -/
theorem ofItems_eq_ok_iff {items : List Json} {cells : List Cell} :
    ofItems items = .ok cells ↔
      List.Forall₂ (fun item cell => ofJson item = .ok cell) items cells := by
  induction items generalizing cells with
  | nil => simp [ofItems, eq_comm]
  | cons item rest ih =>
    rw [ofItems]
    simp only [bind_eq_ok_iff, pure_eq_ok_iff, ih, List.forall₂_cons_left_iff]
    constructor
    · rintro ⟨cell, hCell, others, hOthers, rfl⟩
      exact ⟨cell, others, hCell, hOthers, rfl⟩
    · rintro ⟨cell, others, hCell, hOthers, rfl⟩
      exact ⟨cell, hCell, others, hOthers, rfl⟩

/-- The members of a map are read one by one. -/
theorem ofMembers_eq_ok_iff {members : List (String × Json)} {entries : List (String × Cell)} :
    ofMembers members = .ok entries ↔ List.Forall₂ (fun member entry =>
      member.1 = entry.1 ∧ ofJson member.2 = .ok entry.2) members entries := by
  induction members generalizing entries with
  | nil => simp [ofMembers, eq_comm]
  | cons member rest ih =>
    obtain ⟨name, value⟩ := member
    rw [ofMembers]
    simp only [bind_eq_ok_iff, pure_eq_ok_iff, ih, List.forall₂_cons_left_iff]
    constructor
    · rintro ⟨cell, hCell, others, hOthers, rfl⟩
      exact ⟨(name, cell), others, ⟨rfl, hCell⟩, hOthers, rfl⟩
    · rintro ⟨⟨_, cell⟩, others, ⟨rfl, hCell⟩, hOthers, rfl⟩
      exact ⟨cell, hCell, others, hOthers, rfl⟩

theorem exists_ofItems_iff {items : List Json} :
    (∃ cells, ofItems items = .ok cells) ↔ ∀ item ∈ items, ∃ cell, ofJson item = .ok cell := by
  simp only [ofItems_eq_ok_iff, exists_forall₂_iff]

theorem exists_ofMembers_iff {members : List (String × Json)} :
    (∃ entries, ofMembers members = .ok entries) ↔
      ∀ member ∈ members, ∃ cell, ofJson member.2 = .ok cell := by
  simp only [ofMembers_eq_ok_iff, exists_forall₂_iff]
  simp

/-- A payload that is read has the shape of its tag, if what is read inside it has. -/
theorem isWire_of_ofPayload {tag : Tag} (hRead : ofPayload tag json = .ok cell)
    (hItems : ∀ items, json = .array items → ∀ item ∈ items, (∃ cell, ofJson item = .ok cell) →
      item.IsWire)
    (hMembers : ∀ members, json = .record members → ∀ member ∈ members,
      (∃ cell, ofJson member.2 = .ok cell) → member.2.IsWire) :
    (Json.record [(tag.text, json)]).IsWire := by
  have hStrict : ∀ bytes, Text.Base64.Strict (base64 bytes).toList :=
    fun bytes => exists_ofBase64_iff.mp ⟨bytes, ofBase64_eq_ok_iff.mpr rfl⟩
  cases tag with
  | string | number | bool | stringSet | numberSet =>
    simp only [ofPayload, map_eq_ok_iff, Decoder.text_eq_ok_iff, Decoder.bool_eq_ok_iff,
      Decoder.items_text_eq_ok_iff] at hRead
    obtain ⟨_, rfl, _⟩ := hRead
    constructor
  | binary =>
    simp only [ofPayload, bind_eq_ok_iff, pure_eq_ok_iff, Decoder.text_eq_ok_iff,
      ofBase64_eq_ok_iff] at hRead
    obtain ⟨_, rfl, bytes, rfl, _⟩ := hRead
    exact .binary (hStrict bytes)
  | binarySet =>
    simp only [ofPayload, bind_eq_ok_iff, pure_eq_ok_iff, Decoder.items_text_eq_ok_iff,
      mapM_eq_ok_iff_map fun _ _ => ofBase64_eq_ok_iff] at hRead
    obtain ⟨_, rfl, all, rfl, _⟩ := hRead
    apply IsWire.binarySet
    intro text hMem
    obtain ⟨bytes, _, rfl⟩ := List.mem_map.mp hMem
    exact hStrict bytes
  | list =>
    obtain ⟨items, cells, rfl, hCells, _⟩ := ofPayload_list_iff.mp hRead
    have hEach := exists_ofItems_iff.mp ⟨cells, hCells⟩
    exact .list fun item hMem => hItems items rfl item hMem (hEach item hMem)
  | map =>
    obtain ⟨members, entries, rfl, hEntries, _⟩ := ofPayload_map_iff.mp hRead
    have hEach := exists_ofMembers_iff.mp ⟨entries, hEntries⟩
    exact .map fun member hMem => hMembers members rfl member hMem (hEach member hMem)

/-- What is read is a wire form. -/
theorem isWire_of_ofJson (json : Json) (cell : Cell) (hRead : ofJson json = .ok cell) :
    json.IsWire := by
  -- items and members stand two levels below the object, so the recursion is on size
  obtain ⟨tag, payload, hJson, hPayload⟩ := exists_record_of_ofJson hRead
  have hSize : sizeOf payload < sizeOf json := by
    rw [hJson]
    exact @Json.sizeOf_member_lt (tag.text, payload) _ _ List.mem_cons_self
  rw [hJson]
  refine isWire_of_ofPayload hPayload ?_ ?_
  · rintro items rfl item hMem ⟨part, hPart⟩
    have hItem := Nat.lt_trans (Json.sizeOf_item_lt hMem) hSize
    exact isWire_of_ofJson item part hPart
  · rintro members rfl member hMem ⟨part, hPart⟩
    have hMember := Nat.lt_trans (Json.sizeOf_member_lt hMem) hSize
    exact isWire_of_ofJson member.2 part hPart
termination_by sizeOf json

end Read

/-- A JSON value is read as a cell whose own JSON is the same up to the order of members. -/
structure ReadsAs (json : Json) (cell : Cell) : Prop where
  read : ofJson json = .ok cell
  ordered : cell.Ordered
  same : ¬json.RepeatsName → cell.toJson.SameUpToOrder json

theorem orderedCells_iff {cells : List Cell} :
    OrderedCells cells ↔ ∀ cell ∈ cells, cell.Ordered := by
  induction cells with
  | nil => simp [OrderedCells]
  | cons cell rest ih => simp [OrderedCells, ih]

theorem orderedEntries_iff {entries : List (String × Cell)} :
    OrderedEntries entries ↔ ∀ entry ∈ entries, entry.2.Ordered := by
  induction entries with
  | nil => simp [OrderedEntries]
  | cons entry rest ih => simp [OrderedEntries, ih]

theorem toJsonCells_eq_map (cells : List Cell) : toJsonCells cells = cells.map toJson := by
  induction cells with
  | nil => rfl
  | cons cell rest ih => rw [toJsonCells, ih, List.map_cons]

/-- The member of a map's JSON for an entry. -/
def toMember (entry : String × Cell) : String × Json :=
  (entry.1, entry.2.toJson)

theorem toJsonEntries_eq_map (entries : List (String × Cell)) :
    toJsonEntries entries = entries.map toMember := by
  induction entries with
  | nil => rfl
  | cons entry rest ih => rw [toJsonEntries, ih, List.map_cons, toMember]

mutual

/-- The JSON of a cell is read as the cell. -/
theorem ofJson_toJson : (cell : Cell) → cell.Ordered → ofJson cell.toJson = .ok cell
  | .string _, _ => rfl
  | .number _, _ => rfl
  | .bool _, _ => rfl
  | .binary bytes, _ => by
    apply (ofJson_record .binary _).trans
    simp [ofPayload, Decoder.text_eq_ok_iff, ofBase64_eq_ok_iff]
  | .stringSet texts, _ => by
    apply (ofJson_record .stringSet _).trans
    simp [ofPayload, Decoder.items_text_eq_ok_iff]
  | .numberSet texts, _ => by
    apply (ofJson_record .numberSet _).trans
    simp [ofPayload, Decoder.items_text_eq_ok_iff]
  | .binarySet all, _ => by
    apply (ofJson_record .binarySet _).trans
    simp [ofPayload, Decoder.items_text_eq_ok_iff,
      mapM_eq_ok_iff_map fun _ _ => ofBase64_eq_ok_iff]
  | .list cells, hOrdered =>
    (ofJson_record .list _).trans
      (ofPayload_list_iff.mpr ⟨_, cells, rfl, ofItems_toJsonCells cells hOrdered, rfl⟩)
  | .map entries, hOrdered => by
    have hEntries := ofMembers_toJsonEntries entries hOrdered.2
    refine (ofJson_record .map _).trans (ofPayload_map_iff.mpr ⟨_, entries, rfl, hEntries, ?_⟩)
    rw [Entries.ofList_of_ascending hOrdered.1]

theorem ofItems_toJsonCells : (cells : List Cell) → OrderedCells cells →
    ofItems (toJsonCells cells) = .ok cells
  | [], _ => rfl
  | cell :: rest, hOrdered => by
    rw [toJsonCells, ofItems, bind_ok (ofJson_toJson cell hOrdered.1),
      bind_ok (ofItems_toJsonCells rest hOrdered.2)]
    rfl

theorem ofMembers_toJsonEntries : (entries : List (String × Cell)) → OrderedEntries entries →
    ofMembers (toJsonEntries entries) = .ok entries
  | [], _ => rfl
  | (name, cell) :: rest, hOrdered => by
    rw [toJsonEntries, ofMembers, bind_ok (ofJson_toJson cell hOrdered.1),
      bind_ok (ofMembers_toJsonEntries rest hOrdered.2)]
    rfl

end

theorem readsAs_toJson (cell : Cell) (hOrdered : cell.Ordered) : ReadsAs cell.toJson cell where
  read := ofJson_toJson cell hOrdered
  ordered := hOrdered
  same _ := .refl _

/-- The tag of a wire form stands in front of its payload. -/
theorem sameUpToOrder_record {name : String} {payload other : Json}
    (hPayload : payload.SameUpToOrder other) :
    (Json.record [(name, payload)]).SameUpToOrder (.record [(name, other)]) :=
  .object (.refl _) (.cons (.named name hPayload) .nil)

theorem not_repeatsName_payload {name : String} {payload : Json}
    (hNames : ¬(Json.record [(name, payload)]).RepeatsName) : ¬payload.RepeatsName :=
  fun hBad => hNames (.member List.mem_cons_self hBad)

theorem readsAs_list {items : List Json} {cells : List Cell}
    (hEach : List.Forall₂ (fun item cell => item ∈ items ∧ ReadsAs item cell) items cells) :
    ReadsAs (.record [("L", .array items)]) (.list cells) where
  read := by
    refine (ofJson_record .list (.array items)).trans (ofPayload_list_iff.mpr ?_)
    exact ⟨items, cells, rfl, ofItems_eq_ok_iff.mpr (hEach.imp fun _ _ hPart => hPart.2.read), rfl⟩
  ordered := by
    apply orderedCells_iff.mpr
    intro cell hMem
    obtain ⟨_, _, hPart⟩ := exists_of_mem_partners hEach hMem
    exact hPart.ordered
  same hNames := by
    have hItems := not_repeatsName_payload hNames
    refine sameUpToOrder_record (.array ?_)
    rw [toJsonCells_eq_map, List.forall₂_map_left_iff]
    exact (hEach.imp fun _ _ ⟨hMem, hPart⟩ =>
      hPart.same fun hBad => hItems (.item hMem hBad)).flip

theorem readsAs_map {members : List (String × Json)} {entries : List (String × Cell)}
    (hEach : List.Forall₂ (fun member entry => member ∈ members ∧ member.1 = entry.1 ∧
      ReadsAs member.2 entry.2) members entries) :
    ReadsAs (.record [("M", .record members)]) (.map (Entries.ofList entries)) where
  read := by
    refine (ofJson_record .map (.record members)).trans (ofPayload_map_iff.mpr ?_)
    refine ⟨members, entries, rfl, ofMembers_eq_ok_iff.mpr ?_, rfl⟩
    exact hEach.imp fun _ _ hPart => ⟨hPart.2.1, hPart.2.2.read⟩
  ordered := by
    refine ⟨Entries.ascending_ofList entries, orderedEntries_iff.mpr fun entry hMem => ?_⟩
    obtain ⟨_, _, _, hPart⟩ := exists_of_mem_partners hEach (Entries.mem_ofList hMem)
    exact hPart.ordered
  same hNames := by
    have hMembers := not_repeatsName_payload hNames
    have hNodup : (entries.map Prod.fst).Nodup := by
      have hSame : List.Forall₂ Eq (members.map Prod.fst) (entries.map Prod.fst) :=
        List.forall₂_map_left_iff.mpr
          (List.forall₂_map_right_iff.mpr (hEach.imp fun _ _ hPart => hPart.2.1))
      rw [List.forall₂_eq_eq_eq] at hSame
      rw [← hSame]
      exact not_not.mp fun hBad => hMembers (.here hBad)
    -- filing the entries sorts them, which is the only change of order
    have hOrder := (Entries.perm_ofList hNodup).map toMember
    rw [← toJsonEntries_eq_map] at hOrder
    refine sameUpToOrder_record (.object hOrder ?_)
    rw [List.forall₂_map_left_iff]
    refine (hEach.imp ?_).flip
    rintro ⟨name, value⟩ ⟨_, cell⟩ ⟨hMem, rfl, hPart⟩
    exact .named name (hPart.same fun hBad => hMembers (.member hMem hBad))

/-- A wire form is read. -/
theorem exists_readsAs {json : Json} (hWire : json.IsWire) : ∃ cell, ReadsAs json cell := by
  induction hWire with
  | string text => exact ⟨_, readsAs_toJson (.string text) trivial⟩
  | number text => exact ⟨_, readsAs_toJson (.number text) trivial⟩
  | bool value => exact ⟨_, readsAs_toJson (.bool value) trivial⟩
  | stringSet texts => exact ⟨_, readsAs_toJson (.stringSet texts) trivial⟩
  | numberSet texts => exact ⟨_, readsAs_toJson (.numberSet texts) trivial⟩
  | binary hStrict =>
    obtain ⟨bytes, hBytes⟩ := exists_ofBase64_iff.mpr hStrict
    cases ofBase64_eq_ok_iff.mp hBytes
    exact ⟨_, readsAs_toJson (.binary bytes) trivial⟩
  | @binarySet texts hStrict =>
    obtain ⟨all, hAll⟩ := exists_forall₂_iff.mpr fun text hMem =>
      exists_ofBase64_iff.mpr (hStrict text hMem)
    have hTexts : List.Forall₂ Eq texts (all.map base64) :=
      List.forall₂_map_right_iff.mpr (hAll.imp fun _ _ => ofBase64_eq_ok_iff.mp)
    rw [List.forall₂_eq_eq_eq] at hTexts
    subst hTexts
    exact ⟨_, readsAs_toJson (.binarySet all) trivial⟩
  | list _ ih =>
    obtain ⟨cells, hEach⟩ := exists_forall₂_iff.mpr fun item hMem =>
      (ih item hMem).imp fun _ hPart => And.intro hMem hPart
    exact ⟨.list cells, readsAs_list hEach⟩
  | @map members _ ih =>
    obtain ⟨entries, hEach⟩ : ∃ entries, List.Forall₂ (fun member (entry : String × Cell) =>
        member ∈ members ∧ member.1 = entry.1 ∧ ReadsAs member.2 entry.2) members entries := by
      apply exists_forall₂_iff.mpr
      intro member hMem
      obtain ⟨cell, hPart⟩ := ih member hMem
      exact ⟨(member.1, cell), hMem, rfl, hPart⟩
    exact ⟨_, readsAs_map hEach⟩

theorem exists_ofJson_iff {json : Json} : (∃ cell, ofJson json = .ok cell) ↔ json.IsWire := by
  constructor
  · rintro ⟨cell, hRead⟩
    exact isWire_of_ofJson json cell hRead
  · intro hWire
    obtain ⟨cell, hReads⟩ := exists_readsAs hWire
    exact ⟨cell, hReads.read⟩

theorem readsAs_of_ofJson {json : Json} {cell : Cell} (hRead : ofJson json = .ok cell) :
    ReadsAs json cell := by
  obtain ⟨other, hReads⟩ := exists_readsAs (isWire_of_ofJson json cell hRead)
  cases hRead.symm.trans hReads.read
  exact hReads

theorem printable_ofTexts (texts : List String) : (Json.ofTexts texts).Printable := by
  apply Printable.array
  intro item hMem
  obtain ⟨text, _, rfl⟩ := List.mem_map.mp hMem
  exact .string text

theorem printable_record {name : String} {payload : Json} (hPayload : payload.Printable) :
    (Json.record [(name, payload)]).Printable :=
  .object (List.forall_mem_singleton.mpr hPayload)

/-- A wire form has a text. -/
theorem printable_of_isWire {json : Json} (hWire : json.IsWire) : json.Printable := by
  induction hWire with
  | string text | number text => exact printable_record (.string text)
  | bool value => exact printable_record (.bool value)
  | @binary text _ => exact printable_record (.string text)
  | stringSet texts | numberSet texts => exact printable_record (printable_ofTexts texts)
  | @binarySet texts _ => exact printable_record (printable_ofTexts texts)
  | list _ ih => exact printable_record (.array ih)
  | map _ ih => exact printable_record (.object ih)

/-- A text is read if it is a JSON value that is read, and nothing else follows. -/
theorem ofText_eq_ok_iff {text : String} {cell : Cell} :
    Decoder.ofText ofJson text = .ok cell ↔
      ∃ json, Json.ofText text = (json, true) ∧ ofJson json = .ok cell := by
  unfold Decoder.ofText
  obtain ⟨json, alone⟩ := Json.ofText text
  simp only [bind_eq_ok_iff, Prod.mk.injEq]
  constructor
  · rintro ⟨read, hRead, hEnd⟩
    cases alone with
    | false => cases hEnd
    | true =>
      cases hEnd
      exact ⟨json, ⟨rfl, rfl⟩, hRead⟩
  · rintro ⟨_, ⟨rfl, rfl⟩, hRead⟩
    exact ⟨cell, hRead, rfl⟩

/-- The text of a value that nests too many containers is not read. -/
theorem depth_le_of_ofText_render {json : Json} {cell : Cell} (hPrintable : json.Printable)
    (hRead : Decoder.ofText ofJson json.render = .ok cell) : json.depth ≤ maxDepth := by
  obtain ⟨clipped, hText, hClipped⟩ := ofText_eq_ok_iff.mp hRead
  rw [hPrintable.ofText_render] at hText
  cases hText
  by_cases hDepth : json.depth ≤ maxDepth
  · exact hDepth
  · -- what is too deep leaves a part that no wire form has
    have hUnreadable := holdsUnreadable_clip json 0 (Nat.zero_le _) (by omega)
    have hWire := isWire_of_ofJson _ cell hClipped
    exact absurd hUnreadable (printable_of_isWire hWire).not_holdsUnreadable

theorem exists_ofText_render_iff {json : Json} (hPrintable : json.Printable) :
    (∃ cell, Decoder.ofText ofJson json.render = .ok cell) ↔
      json.IsWire ∧ json.depth ≤ maxDepth := by
  constructor
  · rintro ⟨cell, hRead⟩
    have hDepth := depth_le_of_ofText_render hPrintable hRead
    rw [hPrintable.decode_render hDepth] at hRead
    exact ⟨isWire_of_ofJson json cell hRead, hDepth⟩
  · rintro ⟨hWire, hDepth⟩
    rw [hPrintable.decode_render hDepth]
    exact exists_ofJson_iff.mpr hWire

/-- A cell is read back from its JSON.  A JSON value is read exactly if it is a wire form:
an object with one member that is named by one of the nine tags and has the shape of its
payload, with strict base64 for byte strings.  What is read has ascending names, and if no
object repeats a name, its JSON is the one that was read, up to the order of members.

The same holds of texts that nest no more than 127 containers.  Of a text in general, the
value that it stands for decides; the text of a printable value is read as the value is, if
the value is not too deep, and is refused otherwise. -/
theorem wire_form_bijective :
    (∀ cell : Cell, cell.Ordered → ofJson cell.toJson = .ok cell) ∧
    (∀ json : Json, (∃ cell, ofJson json = .ok cell) ↔ json.IsWire) ∧
    (∀ (json : Json) (cell : Cell), ofJson json = .ok cell →
      cell.Ordered ∧ (¬json.RepeatsName → cell.toJson.SameUpToOrder json)) ∧
    (∀ text, (∃ cell, Decoder.ofText ofJson text = .ok cell) ↔
      ∃ json, Json.ofText text = (json, true) ∧ json.IsWire) ∧
    (∀ json : Json, json.Printable →
      ((∃ cell, Decoder.ofText ofJson json.render = .ok cell) ↔
        json.IsWire ∧ json.depth ≤ 127) ∧
      (json.depth ≤ 127 → Decoder.ofText ofJson json.render = ofJson json)) ∧
    (∀ cell : Cell, cell.Ordered → cell.toJson.depth ≤ 127 →
      Decoder.ofText ofJson cell.toJson.render = .ok cell) := by
  refine ⟨ofJson_toJson, fun _ => exists_ofJson_iff, ?_, ?_, ?_, ?_⟩
  · intro json cell hRead
    have hReads := readsAs_of_ofJson hRead
    exact ⟨hReads.ordered, hReads.same⟩
  · intro text
    simp only [ofText_eq_ok_iff, ← exists_ofJson_iff]
    exact ⟨fun ⟨cell, json, hText, hRead⟩ => ⟨json, hText, cell, hRead⟩,
      fun ⟨json, hText, cell, hRead⟩ => ⟨cell, json, hText, hRead⟩⟩
  · intro json hPrintable
    exact ⟨exists_ofText_render_iff hPrintable, fun hDepth => hPrintable.decode_render hDepth ofJson⟩
  · intro cell hOrdered hDepth
    have hRead := ofJson_toJson cell hOrdered
    have hPrintable := printable_of_isWire (exists_ofJson_iff.mp ⟨cell, hRead⟩)
    exact (hPrintable.decode_render hDepth ofJson).trans hRead

/-- A second member is one too many, whatever its name. -/
example : ofJson (.record [("S", .string "a"), ("S", .string "a")]) = .error .notOneKey := rfl

end Cell

end SingleTable
