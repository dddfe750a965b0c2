import SingleTable.Json.Decode
import SingleTable.Proofs.Json.Tokens

/-!
# Printed values read back

The text of a printable value is read as the value, up to the contents of containers that
are nested too deep (`Json.clip`).  Nothing is lost where no more than `maxDepth` containers
stand inside one another, and otherwise some part cannot be read.
-/

namespace SingleTable.Json

mutual

/-- The number of containers in the value that stand inside one another. -/
def depth : Json → Nat
  | .array items => itemDepth items + 1
  | .object members _ => memberDepth members + 1
  | _ => 0

/-- The depth of the deepest item. -/
def itemDepth : List Json → Nat
  | [] => 0
  | item :: rest => max (depth item) (itemDepth rest)

/-- The depth of the deepest member. -/
def memberDepth : List (String × Json) → Nat
  | [] => 0
  | (_, value) :: rest => max (depth value) (memberDepth rest)

end

mutual

/-- What is read for a value inside `level` containers. -/
def clip : Json → Nat → Json
  | .array items, level => arrayAt (level + 1) (clipItems items (level + 1)) true
  | .object members ending, level =>
    objectAt (level + 1) (clipMembers members (level + 1)) ending true
  | json, _ => json

/-- What is read for items. -/
def clipItems : List Json → Nat → List Json
  | [], _ => []
  | item :: rest, level => clip item level :: clipItems rest level

/-- What is read for members. -/
def clipMembers : List (String × Json) → Nat → List (String × Json)
  | [], _ => []
  | (name, value) :: rest, level => (name, clip value level) :: clipMembers rest level

end

/-- At every level the value is read from its tokens, up to what is too deep, and what
follows them is left. -/
def ReadFromTokens (json : Json) : Prop :=
  ∀ level rest, ∃ hShort,
    readValue level (json.tokens ++ rest) = (json.clip level, some ⟨rest, hShort⟩)

section Reading

theorem readItems_itemTokens {item : Json} {others : List Json} (hItem : item.ReadFromTokens)
    (hOthers : ∀ item ∈ others, item.ReadFromTokens) (level : Nat) (rest : List Token) :
    ∃ hShort, readItems level (itemTokens (item :: others) ++ rest) =
      (clipItems (item :: others) level, some ⟨rest, hShort⟩) := by
  induction others generalizing item with
  | nil =>
    obtain ⟨hShort, hRead⟩ := hItem level (.endArray :: rest)
    rw [itemTokens, List.append_assoc, List.singleton_append, readItems, hRead]
    exact ⟨_, rfl⟩
  | cons next more ih =>
    obtain ⟨hNext, hMore⟩ := List.forall_mem_cons.mp hOthers
    obtain ⟨hShort, hRead⟩ := hItem level (.comma :: (itemTokens (next :: more) ++ rest))
    obtain ⟨hLeft, hReadMore⟩ := ih hNext hMore
    rw [itemTokens, List.append_assoc, List.cons_append, readItems, hRead]
    simp only [hReadMore]
    exact ⟨Nat.lt_trans hLeft (Nat.lt_of_succ_lt hShort), rfl⟩

theorem readMembers_memberTokens {member : String × Json} {others : List (String × Json)}
    (hMember : member.2.ReadFromTokens) (hOthers : ∀ member ∈ others, member.2.ReadFromTokens)
    (level : Nat) (rest : List Token) :
    ∃ hShort, readMembers level (memberTokens (member :: others) ++ rest) =
      ((clipMembers (member :: others) level, .closed), some ⟨rest, hShort⟩) := by
  induction others generalizing member with
  | nil =>
    obtain ⟨name, value⟩ := member
    have hTokens : memberTokens [(name, value)] ++ rest =
        .string (some name) :: .colon :: (value.tokens ++ .endObject :: rest) := by
      simp [memberTokens]
    obtain ⟨hShort, hRead⟩ : ∃ hShort, readValue level (value.tokens ++ .endObject :: rest) =
      (value.clip level, some ⟨.endObject :: rest, hShort⟩) := hMember level (.endObject :: rest)
    rw [hTokens, readMembers, hRead]
    exact ⟨_, rfl⟩
  | cons next more ih =>
    obtain ⟨name, value⟩ := member
    obtain ⟨hNext, hMore⟩ := List.forall_mem_cons.mp hOthers
    have hTokens : memberTokens ((name, value) :: next :: more) ++ rest =
        .string (some name) :: .colon ::
          (value.tokens ++ .comma :: (memberTokens (next :: more) ++ rest)) := by
      simp [memberTokens]
    obtain ⟨hShort, hRead⟩ : ∃ hShort,
      readValue level (value.tokens ++ .comma :: (memberTokens (next :: more) ++ rest)) =
        (value.clip level, some ⟨.comma :: (memberTokens (next :: more) ++ rest), hShort⟩) :=
      hMember level _
    obtain ⟨hLeft, hReadMore⟩ := ih hNext hMore
    rw [hTokens, readMembers, hRead]
    simp only [hReadMore]
    exact ⟨Nat.lt_trans hLeft (Left.length_lt hShort), rfl⟩

/-- Items do not start with the end of their array. -/
theorem itemTokens_ne_endArray {item : Json} {others : List Json} (hItem : item.Printable)
    (rest more : List Token) : itemTokens (item :: others) ++ rest ≠ .endArray :: more := by
  cases others <;> cases hItem <;> simp [itemTokens, tokens]

theorem memberTokens_ne_endObject {member : String × Json} {others : List (String × Json)}
    (rest more : List Token) : memberTokens (member :: others) ++ rest ≠ .endObject :: more := by
  cases others <;> simp [memberTokens]

theorem readFromTokens_array {items : List Json} (hPrintable : ∀ item ∈ items, item.Printable)
    (hItems : ∀ item ∈ items, item.ReadFromTokens) : (Json.array items).ReadFromTokens := by
  intro level rest
  cases items with
  | nil =>
    rw [tokens, itemTokens, List.cons_append, List.singleton_append, readValue]
    exact ⟨_, rfl⟩
  | cons item others =>
    obtain ⟨hItem, hOthers⟩ := List.forall_mem_cons.mp hItems
    obtain ⟨hShort, hRead⟩ := readItems_itemTokens hItem hOthers (level + 1) rest
    rw [tokens, List.cons_append, readValue, hRead]
    · exact ⟨Nat.lt_succ_of_lt hShort, rfl⟩
    · exact itemTokens_ne_endArray (hPrintable item List.mem_cons_self) rest

theorem readFromTokens_object {members : List (String × Json)}
    (hMembers : ∀ member ∈ members, member.2.ReadFromTokens) :
    (Json.record members).ReadFromTokens := by
  intro level rest
  cases members with
  | nil =>
    rw [tokens, memberTokens, List.cons_append, List.singleton_append, readValue]
    exact ⟨_, rfl⟩
  | cons member others =>
    obtain ⟨hMember, hOthers⟩ := List.forall_mem_cons.mp hMembers
    obtain ⟨hShort, hRead⟩ := readMembers_memberTokens hMember hOthers (level + 1) rest
    rw [tokens, List.cons_append, readValue, hRead]
    · exact ⟨Nat.lt_succ_of_lt hShort, rfl⟩
    · exact memberTokens_ne_endObject rest

/-- A printable value is read from its tokens, up to what is too deep. -/
theorem Printable.readFromTokens {json : Json} (hPrintable : json.Printable) :
    json.ReadFromTokens := by
  induction hPrintable with
  | null | bool value | number hNumber | string text =>
    intro level rest
    rw [tokens, List.singleton_append, readValue]
    exact ⟨_, rfl⟩
  | array hItems ih => exact readFromTokens_array hItems ih
  | object _ ih => exact readFromTokens_object ih

/-- A printable value is read from its text, up to what is too deep. -/
theorem Printable.ofText_render {json : Json} (hPrintable : json.Printable) :
    ofText json.render = (json.clip 0, true) := by
  obtain ⟨hShort, hRead⟩ : ∃ hShort, readValue 0 (Token.ofText json.render.toList) =
      (json.clip 0, some ⟨[], hShort⟩) := by
    rw [hPrintable.tokens_ofText, ← List.append_nil json.tokens]
    exact hPrintable.readFromTokens 0 []
  rw [ofText, hRead]

end Reading

section Depth

/-- Some part of the value cannot be read. -/
inductive HoldsUnreadable : Json → Prop where
  | here (skippable : Bool) : HoldsUnreadable (.unreadable skippable)
  | ending (members : List (String × Json)) (skippable : Bool) :
    HoldsUnreadable (.object members (.unreadable skippable))
  | item {item : Json} {items : List Json} (hMem : item ∈ items) (hItem : item.HoldsUnreadable) :
    HoldsUnreadable (.array items)
  | member {member : String × Json} {members : List (String × Json)} {ending : Ending}
    (hMem : member ∈ members) (hValue : member.2.HoldsUnreadable) :
    HoldsUnreadable (.object members ending)

theorem Printable.not_holdsUnreadable {json : Json} (hPrintable : json.Printable) :
    ¬json.HoldsUnreadable := by
  induction hPrintable with
  | null | bool value | number hNumber | string text => rintro ⟨⟩
  | array _ ih =>
    rintro (_ | _ | ⟨hMem, hItem⟩)
    exact ih _ hMem hItem
  | object _ ih =>
    rintro (_ | _ | _ | ⟨hMem, hValue⟩)
    exact ih _ hMem hValue

mutual

/-- Nothing is lost of a value that is not too deep. -/
theorem clip_eq_self : (json : Json) → (level : Nat) → level + json.depth ≤ maxDepth →
    json.clip level = json
  | .null, _, _ | .bool _, _, _ | .number _, _, _ | .string _, _, _ | .unreadable _, _, _ => rfl
  | .array items, level, hDepth => by
    rw [depth] at hDepth
    rw [clip, arrayAt, if_neg (by omega), clipItems_eq_self items (level + 1) (by omega)]
  | .object members ending, level, hDepth => by
    rw [depth] at hDepth
    rw [clip, objectAt, if_neg (by omega), clipMembers_eq_self members (level + 1) (by omega)]

theorem clipItems_eq_self : (items : List Json) → (level : Nat) →
    level + itemDepth items ≤ maxDepth → clipItems items level = items
  | [], _, _ => rfl
  | item :: rest, level, hDepth => by
    rw [itemDepth] at hDepth
    rw [clipItems, clip_eq_self item level (by omega), clipItems_eq_self rest level (by omega)]

theorem clipMembers_eq_self : (members : List (String × Json)) → (level : Nat) →
    level + memberDepth members ≤ maxDepth → clipMembers members level = members
  | [], _, _ => rfl
  | (name, value) :: rest, level, hDepth => by
    rw [memberDepth] at hDepth
    rw [clipMembers, clip_eq_self value level (by omega),
      clipMembers_eq_self rest level (by omega)]

end

mutual

/-- Of a value that is too deep some part is lost. -/
theorem holdsUnreadable_clip : (json : Json) → (level : Nat) → level ≤ maxDepth →
    maxDepth < level + json.depth → (json.clip level).HoldsUnreadable
  | .null, _, hLevel, hDepth | .bool _, _, hLevel, hDepth | .number _, _, hLevel, hDepth
  | .string _, _, hLevel, hDepth | .unreadable _, _, hLevel, hDepth =>
    absurd hDepth (Nat.not_lt.mpr hLevel)
  | .array items, level, _, hDepth => by
    rw [depth] at hDepth
    rw [clip, arrayAt]
    by_cases hLevel : maxDepth < level + 1
    · rw [if_pos hLevel]
      exact .item List.mem_cons_self (.here true)
    · rw [if_neg hLevel]
      obtain ⟨item, hMem, hItem⟩ :=
        exists_unreadable_item items (level + 1) (by omega) (by omega)
      exact .item hMem hItem
  | .object members ending, level, _, hDepth => by
    rw [depth] at hDepth
    rw [clip, objectAt]
    by_cases hLevel : maxDepth < level + 1
    · rw [if_pos hLevel]
      exact .ending [] true
    · rw [if_neg hLevel]
      obtain ⟨member, hMem, hValue⟩ :=
        exists_unreadable_member members (level + 1) (by omega) (by omega)
      exact .member hMem hValue

theorem exists_unreadable_item : (items : List Json) → (level : Nat) → level ≤ maxDepth →
    maxDepth < level + itemDepth items → ∃ item ∈ clipItems items level, item.HoldsUnreadable
  | [], level, hLevel, hDepth => by
    rw [itemDepth] at hDepth
    omega
  | item :: rest, level, hLevel, hDepth => by
    rw [itemDepth] at hDepth
    rw [clipItems]
    by_cases hItem : maxDepth < level + item.depth
    · exact ⟨_, List.mem_cons_self, holdsUnreadable_clip item level hLevel hItem⟩
    · obtain ⟨other, hMem, hOther⟩ := exists_unreadable_item rest level hLevel (by omega)
      exact ⟨other, List.mem_cons_of_mem _ hMem, hOther⟩

theorem exists_unreadable_member : (members : List (String × Json)) → (level : Nat) →
    level ≤ maxDepth → maxDepth < level + memberDepth members →
    ∃ member ∈ clipMembers members level, member.2.HoldsUnreadable
  | [], level, hLevel, hDepth => by
    rw [memberDepth] at hDepth
    omega
  | (name, value) :: rest, level, hLevel, hDepth => by
    rw [memberDepth] at hDepth
    rw [clipMembers]
    by_cases hValue : maxDepth < level + value.depth
    · exact ⟨_, List.mem_cons_self, holdsUnreadable_clip value level hLevel hValue⟩
    · obtain ⟨other, hMem, hOther⟩ := exists_unreadable_member rest level hLevel (by omega)
      exact ⟨other, List.mem_cons_of_mem _ hMem, hOther⟩

end

end Depth

/-- From the text of a value that is not too deep, a decoder reads what it reads from the
value. -/
theorem Printable.decode_render {α : Type} {json : Json} (hPrintable : json.Printable)
    (hDepth : json.depth ≤ maxDepth) (decode : Decoder α) :
    Decoder.ofText decode json.render = decode json := by
  have hClip : json.clip 0 = json := clip_eq_self json 0 (by omega)
  unfold Decoder.ofText
  rw [hPrintable.ofText_render, hClip]
  show (decode json >>= fun value => pure value) = decode json
  exact bind_pure _

end SingleTable.Json
