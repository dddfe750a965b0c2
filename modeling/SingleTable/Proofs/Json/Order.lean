import Mathlib.Data.List.Perm.Basic
import SingleTable.Proofs.Cell.Wire

/-!
# JSON in another order

A value that differs from a given one at most in the order in which its objects list their
members (`Json.SameUpToOrder`) has the same containers, part by part.  It has a text if the
given value has one, and a name finds in it what it finds in the given value, up to order.
-/

namespace SingleTable

open Outcome

/-- What holds of all partners of a list holds of the list, if it is carried over. -/
theorem forall_mem_of_partners {α β : Type} {Related : α → β → Prop} {Holds : α → Prop}
    {items : List α} {partners : List β} (hEach : List.Forall₂ Related items partners)
    (hHolds : ∀ b ∈ partners, ∀ a, Related a b → Holds a) : ∀ a ∈ items, Holds a := by
  induction hEach with
  | nil => exact fun _ hMem => absurd hMem List.not_mem_nil
  | cons hItem _ ih =>
    obtain ⟨hFirst, hRest⟩ := List.forall_mem_cons.mp hHolds
    exact List.forall_mem_cons.mpr ⟨hFirst _ hItem, ih hRest⟩

/-- A relation to partners may be replaced by one that holds of these partners. -/
theorem partners_imp {α β : Type} {Related Other : α → β → Prop} {items : List α}
    {partners : List β} (hEach : List.Forall₂ Related items partners)
    (hOther : ∀ b ∈ partners, ∀ a, Related a b → Other a b) :
    List.Forall₂ Other items partners := by
  induction hEach with
  | nil => exact .nil
  | cons hItem _ ih =>
    obtain ⟨hFirst, hRest⟩ := List.forall_mem_cons.mp hOther
    exact .cons (hFirst _ hItem) (ih hRest)

/-- A list of computations gives a list of results, each of its own. -/
theorem mapM_eq_ok_iff_forall₂ {ε α β : Type} {compute : α → Except ε β} {items : List α}
    {results : List β} :
    items.mapM compute = .ok results ↔
      List.Forall₂ (fun item result => compute item = .ok result) items results := by
  induction items generalizing results with
  | nil =>
    rw [List.mapM_nil, pure_eq_ok_iff]
    simp [eq_comm]
  | cons item rest ih =>
    simp only [List.mapM_cons, bind_eq_ok_iff, pure_eq_ok_iff, ih, List.forall₂_cons_left_iff]
    constructor
    · rintro ⟨first, hFirst, others, hOthers, rfl⟩
      exact ⟨first, others, hFirst, hOthers, rfl⟩
    · rintro ⟨first, others, hFirst, hOthers, rfl⟩
      exact ⟨first, hFirst, others, hOthers, rfl⟩

/-- Among entries with distinct keys, a key finds the same in every order. -/
theorem Entries.find?_of_perm {κ α : Type} [DecidableEq κ] {entries others : List (κ × α)}
    (hPerm : entries.Perm others) (hNodup : (others.map Prod.fst).Nodup) (key : κ) :
    find? key entries = find? key others := by
  have hEntries : (entries.map Prod.fst).Nodup := (hPerm.map Prod.fst).nodup_iff.mpr hNodup
  apply Option.ext
  intro value
  rw [← mem_iff_of_nodup hEntries, ← mem_iff_of_nodup hNodup, hPerm.mem_iff]

theorem Entries.find?_append {κ α : Type} [DecidableEq κ] (key : κ)
    (front back : List (κ × α)) :
    find? key (front ++ back) = (find? key front).or (find? key back) := by
  induction front with
  | nil => rfl
  | cons entry rest ih =>
    obtain ⟨other, value⟩ := entry
    rw [List.cons_append, find?_cons, find?_cons, ih]
    by_cases hSame : other = key
    · rw [if_pos hSame, if_pos hSame, Option.some_or]
    · rw [if_neg hSame, if_neg hSame]

/-- A key that no entry has finds nothing. -/
theorem Entries.find?_eq_none_of_not_mem {κ α : Type} [DecidableEq κ] {key : κ}
    {entries : List (κ × α)} (hAbsent : key ∉ entries.map Prod.fst) : find? key entries = none :=
  find?_eq_none_iff.mpr fun value hMem => hAbsent (List.mem_map.mpr ⟨(key, value), hMem, rfl⟩)

/-- The entries of a map make up the map in every order. -/
theorem NameMap.ofList_of_perm {α : Type} {entries : List (String × α)} {map : NameMap α}
    (hPerm : entries.Perm map.entries) : ofList entries = map := by
  have hNodup := map.ascending.nodup_keys
  apply ext_find?
  intro name
  rw [find?_ofList ((hPerm.map Prod.fst).nodup_iff.mpr hNodup)]
  exact Entries.find?_of_perm hPerm hNodup name

theorem NameMap.eq_empty_of_isEmpty {α : Type} {map : NameMap α} (hEmpty : map.isEmpty = true) :
    map = empty := by
  obtain ⟨entries, hAscending⟩ := map
  cases List.isEmpty_iff.mp hEmpty
  rfl

namespace Json

variable {json other : Json}

theorem SameUpToOrder.of_perm {members others : List (String × Json)}
    (hPerm : members.Perm others) : (Json.record members).SameUpToOrder (.record others) :=
  .object hPerm (List.forall₂_same.mpr fun member _ => .named member.1 (.refl member.2))

/-- What is an array up to order is an array of the items up to order. -/
theorem SameUpToOrder.exists_items {items : List Json}
    (hSame : other.SameUpToOrder (.array items)) :
    ∃ others, other = .array others ∧ List.Forall₂ SameUpToOrder others items := by
  cases hSame with
  | refl => exact ⟨items, rfl, List.forall₂_same.mpr fun item _ => .refl item⟩
  | array hItems => exact ⟨_, rfl, hItems⟩

/-- What is an object up to order has the members up to order, each of them somewhere. -/
theorem SameUpToOrder.exists_members {members : List (String × Json)}
    (hSame : other.SameUpToOrder (.record members)) :
    ∃ others middle, other = .record others ∧ others.Perm middle ∧
      List.Forall₂ SameMember middle members := by
  cases hSame with
  | refl =>
    exact ⟨members, members, rfl, .refl _,
      List.forall₂_same.mpr fun member _ => .named member.1 (.refl member.2)⟩
  | object hOrder hMembers => exact ⟨_, _, rfl, hOrder, hMembers⟩

/-- An object with one member has no other order. -/
theorem SameUpToOrder.exists_payload {name : String} {payload : Json}
    (hSame : other.SameUpToOrder (.record [(name, payload)])) :
    ∃ value, other = .record [(name, value)] ∧ value.SameUpToOrder payload := by
  obtain ⟨others, middle, rfl, hOrder, hMembers⟩ := hSame.exists_members
  obtain ⟨member, rest, hMember, hRest, rfl⟩ := List.forall₂_cons_right_iff.mp hMembers
  rw [List.forall₂_nil_right_iff] at hRest
  subst hRest
  rw [List.perm_singleton] at hOrder
  subst hOrder
  cases hMember with
  | named _ hValue => exact ⟨_, rfl, hValue⟩

/-- Texts have one order. -/
theorem SameUpToOrder.eq_ofTexts {texts : List String}
    (hSame : other.SameUpToOrder (.ofTexts texts)) : other = .ofTexts texts := by
  obtain ⟨others, rfl, hItems⟩ := hSame.exists_items
  rw [List.forall₂_map_right_iff] at hItems
  have hTexts : List.Forall₂ (fun item text => item = .string text) others texts := by
    refine hItems.imp ?_
    rintro _ text ⟨⟩
    rfl
  rw [← List.forall₂_map_right_iff, List.forall₂_eq_eq_eq] at hTexts
  rw [hTexts, ofTexts]

/-- What is the same up to order as a value with a text has a text. -/
theorem Printable.of_sameUpToOrder (hPrintable : json.Printable) :
    ∀ {other : Json}, other.SameUpToOrder json → other.Printable := by
  induction hPrintable with
  | null | bool | string =>
    rintro _ ⟨⟩
    constructor
  | number hNumber =>
    rintro _ ⟨⟩
    exact .number hNumber
  | array _ ih =>
    intro other hSame
    obtain ⟨others, rfl, hItems⟩ := hSame.exists_items
    exact .array (forall_mem_of_partners hItems fun item hMem _ hItem => ih item hMem hItem)
  | object _ ih =>
    intro other hSame
    obtain ⟨others, middle, rfl, hOrder, hMembers⟩ := hSame.exists_members
    apply Printable.object
    have hMiddle : ∀ member ∈ middle, member.2.Printable := by
      refine forall_mem_of_partners hMembers ?_
      rintro _ hMember _ ⟨name, hValue⟩
      exact ih _ hMember hValue
    exact fun member hMem => hMiddle member (hOrder.mem_iff.mp hMem)

section Members

variable {middle members : List (String × Json)}

theorem map_fst_of_sameMembers (hMembers : List.Forall₂ SameMember middle members) :
    middle.map Prod.fst = members.map Prod.fst := by
  induction hMembers with
  | nil => rfl
  | cons hMember _ ih =>
    cases hMember
    rw [List.map_cons, List.map_cons, ih]

/-- A name finds the same up to order. -/
theorem rel_find?_of_sameMembers (hMembers : List.Forall₂ SameMember middle members)
    (name : String) :
    Option.Rel SameUpToOrder (Entries.find? name middle) (Entries.find? name members) := by
  induction hMembers with
  | nil => exact .none
  | cons hMember _ ih =>
    cases hMember with
    | named key hValue =>
      rw [Entries.find?_cons, Entries.find?_cons]
      by_cases hKey : key = name
      · rw [if_pos hKey, if_pos hKey]
        exact .some hValue
      · rw [if_neg hKey, if_neg hKey]
        exact ih

end Members

end Json

end SingleTable
