import Mathlib.Data.List.Nodup
import SingleTable.Json.Encode
import SingleTable.Proofs.Json.Order
import SingleTable.Proofs.Json.Whole

/-!
# Records read back

`Decoder.Reads` says that a decoder reads a value from its JSON, in whatever order the JSON
lists the members of its objects.  It is proved along the way in which decoders are made: of
items, of members, of what may be null, and of records field by field (`Record.Builds`).  A
record is read if every field that must be there is written, and every other field is written
or has the value that its absence stands for.
-/

namespace SingleTable.Json

open Outcome

variable {α β : Type}

theorem string_ne_null (text : String) : Json.string text ≠ .null := Json.noConfusion

theorem number_ne_null (literal : String) : Json.number literal ≠ .null := Json.noConfusion

theorem record_ne_null (members : List (String × Json)) : Json.record members ≠ .null :=
  Json.noConfusion

namespace Decoder

/-- The JSON has a text, and the value is read from it in every order of members. -/
structure Reads (decode : Decoder α) (json : Json) (value : α) : Prop where
  printable : json.Printable
  read : ∀ other : Json, other.SameUpToOrder json → decode other = .ok value

/-- The value is read from the JSON in every order of members, and likewise from the text of
each of them that does not nest too many containers. -/
def ReadsBack (decode : Decoder α) (json : Json) (value : α) : Prop :=
  ∀ other : Json, other.SameUpToOrder json →
    decode other = .ok value ∧ (other.depth ≤ maxDepth → decode.ofText other.render = .ok value)

variable {decode : Decoder α} {encode : α → Json} {json : Json} {value : α}

theorem Reads.readsBack (hReads : decode.Reads json value) : decode.ReadsBack json value := by
  intro other hSame
  have hRead := hReads.read other hSame
  refine ⟨hRead, fun hDepth => ?_⟩
  rw [(hReads.printable.of_sameUpToOrder hSame).decode_render hDepth, hRead]

theorem reads_text (content : String) : text.Reads (.string content) content where
  printable := .string content
  read := by
    rintro _ ⟨⟩
    rfl

theorem reads_whole {low high i : Int} (hLow : low ≤ i) (hHigh : i ≤ high)
    (hLeast : -9223372036854775808 ≤ i) (hMost : i ≤ 18446744073709551615) :
    (wholeBetween low high).Reads (.ofInt i) i where
  printable := .number (isNumber_toString i)
  read := by
    rintro _ ⟨⟩
    have hWhole := whole?_ofLiteral_toString hLeast hMost
    unfold ofInt wholeBetween
    simp only [hWhole, hLow, hHigh, and_self, if_true]

/-- What is made of a value that is read is read. -/
theorem Reads.map (hReads : decode.Reads json value) (make : α → β) :
    Reads (fun json => (decode json).map make) json (make value) where
  printable := hReads.printable
  read := by
    intro other hSame
    show (decode other).map make = _
    rw [hReads.read other hSame]
    rfl

theorem reads_null : decode.nullable.Reads .null none where
  printable := .null
  read := by
    rintro _ ⟨⟩
    rfl

/-- What is not null is read by a decoder that takes null, too. -/
theorem Reads.nullable (hReads : decode.Reads json value) (hNull : json ≠ .null) :
    decode.nullable.Reads json (some value) where
  printable := hReads.printable
  read := by
    intro other hSame
    have hRead := hReads.read other hSame
    cases other with
    | null =>
      cases hSame
      exact absurd rfl hNull
    | _ =>
      rw [Decoder.nullable, hRead]
      · rfl
      · exact Json.noConfusion

/-- A list is read if every item is. -/
theorem reads_items {values : List α}
    (hEach : ∀ value ∈ values, decode.Reads (encode value) value) :
    (items decode).Reads (ofList encode values) values where
  printable := by
    apply Printable.array
    intro item hMem
    obtain ⟨value, hValue, rfl⟩ := List.mem_map.mp hMem
    exact (hEach value hValue).printable
  read := by
    intro other hSame
    obtain ⟨others, rfl, hItems⟩ := SameUpToOrder.exists_items hSame
    rw [List.forall₂_map_right_iff] at hItems
    show others.mapM decode = .ok values
    apply mapM_eq_ok_iff_forall₂.mpr
    exact partners_imp hItems fun value hValue => (hEach value hValue).read

/-- A map is read if every value is. -/
theorem reads_members {map : NameMap α}
    (hEach : ∀ entry ∈ map.entries, decode.Reads (encode entry.2) entry.2) :
    (members decode).Reads (ofMap encode map) map where
  printable := by
    apply Printable.object
    intro member hMem
    obtain ⟨entry, hEntry, rfl⟩ := List.mem_map.mp hMem
    exact (hEach entry hEntry).printable
  read := by
    intro other hSame
    obtain ⟨others, middle, rfl, hOrder, hMembers⟩ := SameUpToOrder.exists_members hSame
    rw [List.forall₂_map_right_iff] at hMembers
    -- the entries that are read are those of the map, in the order of the members
    let readEntry (member : String × Json) : Except ReadError (String × α) := do
      let value ← decode member.2
      return (member.1, value)
    have hMiddle : List.Forall₂ (fun member entry => readEntry member = .ok entry)
        middle map.entries := by
      refine partners_imp hMembers ?_
      rintro ⟨name, value⟩ hEntry member ⟨_, hValue⟩
      exact bind_ok ((hEach _ hEntry).read _ hValue) _
    obtain ⟨entries, hEntries, hPerm⟩ := List.perm_comp_forall₂ hOrder hMiddle
    refine (bind_ok (mapM_eq_ok_iff_forall₂.mpr hEntries) _).trans ?_
    exact congrArg Except.ok (NameMap.ofList_of_perm hPerm)

end Decoder

namespace Record

/-- The members are those of a value, by fields of the record: they are written in the order of
the fields, each can be read, and whatever finds the same as they do gives the value. -/
structure Builds (record : Record α) (members : List (String × Json)) (value : α) : Prop where
  distinct : (record.fields.map Field.name).Nodup
  named : (members.map Prod.fst).Sublist (record.fields.map Field.name)
  printable : ∀ member ∈ members, member.2.Printable
  checked : ∀ member ∈ members, ∀ other : Json, other.SameUpToOrder member.2 →
    ∃ field ∈ record.fields, field.name = member.1 ∧ field.check other = .ok ()
  built : ∀ look : String → Option Json,
    (∀ name ∈ record.fields.map Field.name,
      Option.Rel SameUpToOrder (look name) (Entries.find? name members)) →
    record.build look = .ok value

section Check

variable {fields : List Field} {seen : List String} {members : List (String × Json)}

/-- A field is found by its name. -/
theorem find?_field (hDistinct : (fields.map Field.name).Nodup) {field : Field}
    (hField : field ∈ fields) : fields.find? (·.name == field.name) = some field := by
  cases hFind : fields.find? (·.name == field.name) with
  | none =>
    have hNone := List.find?_eq_none.mp hFind field hField
    simp at hNone
  | some found =>
    have hName : found.name = field.name := by simpa using List.find?_some hFind
    have hFound := List.mem_of_find?_eq_some hFind
    rw [List.inj_on_of_nodup_map hDistinct hFound hField hName]

/-- Members with names of their own, each of which a field can check, are checked. -/
theorem checkMembers_eq_ok (hDistinct : (fields.map Field.name).Nodup)
    (hNodup : (members.map Prod.fst).Nodup) (hSeen : ∀ name ∈ members.map Prod.fst, name ∉ seen)
    (hChecked : ∀ member ∈ members,
      ∃ field ∈ fields, field.name = member.1 ∧ field.check member.2 = .ok ()) :
    checkMembers fields seen members .closed = .ok () := by
  induction members generalizing seen with
  | nil => rfl
  | cons member rest ih =>
    obtain ⟨name, value⟩ := member
    obtain ⟨⟨field, hField, rfl, hCheck⟩, hRest⟩ := List.forall_mem_cons.mp hChecked
    rw [List.map_cons, List.nodup_cons] at hNodup
    rw [List.map_cons, List.forall_mem_cons] at hSeen
    have hFresh : seen.contains field.name = false := by simpa using hSeen.1
    rw [checkMembers, find?_field hDistinct hField]
    simp only [hFresh, Bool.false_eq_true, if_false]
    refine (bind_ok hCheck _).trans (ih hNodup.2 ?_ hRest)
    intro other hMem hBad
    rcases List.mem_cons.mp hBad with rfl | hBefore
    · exact hNodup.1 hMem
    · exact hSeen.2 other hMem hBefore

end Check

variable {record : Record α} {members : List (String × Json)} {value : α}

/-- A record is read from its members. -/
theorem Builds.reads (hBuilds : record.Builds members value) :
    record.decoder.Reads (.record members) value where
  printable := .object hBuilds.printable
  read := by
    intro other hSame
    obtain ⟨others, middle, rfl, hOrder, hMembers⟩ := SameUpToOrder.exists_members hSame
    have hNames := map_fst_of_sameMembers hMembers
    have hNodup : (members.map Prod.fst).Nodup := hBuilds.named.nodup hBuilds.distinct
    have hMiddle : (middle.map Prod.fst).Nodup := hNames ▸ hNodup
    have hCheck : checkMembers record.fields [] others .closed = .ok () := by
      refine checkMembers_eq_ok hBuilds.distinct ?_ (by simp) ?_
      · exact (hOrder.map Prod.fst).nodup_iff.mpr hMiddle
      · have hChecked : ∀ member ∈ middle, ∃ field ∈ record.fields,
            field.name = member.1 ∧ field.check member.2 = .ok () := by
          refine forall_mem_of_partners hMembers ?_
          rintro _ hMem _ ⟨name, hValue⟩
          exact hBuilds.checked _ hMem _ hValue
        exact fun member hMem => hChecked member (hOrder.mem_iff.mp hMem)
    refine (bind_ok hCheck _).trans (hBuilds.built _ ?_)
    intro name _
    rw [Entries.find?_of_perm hOrder hMiddle]
    exact rel_find?_of_sameMembers hMembers name

theorem builds_start (make : α) : (start make).Builds [] make where
  distinct := List.nodup_nil
  named := .slnil
  printable := by simp
  checked := by simp
  built _ _ := rfl

/-- A record with one more field has one more member, or none if the field is left out. -/
theorem Builds.extend (hBuilds : record.Builds members value) {extended : Record β} (field : Field)
    (found : Option Json) {result : β} (hFields : extended.fields = record.fields ++ [field])
    (hName : field.name ∉ record.fields.map Field.name)
    (hPrintable : ∀ json ∈ found, json.Printable)
    (hCheck : ∀ json ∈ found, ∀ other : Json, other.SameUpToOrder json →
      field.check other = .ok ())
    (hBuild : ∀ look : String → Option Json, record.build look = .ok value →
      Option.Rel SameUpToOrder (look field.name) found → extended.build look = .ok result) :
    extended.Builds (members ++ (found.map fun json => (field.name, json)).toList) result where
  distinct := by
    rw [hFields, List.map_append, List.nodup_append]
    refine ⟨hBuilds.distinct, by simp, ?_⟩
    intro name hMem other hOther hSame
    rw [List.map_singleton, List.mem_singleton] at hOther
    exact hName (hOther ▸ hSame ▸ hMem)
  named := by
    rw [hFields, List.map_append, List.map_append]
    refine hBuilds.named.append ?_
    cases found with
    | none => exact List.nil_sublist _
    | some json => exact .refl _
  printable := by
    intro member hMem
    rcases List.mem_append.mp hMem with hOld | hNew
    · exact hBuilds.printable member hOld
    · cases found with
      | none => cases hNew
      | some json =>
        rw [List.mem_singleton.mp hNew]
        exact hPrintable json rfl
  checked := by
    intro member hMem other hSame
    rw [hFields]
    rcases List.mem_append.mp hMem with hOld | hNew
    · obtain ⟨known, hKnown, hSameName, hOk⟩ := hBuilds.checked member hOld other hSame
      exact ⟨known, List.mem_append_left _ hKnown, hSameName, hOk⟩
    · cases found with
      | none => cases hNew
      | some json =>
        rw [List.mem_singleton.mp hNew] at hSame ⊢
        exact ⟨field, by simp, rfl, hCheck json rfl other hSame⟩
  built := by
    intro look hLook
    simp only [hFields, List.map_append, Entries.find?_append] at hLook
    apply hBuild look
    · apply hBuilds.built
      intro name hMem
      have hOther : field.name ≠ name := fun hSame => hName (hSame ▸ hMem)
      have hRel := hLook name (List.mem_append_left _ hMem)
      cases found with
      | none => simpa using hRel
      | some json => simpa [Entries.find?_cons, hOther] using hRel
    · have hAbsent : Entries.find? field.name members = none :=
        Entries.find?_eq_none_of_not_mem fun hMem => hName (hBuilds.named.subset hMem)
      have hRel := hLook field.name (by simp)
      cases found with
      | none => simpa [hAbsent] using hRel
      | some json => simpa [hAbsent, Entries.find?_cons] using hRel

/-- What the fields give may be changed. -/
theorem Builds.change (hBuilds : record.Builds members value) (change : α → β) :
    ({ record with build := fun look => (record.build look).map change } : Record β).Builds members
      (change value) where
  distinct := hBuilds.distinct
  named := hBuilds.named
  printable := hBuilds.printable
  checked := hBuilds.checked
  built := by
    intro look hLook
    show (record.build look).map change = _
    rw [hBuilds.built look hLook]
    rfl

section Fields

variable {record : Record (α → β)} {make : α → β} {extended : Record β}
  {presence : Presence} {decode : Decoder α} {json : Json} (name : String)
  (hBuilds : record.Builds members make) (hName : name ∉ record.fields.map Field.name)

include hBuilds hName

/-- A field that is written is read from its member. -/
theorem Builds.written
    (hFields : extended.fields =
      record.fields ++ [⟨name, presence, fun json => (decode json).map fun _ => ()⟩])
    (hBuild : ∀ (look : String → Option Json) (other : Json), look name = some other →
      extended.build look = record.build look >>= fun make => return make (← decode other))
    (hReads : decode.Reads json value) :
    extended.Builds (members ++ member name json) (make value) := by
  refine hBuilds.extend _ (some json) hFields hName ?_ ?_ ?_
  · rintro _ ⟨⟩
    exact hReads.printable
  · rintro _ ⟨⟩ other hSame
    show (decode other).map _ = _
    rw [hReads.read other hSame]
    rfl
  · intro look hMake hLook
    generalize hFound : look name = found at hLook
    cases hLook with
    | some hSame =>
      rw [hBuild look _ hFound, bind_ok hMake]
      exact bind_ok (hReads.read _ hSame) _

/-- A field that is left out has the value that its absence stands for. -/
theorem Builds.leftOut {check : Json → Except ReadError Unit}
    (hFields : extended.fields = record.fields ++ [⟨name, presence, check⟩])
    (hBuild : ∀ look : String → Option Json, look name = none →
      extended.build look = record.build look >>= fun make => return make value) :
    extended.Builds members (make value) := by
  rw [← List.append_nil members]
  refine hBuilds.extend _ none hFields hName nofun nofun ?_
  intro look hMake hLook
  generalize hFound : look name = found at hLook
  cases hLook
  rw [hBuild look hFound, bind_ok hMake]
  rfl

theorem Builds.required (hReads : decode.Reads json value) :
    (record.required name decode).Builds (members ++ member name json) (make value) := by
  refine hBuilds.written name hName rfl ?_ hReads
  intro look other hFound
  simp only [Record.required, hFound]

theorem Builds.defaulted (hReads : decode.Reads json value) (fallback : α) :
    (record.defaulted name fallback decode).Builds (members ++ member name json)
      (make value) := by
  refine hBuilds.written name hName rfl ?_ hReads
  intro look other hFound
  simp only [Record.defaulted, hFound]

theorem Builds.defaulted_leftOut (fallback : α) :
    (record.defaulted name fallback decode).Builds members (make fallback) := by
  refine hBuilds.leftOut name hName rfl ?_
  intro look hFound
  simp only [Record.defaulted, hFound]

end Fields

section Options

variable {record : Record (Option α → β)} {make : Option α → β}
  {decode : Decoder α} {encode : α → Json} {option : Option α} (name : String)
  (hBuilds : record.Builds members make) (hName : name ∉ record.fields.map Field.name)
  (hReads : ∀ value ∈ option, decode.Reads (encode value) value)
  (hNull : ∀ value ∈ option, encode value ≠ .null)

include hBuilds hName hReads hNull

/-- An option is read from its member, or from null. -/
theorem Builds.orNull :
    (record.optional name decode).Builds (members ++ member name (orNull encode option))
      (make option) := by
  have hOption : decode.nullable.Reads (Json.orNull encode option) option := by
    cases option with
    | none => exact Decoder.reads_null
    | some value => exact (hReads value rfl).nullable (hNull value rfl)
  refine hBuilds.written name hName rfl ?_ hOption
  intro look other hFound
  simp only [Record.optional, hFound]

/-- An option is read from its member, or from the absence of one. -/
theorem Builds.optional :
    (record.optional name decode).Builds (members ++ member? name encode option)
      (make option) := by
  cases option with
  | some value => exact hBuilds.orNull name hName hReads hNull
  | none =>
    rw [member?, List.append_nil]
    refine hBuilds.leftOut name hName rfl ?_
    intro look hFound
    simp only [Record.optional, hFound]

end Options

/-- A map is read from its member, or is empty where this is left out. -/
theorem Builds.defaulted_map {record : Record (NameMap α → β)} {make : NameMap α → β}
    {decode : Decoder α} {encode : α → Json} {map : NameMap α} (name : String)
    (hBuilds : record.Builds members make) (hName : name ∉ record.fields.map Field.name)
    (hEach : ∀ entry ∈ map.entries, decode.Reads (encode entry.2) entry.2) :
    (record.defaulted name .empty (Decoder.members decode)).Builds
      (members ++ mapMember? name encode map) (make map) := by
  unfold mapMember?
  split
  · next hEmpty =>
    have hMap : map = .empty := NameMap.eq_empty_of_isEmpty hEmpty
    rw [List.append_nil, hMap]
    exact hBuilds.defaulted_leftOut name hName .empty
  · exact hBuilds.defaulted name hName (Decoder.reads_members hEach) .empty

/-- A list is read from its member, or is empty where this is left out. -/
theorem Builds.defaulted_list {record : Record (List α → β)} {make : List α → β}
    {decode : Decoder α} {encode : α → Json} {values : List α} (name : String)
    (hBuilds : record.Builds members make) (hName : name ∉ record.fields.map Field.name)
    (hEach : ∀ value ∈ values, decode.Reads (encode value) value) :
    (record.defaulted name [] (Decoder.items decode)).Builds
      (members ++ listMember? name encode values) (make values) := by
  unfold listMember?
  split
  · next hEmpty =>
    rw [List.append_nil, List.isEmpty_iff.mp hEmpty]
    exact hBuilds.defaulted_leftOut name hName []
  · exact hBuilds.defaulted name hName (Decoder.reads_items hEach) []

end Record

end SingleTable.Json
