import RelayFeeds.Proofs.Json.Decoding

/-! # Values with their members in order

The members of an object have no order where only the denotation counts. Arranging a value puts the
members of all its objects in ascending order of their keys, the last one given for a key counting;
whatever a text denotes is arranged already.

* **`isArranged_array`**, **`isArranged_object`** — a value is arranged when its parts are and its keys
  ascend.
* **`exists_entries_arranged`** — an arranged object has the same keys, with arranged values.
* **`IsArranged.member?_eq_some_iff`** — a member is what is found under its key.
* **`isArranged_of_parse?`** — the value of a text is arranged.
* **`Decoder.roundTrips`** — decoding and encoding fit each other when whatever is decoded is read
  back. -/

namespace RelayFeeds

open SortedMap Ordered

namespace SortedMap

universe u v w

variable {κ : Type u} {ν : Type v}

/-- Replacing the values of a list of entries replaces what is found under a key. -/
theorem findIn?_map [DecidableEq κ] {μ : Type w} (f : ν → μ) (key : κ) (entries : List (κ × ν)) :
    findIn? key (entries.map (fun entry => (entry.1, f entry.2))) = (findIn? key entries).map f := by
  induction entries with
  | nil => rfl
  | cons entry rest ih =>
    rw [List.map_cons, findIn?, findIn?, ih]
    split <;> rfl

variable [Ordered κ]

/-- The map of ascending entries has these entries. -/
theorem entries_ofList [DecidableEq κ] {entries : List (κ × ν)}
    (h : Ascending (entries.map Prod.fst)) : (ofList entries).entries = entries := by
  have hmap : ofList entries = ⟨entries, h⟩ := ext fun key => find?_ofList_of_nodup h.nodup key
  rw [hmap]

end SortedMap

namespace Json

mutual

/-- A value with the members of its objects in ascending order of their keys, the last one given for a
key counting. -/
def arranged : Json → Json
  | .null => .null
  | .bool value => .bool value
  | .number value => .number value
  | .string value => .string value
  | .array items => .array (arrangedItems items)
  | .object members => ofMembers (arrangedMembers members)

/-- The items of an array, arranged. -/
def arrangedItems : List Json → List Json
  | [] => []
  | item :: rest => arranged item :: arrangedItems rest

/-- The members of an object with arranged values. -/
def arrangedMembers : List (String × Json) → List (String × Json)
  | [] => []
  | (key, value) :: rest => (key, arranged value) :: arrangedMembers rest

end

/-- Items are arranged one by one. -/
theorem arrangedItems_eq_map (items : List Json) : arrangedItems items = items.map arranged := by
  induction items with
  | nil => rfl
  | cons item rest ih => rw [arrangedItems, ih, List.map_cons]

/-- The values of members are arranged one by one. -/
theorem arrangedMembers_eq_map (members : List (String × Json)) :
    arrangedMembers members = members.map (fun member => (member.1, arranged member.2)) := by
  induction members with
  | nil => rfl
  | cons member rest ih => rw [arrangedMembers, ih, List.map_cons]

/-- An array is arranged item by item. -/
theorem arranged_array (items : List Json) :
    (Json.array items).arranged = .array (items.map arranged) := by
  rw [arranged, arrangedItems_eq_map]

/-- An object of members whose keys ascend has them in that order. -/
theorem ofMembers_of_ascending {members : List (String × Json)}
    (h : Ascending (members.map Prod.fst)) : ofMembers members = .object members := by
  rw [ofMembers, entries_ofList h]

/-- Whether a value has the members of its objects in ascending order of their keys. -/
def IsArranged (value : Json) : Prop := value.arranged = value

instance (value : Json) : Decidable value.IsArranged :=
  inferInstanceAs (Decidable (value.arranged = value))

/-- An array is arranged when its items are. -/
theorem isArranged_array {items : List Json} (h : ∀ item ∈ items, item.IsArranged) :
    (Json.array items).IsArranged := by
  rw [IsArranged, arranged_array, List.map_congr_left (g := id) h, List.map_id]

/-- The items of an arranged array are arranged. -/
theorem IsArranged.of_mem_array {items : List Json} (h : (Json.array items).IsArranged) :
    ∀ item ∈ items, item.IsArranged := by
  rw [IsArranged, arranged_array, Json.array.injEq] at h
  exact List.map_inj_left.mp (h.trans (List.map_id items).symm)

/-- An object is arranged when its keys ascend and its values are arranged. -/
theorem isArranged_object {members : List (String × Json)} (hkeys : Ascending (members.map Prod.fst))
    (h : ∀ member ∈ members, member.2.IsArranged) : (Json.object members).IsArranged := by
  have hvalues : arrangedMembers members = members := by
    rw [arrangedMembers_eq_map, List.map_congr_left (g := id), List.map_id]
    exact fun member hmem => Prod.ext rfl (h member hmem)
  rw [IsArranged, arranged, hvalues, ofMembers_of_ascending hkeys]

/-- The keys of an arranged object ascend and its values are arranged. -/
theorem IsArranged.of_object {members : List (String × Json)} (h : (Json.object members).IsArranged) :
    Ascending (members.map Prod.fst) ∧ ∀ member ∈ members, member.2.IsArranged := by
  rw [IsArranged, arranged, ofMembers, Json.object.injEq, arrangedMembers_eq_map] at h
  have hkeys : Ascending (members.map Prod.fst) := h ▸ (SortedMap.ofList _).ascending
  have hsame : (members.map fun member => (member.1, arranged member.2)).map Prod.fst =
      members.map Prod.fst := by
    rw [List.map_map]
    rfl
  rw [entries_ofList (hsame ▸ hkeys)] at h
  have hvalues := List.map_inj_left.mp (h.trans (List.map_id members).symm)
  exact ⟨hkeys, fun member hmem => congrArg Prod.snd (hvalues member hmem)⟩

/-- **A member of an arranged object is what is found under its key**, and nothing else has members. -/
theorem IsArranged.member?_eq_some_iff {value node : Json} {key : String} (h : value.IsArranged) :
    value.member? key = some node ↔ ∃ members, value = .object members ∧ (key, node) ∈ members := by
  cases value with
  | object members =>
    simp only [member?, Json.object.injEq, exists_eq_left', mem_iff_findIn? h.of_object.1.nodup]
  | _ => simp [member?]

/-- The members of arranged values make an arranged object. -/
theorem isArranged_ofMembers {members : List (String × Json)}
    (h : ∀ member ∈ members, member.2.IsArranged) : (ofMembers members).IsArranged :=
  isArranged_object (SortedMap.ofList members).ascending fun member hmem =>
    h member (mem_of_mem_ofList hmem)

/-- An array of texts is arranged. -/
theorem isArranged_strings (texts : List String) : (Json.strings texts).IsArranged := by
  refine isArranged_array (List.forall_mem_map.mpr fun text _ => ?_)
  rfl

/-- Texts are arranged as they are. -/
@[simp] theorem arranged_strings (texts : List String) :
    (Json.strings texts).arranged = Json.strings texts := isArranged_strings texts

/-- **An arranged object has the same keys, with arranged values.** -/
theorem exists_entries_arranged {members : List (String × Json)}
    (h : (members.map Prod.fst).Nodup) :
    ∃ entries, (Json.object members).arranged = .object entries ∧
      (entries.map Prod.fst).Nodup ∧
        ∀ key, findIn? key entries = (findIn? key members).map arranged := by
  refine ⟨(SortedMap.ofList (arrangedMembers members)).entries, rfl,
    (SortedMap.ofList (arrangedMembers members)).ascending.nodup, fun key => ?_⟩
  rw [arrangedMembers_eq_map]
  have hkeys : ((members.map (fun member => (member.1, arranged member.2))).map Prod.fst).Nodup := by
    rw [List.map_map]
    exact h
  calc
    findIn? key (SortedMap.ofList (members.map fun member => (member.1, arranged member.2))).entries
        = findIn? key (members.map fun member => (member.1, arranged member.2)) :=
      find?_ofList_of_nodup hkeys key
    _ = (findIn? key members).map arranged := findIn?_map arranged key members

/-- A member that is left out when its value is absent has an arranged value. -/
theorem isArranged_of_mem_optional {α : Type} {encode : α → Json}
    (h : ∀ value, (encode value).IsArranged) (key : String) (value : Option α) :
    ∀ member ∈ Json.optional key encode value, member.2.IsArranged := by
  cases value with
  | none => exact List.forall_mem_nil _
  | some value => exact List.forall_mem_singleton.mpr (h value)

end Json

/-! ### Values of texts -/

namespace Reading

open Json

mutual

/-- The value of a reading is arranged. -/
theorem isArranged_of_value? : ∀ (reading : Reading) (value : Json),
    reading.value? = some value → value.IsArranged
  | .null, value, h => by
    cases h
    rfl
  | .bool _, value, h => by
    cases h
    rfl
  | .number _, value, h => by
    cases h
    rfl
  | .string _, value, h => by
    cases h
    rfl
  | .array items ending, value, h => by
    rw [value?] at h
    split_ifs at h
    obtain ⟨values, hvalues, rfl⟩ := Option.map_eq_some_iff.mp h
    exact isArranged_array (isArranged_of_valueItems? items values hvalues)
  | .object members ending, value, h => by
    rw [value?] at h
    split_ifs at h
    obtain ⟨values, hvalues, rfl⟩ := Option.map_eq_some_iff.mp h
    exact isArranged_ofMembers (isArranged_of_valueMembers? members values hvalues)
  | .unreadable, value, h => by cases h
  | .broken, value, h => by cases h

/-- The values of items are arranged. -/
theorem isArranged_of_valueItems? : ∀ (items : List Reading) (values : List Json),
    valueItems? items = some values → ∀ value ∈ values, value.IsArranged
  | [], values, h => by
    cases h
    exact List.forall_mem_nil _
  | item :: rest, values, h => by
    rw [valueItems?] at h
    split at h
    · rename_i value others hvalue hothers
      cases h
      exact List.forall_mem_cons.mpr
        ⟨isArranged_of_value? item value hvalue, isArranged_of_valueItems? rest others hothers⟩
    · cases h

/-- The values of members are arranged. -/
theorem isArranged_of_valueMembers? : ∀ (members : List (String × Reading))
    (values : List (String × Json)),
    valueMembers? members = some values → ∀ member ∈ values, member.2.IsArranged
  | [], values, h => by
    cases h
    exact List.forall_mem_nil _
  | (key, item) :: rest, values, h => by
    rw [valueMembers?] at h
    split at h
    · rename_i value others hvalue hothers
      cases h
      exact List.forall_mem_cons.mpr
        ⟨isArranged_of_value? item value hvalue, isArranged_of_valueMembers? rest others hothers⟩
    · cases h

end

end Reading

/-- **The value of a text is arranged.** -/
theorem Json.isArranged_of_parse? {text : String} {value : Json} (h : Json.parse? text = some value) :
    value.IsArranged := by
  simp only [Json.parse?] at h
  split_ifs at h
  exact Reading.isArranged_of_value? _ value h

/-! ### Decoding and encoding -/

namespace Decoder

variable {α : Type}

/-- A value is read back from its encoding, whether the members of objects stand as they are written or
in order. -/
structure ReadsBack (decode : Decoder Json α) (encode : α → Json) (value : α) : Prop where
  /-- It is read back as it is written. -/
  written : decode (encode value) = .ok value
  /-- It is read back when the encoding is arranged. -/
  arranged : decode (encode value).arranged = .ok value

/-- What is read back from an arranged encoding is read back. -/
theorem ReadsBack.of_isArranged {decode : Decoder Json α} {encode : α → Json} {value : α}
    (harranged : (encode value).IsArranged) (h : decode (encode value) = .ok value) :
    ReadsBack decode encode value :=
  ⟨h, harranged.symm ▸ h⟩

/-- The encoding of what a value decodes to. -/
def reencode (decode : Decoder Json α) (encode : α → Json) (value : Json) : Except DecodeError Json :=
  (decode value).map encode

/-- Encoding after decoding settles at once when whatever is decoded is read back. -/
theorem reencode_reencode {decode : Decoder Json α} {encode : α → Json}
    (h : ∀ value made, decode value = .ok made → decode (encode made) = .ok made) {value written : Json}
    (hwritten : reencode decode encode value = .ok written) :
    reencode decode encode written = .ok written := by
  obtain ⟨made, hmade, rfl⟩ := map_eq_ok.mp hwritten
  rw [reencode, h value made hmade, Except.map]

/-- Decoding and encoding fit each other on the values with a property. -/
structure RoundTrips (decode : Decoder Json α) (encode : α → Json) (P : α → Prop) : Prop where
  /-- A value with the property is read back. -/
  readsBack : ∀ value, P value → ReadsBack decode encode value
  /-- Whatever is decoded has the property. -/
  decoded : ∀ node value, decode node = .ok value → P value
  /-- Encoding after decoding settles at once. -/
  settles : ∀ node written, reencode decode encode node = .ok written →
    reencode decode encode written = .ok written
  /-- So it does when encodings are arranged. -/
  settlesArranged : ∀ node written,
    reencode decode (fun value => (encode value).arranged) node = .ok written →
      reencode decode (fun value => (encode value).arranged) written = .ok written

/-- **Decoding and encoding fit each other when what has the property is read back and whatever is
decoded has it.** -/
theorem roundTrips {decode : Decoder Json α} {encode : α → Json} {P : α → Prop}
    (hread : ∀ value, P value → ReadsBack decode encode value)
    (hdecoded : ∀ node value, decode node = .ok value → P value) : RoundTrips decode encode P where
  readsBack := hread
  decoded := hdecoded
  settles _ _ h :=
    reencode_reencode (fun node value hvalue => (hread value (hdecoded node value hvalue)).written) h
  settlesArranged _ _ h :=
    reencode_reencode (fun node value hvalue => (hread value (hdecoded node value hvalue)).arranged) h

end Decoder

end RelayFeeds
