import RelayFeeds.Filter.Codec
import RelayFeeds.Proofs.Ordered.Contents

/-! # Reading back what was written

A decoder reads a value back when it decodes an encoding of the value to the value. Arrays are read
back item by item and records field by field: in an object with distinct keys each field is looked up
on its own, so neither the order of the members nor the members of other fields matter.

* **`Decoder.list_array`** — an array is read back when its items are.
* **`Record.decode_object`** — an object with distinct keys decodes to the record of its members.
* **`Record.fieldOf_nullable`**, **`Record.fieldOf_list`** — fields that are left out when absent or
  empty are read back.
* **`Record.makesOf_decode`**, **`Record.MakesOf.field`** — a decoded record is made of what its fields
  give. -/

namespace RelayFeeds

/-! ### Members by their keys -/

namespace SortedMap

universe u v

variable {κ : Type u} {ν : Type v} [DecidableEq κ]

/-- What is found under a key of two lists is found in the first, or else in the second. -/
theorem findIn?_append (key : κ) (entries others : List (κ × ν)) :
    findIn? key (entries ++ others) = (findIn? key entries).or (findIn? key others) := by
  induction entries with
  | nil => rfl
  | cons head rest ih =>
    rw [List.cons_append, findIn?, findIn?, ih]
    split <;> rfl

/-- What is found under a key is an entry with that key. -/
theorem mem_of_findIn? {key : κ} {value : ν} {entries : List (κ × ν)}
    (h : findIn? key entries = some value) : (key, value) ∈ entries := by
  induction entries with
  | nil => cases h
  | cons head rest ih =>
    rw [findIn?] at h
    split at h
    · rename_i hkey
      cases h
      exact List.mem_cons.mpr (Or.inl (Prod.ext hkey.symm rfl))
    · exact List.mem_cons_of_mem _ (ih h)

end SortedMap

open SortedMap

section

variable {α : Type} {key name : String} {encode : α → Json} {value : Option α}

/-- A member that is left out when its value is absent is found under its name. -/
theorem findIn?_optional :
    findIn? key (Json.optional name encode value) =
      if name = key then value.map encode else none := by
  cases value with
  | none => exact (ite_self none).symm
  | some value => rfl

/-- The keys of a member that is left out when its value is absent. -/
theorem keys_optional : ((Json.optional name encode value).map Prod.fst).Sublist [name] := by
  cases value with
  | none => exact List.nil_sublist _
  | some value => exact List.Sublist.refl _

/-- A member that is left out on a condition is found under its name. -/
theorem findIn?_unless {absent : Bool} {node : Json} :
    findIn? key (if absent then [] else [(name, node)]) =
      if name = key then (if absent then none else some node) else none := by
  cases absent with
  | true => exact (ite_self none).symm
  | false => rfl

/-- The keys of a member that is left out on a condition. -/
theorem keys_unless {absent : Bool} {node : Json} :
    ((if absent then [] else [(name, node)]).map Prod.fst).Sublist [name] := by
  cases absent with
  | true => exact List.nil_sublist _
  | false => exact List.Sublist.refl _

end

namespace Decoder

variable {α β : Type}

/-- What a decoder reads comes out of a function when it was decoded to an argument of it. -/
theorem map_eq_ok {result : Except DecodeError α} {f : α → β} {made : β} :
    result.map f = .ok made ↔ ∃ value, result = .ok value ∧ made = f value := by
  cases result with
  | error fault => simp [Except.map]
  | ok value => simp [Except.map, eq_comm]

/-! ### Values by their kind -/

/-- A whole number below the bound is read back. -/
theorem natural_integer {bound n : Nat} (h : n < bound) (wanted : String)
    (fits : -0x8000000000000000 ≤ Int.ofNat n ∧ Int.ofNat n < 0x10000000000000000) :
    natural bound wanted (.number (.integer (Int.ofNat n) fits) : Json) = .ok n := by
  have hbounds : (0 ≤ Int.ofNat n && Int.ofNat n < Int.ofNat bound) = true := by
    simpa using h
  exact if_pos hbounds

/-- A text is read back. -/
theorem string_string (text : String) : string (.string text : Json) = .ok text := rfl

/-- A 16-bit number is read back. -/
@[simp] theorem uint16_number (n : UInt16) : uint16 (.number (.ofUInt16 n) : Json) = .ok n := by
  rw [uint16, Number.ofUInt16, natural_integer n.toNat_lt]
  exact congrArg Except.ok (UInt16.ofNat_toNat)

/-- A 64-bit number is read back. -/
@[simp] theorem uint64_number (n : UInt64) : uint64 (.number (.ofUInt64 n) : Json) = .ok n := by
  rw [uint64, Number.ofUInt64, natural_integer n.toNat_lt]
  exact congrArg Except.ok (UInt64.ofNat_toNat)

/-- A count is read back. -/
theorem count_number (n : UInt64) : count (.number (.ofUInt64 n) : Json) = .ok n := by
  rw [count, Number.ofUInt64, natural_integer n.toNat_lt]
  exact congrArg Except.ok (UInt64.ofNat_toNat)

/-- Items are read back one by one. -/
theorem items_map {decode : Decoder Json α} {encode : α → Json} {values : List α}
    (h : ∀ value ∈ values, decode (encode value) = .ok value) :
    items decode (values.map encode) = .ok values := by
  induction values with
  | nil => rfl
  | cons value rest ih =>
    obtain ⟨hvalue, hrest⟩ := List.forall_mem_cons.mp h
    rw [List.map_cons, items, hvalue, ih hrest]

/-- When a decoder reads some values only, and each as another value, so it does with their items. -/
theorem items_map_eq_ok {decode : Decoder Json β} {encode : α → Json} {readable : α → Prop}
    {read : α → β} (h : ∀ a b, decode (encode a) = .ok b ↔ readable a ∧ b = read a)
    {values : List α} {made : List β} :
    items decode (values.map encode) = .ok made ↔
      (∀ value ∈ values, readable value) ∧ made = values.map read := by
  induction values generalizing made with
  | nil =>
    constructor
    · intro hmade
      cases hmade
      exact ⟨nofun, rfl⟩
    · rintro ⟨-, rfl⟩
      rfl
  | cons value rest ih =>
    rw [List.map_cons, items, List.forall_mem_cons]
    constructor
    · intro hmade
      cases hvalue : decode (encode value) with
      | error fault =>
        rw [hvalue] at hmade
        cases hmade
      | ok first =>
        cases hrest : items decode (rest.map encode) with
        | error fault =>
          rw [hvalue, hrest] at hmade
          cases hmade
        | ok others =>
          rw [hvalue, hrest] at hmade
          cases hmade
          obtain ⟨hfirst, rfl⟩ := (h value first).mp hvalue
          obtain ⟨hothers, rfl⟩ := ih.mp hrest
          exact ⟨⟨hfirst, hothers⟩, rfl⟩
    · rintro ⟨⟨hvalue, hrest⟩, rfl⟩
      rw [(h value _).mpr ⟨hvalue, rfl⟩, ih.mpr ⟨hrest, rfl⟩]
      rfl

/-- When a decoder reads some values only, and each as another value, so it does with an array of
them. -/
theorem list_array_eq_ok {decode : Decoder Json β} {encode : α → Json} {readable : α → Prop}
    {read : α → β} (h : ∀ a b, decode (encode a) = .ok b ↔ readable a ∧ b = read a)
    {values : List α} {made : List β} :
    list decode (.array (values.map encode)) = .ok made ↔
      (∀ value ∈ values, readable value) ∧ made = values.map read := by
  rw [← items_map_eq_ok h]
  simp only [list, Source.shape]
  cases items decode (values.map encode) <;> rfl

/-- **An array is read back when its items are.** -/
theorem list_array {decode : Decoder Json α} {encode : α → Json} {values : List α}
    (h : ∀ value ∈ values, decode (encode value) = .ok value) :
    list decode (.array (values.map encode)) = .ok values := by
  simp only [list, Source.shape, items_map h, if_true]

/-- Every decoded item is decoded from one of the nodes. -/
theorem exists_node_of_items {decode : Decoder Json α} {nodes : List Json} {values : List α}
    (h : items decode nodes = .ok values) :
    ∀ value ∈ values, ∃ node ∈ nodes, decode node = .ok value := by
  induction nodes generalizing values with
  | nil =>
    cases h
    exact List.forall_mem_nil _
  | cons node rest ih =>
    rw [items] at h
    split at h
    · cases h
    · rename_i first hfirst
      split at h
      · cases h
      · rename_i others hothers
        cases h
        refine List.forall_mem_cons.mpr ⟨⟨node, List.mem_cons_self, hfirst⟩, fun value hmem => ?_⟩
        obtain ⟨node, hnode, hvalue⟩ := ih hothers value hmem
        exact ⟨node, List.mem_cons_of_mem _ hnode, hvalue⟩

/-- Every item of a decoded array is decoded from some node. -/
theorem exists_node_of_list {decode : Decoder Json α} {node : Json} {values : List α}
    (h : list decode node = .ok values) : ∀ value ∈ values, ∃ item, decode item = .ok value := by
  cases node with
  | array nodes =>
    simp only [list, Source.shape, if_true] at h
    split at h
    · cases h
    · rename_i made hmade
      cases h
      intro value hmem
      obtain ⟨node, -, hnode⟩ := exists_node_of_items hmade value hmem
      exact ⟨node, hnode⟩
  | _ => cases h

/-- Texts are read back. -/
@[simp] theorem list_strings (texts : List String) :
    list string (Json.strings texts) = .ok texts :=
  list_array fun _ _ => rfl

/-- What is not null is read back by a decoder that takes null for nothing. -/
theorem nullable_eq_some {decode : Decoder Json α} {node : Json} {value : α} (hnode : node ≠ .null)
    (h : decode node = .ok value) : nullable decode node = .ok (some value) := by
  cases node with
  | null => exact absurd rfl hnode
  | _ => simp only [nullable, Source.shape, h, Except.map]

/-- What is decoded by a decoder that takes null for nothing is decoded without it. -/
theorem decode_of_nullable {decode : Decoder Json α} {node : Json} {value : α}
    (h : nullable decode node = .ok (some value)) : decode node = .ok value := by
  cases node with
  | null => cases h
  | _ =>
    obtain ⟨made, hmade, hsome⟩ := map_eq_ok.mp h
    cases hsome
    exact hmade

/-- Two items are read back. -/
theorem pair_array {first : Decoder Json α} {second : Decoder Json β} {a b : Json} {x : α} {y : β}
    (ha : first a = .ok x) (hb : second b = .ok y) :
    pair first second (.array [a, b]) = .ok (x, y) := by
  simp only [pair, Source.shape, ha, hb]
  rfl

end Decoder

namespace Record

variable {α β : Type}

/-! ### Records -/

/-- Members that make up a record pass the checks of its fields. -/
def Checked (record : Record Json α) : Prop :=
  ∀ members value, record.ofMembers members = .ok value →
    ∀ key check, (key, check) ∈ record.checks →
      ∀ node, findIn? key members = some node → check node = .ok ()

/-- The record without fields is its value. -/
theorem ofMembers_start (value : α) (members : List (String × Json)) :
    (start value : Record Json α).ofMembers members = .ok value := rfl

/-- There is nothing to check without fields. -/
theorem checked_start (value : α) : (start value : Record Json α).Checked := by
  intro members made h key check hcheck
  cases hcheck

/-- A record with one more field is made from its earlier fields and that one. -/
theorem ofMembers_field_eq_ok {record : Record Json (α → β)} {field : Field Json α}
    {members : List (String × Json)} {made : β} :
    (record.field field).ofMembers members = .ok made ↔
      ∃ make value, record.ofMembers members = .ok make ∧ fieldOf field members = .ok value ∧
        made = make value := by
  simp only [Record.field]
  cases hmake : record.ofMembers members with
  | error fault => simp
  | ok make =>
    cases hvalue : fieldOf field members with
    | error fault => simp [Except.map]
    | ok value => simp [Except.map, eq_comm]

/-- One more field adds its own check. -/
theorem Checked.field {record : Record Json (α → β)} (h : record.Checked) (field : Field Json α) :
    (record.field field).Checked := by
  intro members made hmade key check hcheck node hnode
  obtain ⟨make, value, hmake, hvalue, -⟩ := ofMembers_field_eq_ok.mp hmade
  obtain hearlier | hown := List.mem_append.mp hcheck
  · exact h members make hmake key check hearlier node hnode
  · cases List.mem_singleton.mp hown
    simp only [fieldOf, hnode] at hvalue
    simp only [hvalue, Except.map]

/-- A record is made of what is found under keys, wherever the members stand. -/
def LooksUp (record : Record Json α) : Prop :=
  ∀ members others, (∀ key, findIn? key members = findIn? key others) →
    record.ofMembers members = record.ofMembers others

/-- The record without fields is made of nothing. -/
theorem looksUp_start (value : α) : (start value : Record Json α).LooksUp := fun _ _ _ => rfl

/-- One more field is looked up under its name. -/
theorem LooksUp.field {record : Record Json (α → β)} (h : record.LooksUp) (field : Field Json α) :
    (record.field field).LooksUp := by
  intro members others hfound
  have hfield : fieldOf field members = fieldOf field others := by
    rw [fieldOf, fieldOf, hfound]
  simp only [Record.field, h members others hfound, hfield]

/-- Members with distinct keys are visited without a fault when those with a check pass it. -/
theorem visit_eq_ok {checks : List (String × Decoder Json Unit)} {seen : List String}
    {members : List (String × Json)} (hkeys : (members.map Prod.fst).Nodup)
    (hseen : ∀ key ∈ members.map Prod.fst, key ∉ seen)
    (hchecks : ∀ key node, (key, node) ∈ members →
      ∀ check, findIn? key checks = some check → check node = .ok ()) :
    visit checks skip seen members = .ok () := by
  induction members generalizing seen with
  | nil => rfl
  | cons member rest ih =>
    obtain ⟨key, node⟩ := member
    rw [List.map_cons, List.nodup_cons] at hkeys
    rw [List.map_cons, List.forall_mem_cons] at hseen
    have hrest : ∀ key node, (key, node) ∈ rest →
        ∀ check, findIn? key checks = some check → check node = .ok () :=
      fun key node hmem => hchecks key node (List.mem_cons_of_mem _ hmem)
    rw [visit]
    cases hcheck : findIn? key checks with
    | none =>
      simp only [skip, Source.canSkip, if_true]
      exact ih hkeys.2 hseen.2 hrest
    | some check =>
      have hfresh : seen.contains key = false := by simpa using hseen.1
      simp only [hfresh, Bool.false_eq_true, if_false,
        hchecks key node List.mem_cons_self check hcheck]
      refine ih hkeys.2 (fun other hother => ?_) hrest
      -- the key just visited is none of those that follow
      rw [List.mem_cons, not_or]
      exact ⟨fun heq => hkeys.1 (heq ▸ hother), hseen.2 other hother⟩

/-- Members that make up a record are visited without a fault when their keys are distinct. -/
theorem Checked.visit_eq_ok {record : Record Json α} (hchecked : record.Checked)
    {members : List (String × Json)} (hkeys : (members.map Prod.fst).Nodup) {value : α}
    (h : record.ofMembers members = .ok value) : visit record.checks skip [] members = .ok () := by
  refine Record.visit_eq_ok hkeys (fun _ _ => List.not_mem_nil) ?_
  intro key node hmem check hcheck
  exact hchecked members value h key check (mem_of_findIn? hcheck) node
    ((mem_iff_findIn? hkeys).mp hmem)

/-- **An object with distinct keys decodes to the record of its members.** -/
theorem decode_object {record : Record Json α} (hchecked : record.Checked) {name : String}
    {members : List (String × Json)} (hkeys : (members.map Prod.fst).Nodup) {value : α}
    (h : record.ofMembers members = .ok value) :
    record.decode name (.object members) = .ok value := by
  simp only [Record.decode, Source.shape, hchecked.visit_eq_ok hkeys h, if_true, h]

/-! ### Fields -/

variable {members : List (String × Json)} {name : String}

/-- One more field is read back after the earlier ones. -/
theorem ofMembers_field {record : Record Json (α → β)} {field : Field Json α} {make : α → β}
    {value : α} (hmake : record.ofMembers members = .ok make)
    (hvalue : fieldOf field members = .ok value) :
    (record.field field).ofMembers members = .ok (make value) :=
  ofMembers_field_eq_ok.mpr ⟨make, value, hmake, hvalue, rfl⟩

/-- A field that is given is decoded. -/
theorem fieldOf_given {decode : Decoder Json α} {absent : Option α} {node : Json} {value : α}
    (hnode : findIn? name members = some node) (h : decode node = .ok value) :
    fieldOf ⟨name, decode, absent⟩ members = .ok value := by
  rw [fieldOf, hnode]
  exact h

/-- **A field that is left out when it is absent is read back.** -/
theorem fieldOf_nullable {decode : Decoder Json α} {encode : α → Json} {value : Option α}
    (hnode : findIn? name members = value.map encode)
    (hread : ∀ a, decode (encode a) = .ok a) (hnull : ∀ a, encode a ≠ .null) :
    fieldOf ⟨name, Decoder.nullable decode, some none⟩ members = .ok value := by
  cases value with
  | none => rw [fieldOf, hnode, Option.map_none]
  | some a => exact fieldOf_given hnode (Decoder.nullable_eq_some (hnull a) (hread a))

/-- **A list that is left out when it is empty is read back.** -/
theorem fieldOf_list {decode : Decoder Json α} {encode : α → Json} {values : List α}
    (hnode : findIn? name members =
      if values.isEmpty then none else some (.array (values.map encode)))
    (hread : ∀ a, decode (encode a) = .ok a) :
    fieldOf ⟨name, Decoder.list decode, some []⟩ members = .ok values := by
  cases values with
  | nil => rw [fieldOf, hnode, List.isEmpty_nil, if_pos rfl]
  | cons a rest => exact fieldOf_given hnode (Decoder.list_array fun b _ => hread b)

/-! ### What records are made of -/

/-- A value that a field gives: one that is decoded, or the one that stands for its absence. -/
def Gives (field : Field Json α) (value : α) : Prop :=
  field.absent = some value ∨ ∃ node, field.decode node = .ok value

/-- A value that a record makes of some members or of some leading items. -/
def MakesOf (record : Record Json α) (value : α) : Prop :=
  (∃ members, record.ofMembers members = .ok value) ∨
    ∃ short items rest, record.ofItems short items = .ok (value, rest)

/-- The record without fields makes its value only. -/
theorem MakesOf.start {value made : α} (h : (start value : Record Json α).MakesOf made) :
    made = value := by
  obtain ⟨members, hmade⟩ | ⟨short, items, rest, hmade⟩ := h
  · cases hmade
    rfl
  · cases hmade
    rfl

/-- **A record with one more field makes what the earlier fields and that one give.** -/
theorem MakesOf.field {record : Record Json (α → β)} {field : Field Json α} {made : β}
    (h : (record.field field).MakesOf made) :
    ∃ make value, record.MakesOf make ∧ Gives field value ∧ made = make value := by
  obtain ⟨members, hmade⟩ | ⟨short, items, rest, hmade⟩ := h
  · obtain ⟨make, value, hmake, hvalue, rfl⟩ := ofMembers_field_eq_ok.mp hmade
    refine ⟨make, value, Or.inl ⟨members, hmake⟩, ?_, rfl⟩
    rw [fieldOf] at hvalue
    split at hvalue
    · rename_i node hnode
      exact Or.inr ⟨node, hvalue⟩
    · split at hvalue
      · rename_i absent habsent
        cases hvalue
        exact Or.inl habsent
      · cases hvalue
  · simp only [Record.field] at hmade
    split at hmade
    · cases hmade
    · rename_i make hmake
      split at hmade
      · rename_i absent habsent
        cases hmade
        exact ⟨make, absent, Or.inr ⟨_, _, _, hmake⟩, Or.inl habsent, rfl⟩
      · cases hmade
    · rename_i make node later hmake
      obtain ⟨value, hvalue, hparts⟩ := Decoder.map_eq_ok.mp hmade
      cases hparts
      exact ⟨make, value, Or.inr ⟨_, _, _, hmake⟩, Or.inr ⟨node, hvalue⟩, rfl⟩

/-- **A decoded record is made of some members or of some leading items.** -/
theorem makesOf_decode {record : Record Json α} {name : String} {node : Json} {value : α}
    (h : record.decode name node = .ok value) : record.MakesOf value := by
  cases node with
  | object members =>
    simp only [Record.decode, Source.shape, if_true] at h
    split at h
    · cases h
    · exact Or.inl ⟨members, h⟩
  | array items =>
    simp only [Record.decode, Source.shape, if_true] at h
    split at h
    · cases h
    · rename_i made rest hmade
      simp only [Decoder.finish, if_true] at h
      split at h
      · cases h
      · cases h
        exact Or.inr ⟨_, items, rest, hmade⟩
  | _ => cases h

end Record

end RelayFeeds
