import RelayFeeds.Proofs.Json.Decoding
import RelayFeeds.Proofs.Number.Finite

/-! # Finite values and what decodes from them

JSON has no numeral for an infinity or for what is no number, so the doubles of a JSON value are
finite. A decoder of such values can therefore promise something about what it makes of them.

* **`Json.isFinite`** — all doubles of a value are finite.
* **`Record.Makes.yields_decode`** — what a record promises field by field, it promises for whatever
  it decodes, from an object or from an array. -/

namespace RelayFeeds

namespace Json

mutual

/-- Whether all doubles of a value are finite. -/
def isFinite : Json → Bool
  | .number (.double x) => x.isFinite
  | .array items => isFiniteItems items
  | .object members => isFiniteMembers members
  | _ => true

/-- Whether all doubles of the items of an array are finite. -/
def isFiniteItems : List Json → Bool
  | [] => true
  | item :: rest => isFinite item && isFiniteItems rest

/-- Whether all doubles of the members of an object are finite. -/
def isFiniteMembers : List (String × Json) → Bool
  | [] => true
  | (_, value) :: rest => isFinite value && isFiniteMembers rest

end

/-- An array is finite when its items are. -/
theorem isFinite_array {items : List Json} :
    (Json.array items).isFinite = true ↔ ∀ item ∈ items, item.isFinite = true := by
  rw [isFinite]
  induction items with
  | nil => simp [isFiniteItems]
  | cons item rest ih => rw [isFiniteItems, Bool.and_eq_true, ih, List.forall_mem_cons]

/-- An object is finite when the values of its members are. -/
theorem isFinite_object {members : List (String × Json)} :
    (Json.object members).isFinite = true ↔ ∀ member ∈ members, member.2.isFinite = true := by
  rw [isFinite]
  induction members with
  | nil => simp [isFiniteMembers]
  | cons member rest ih => rw [isFiniteMembers, Bool.and_eq_true, ih, List.forall_mem_cons]

end Json

open SortedMap

/-! ### Promises of decoders -/

namespace Decoder

variable {α : Type}

/-- Whatever a decoder makes of a finite value has a property. -/
def Yields (decode : Decoder Json α) (P : α → Prop) : Prop :=
  ∀ value : Json, value.isFinite = true → ∀ a, decode value = .ok a → P a

/-- A decoded double is finite. -/
theorem yields_double : Yields double (fun x => x.isFinite = true) := by
  intro value hvalue x hx
  cases value with
  | number number =>
    cases number with
    | integer n fits =>
      cases hx
      exact Double.isFinite_ofInt fits
    | double y =>
      cases hx
      exact hvalue
  | _ => cases hx

/-- The items of decoded arrays have what a decoded item has. -/
theorem forall_of_items {decode : Decoder Json α} {P : α → Prop} (h : Yields decode P)
    {nodes : List Json} (hnodes : ∀ node ∈ nodes, node.isFinite = true) {values : List α}
    (hvalues : items decode nodes = .ok values) : ∀ value ∈ values, P value := by
  intro value hmem
  obtain ⟨node, hnode, hvalue⟩ := exists_node_of_items hvalues value hmem
  exact h node (hnodes node hnode) value hvalue

/-- The items of a decoded array have what a decoded item has. -/
theorem Yields.list {decode : Decoder Json α} {P : α → Prop} (h : Yields decode P) :
    Yields (list decode) (fun values => ∀ value ∈ values, P value) := by
  intro value hvalue values hvalues
  cases value with
  | array nodes =>
    simp only [Decoder.list, Source.shape, if_true] at hvalues
    split at hvalues
    · cases hvalues
    · rename_i made hmade
      cases hvalues
      exact forall_of_items h (Json.isFinite_array.mp hvalue) hmade
  | _ => cases hvalues

/-- Any decoder keeps to an empty promise. -/
theorem yields_true (decode : Decoder Json α) : Yields decode (fun _ => True) :=
  fun _ _ _ _ => trivial

end Decoder

namespace Record

variable {α β : Type}

/-- Whatever a record is made into, from members or from leading items that are finite, has a
property. -/
structure Makes (record : Record Json α) (P : α → Prop) : Prop where
  /-- What some members make has the property. -/
  members : ∀ members : List (String × Json), (∀ member ∈ members, member.2.isFinite = true) →
    ∀ value, record.ofMembers members = .ok value → P value
  /-- What some leading items make has the property, and the items left over are finite. -/
  items : ∀ (short : DecodeError) (items : List Json), (∀ item ∈ items, item.isFinite = true) →
    ∀ value rest, record.ofItems short items = .ok (value, rest) →
      P value ∧ ∀ item ∈ rest, item.isFinite = true

/-- The record without fields makes its value. -/
theorem makes_start {value : α} {P : α → Prop} (h : P value) : (start value).Makes P where
  members members _ made hmade := by
    cases hmade
    exact h
  items short items hitems made rest hmade := by
    cases hmade
    exact ⟨h, hitems⟩

/-- **One more field makes what the earlier ones make of what it yields.** -/
theorem Makes.field {record : Record Json (α → β)} {field : Field Json α} {P : α → Prop}
    {Q : β → Prop} (h : record.Makes (fun make => ∀ a, P a → Q (make a)))
    (hgiven : Decoder.Yields field.decode P) (habsent : ∀ a, field.absent = some a → P a) :
    (record.field field).Makes Q where
  members members hmembers made hmade := by
    obtain ⟨make, value, hmake, hvalue, rfl⟩ := ofMembers_field_eq_ok.mp hmade
    refine h.members members hmembers make hmake value ?_
    rw [fieldOf] at hvalue
    split at hvalue
    · rename_i node hnode
      exact hgiven node (hmembers _ (mem_of_findIn? hnode)) value hvalue
    · split at hvalue
      · rename_i absent hdefault
        cases hvalue
        exact habsent _ hdefault
      · cases hvalue
  items short items hitems made rest hmade := by
    simp only [Record.field] at hmade
    split at hmade
    · cases hmade
    · rename_i make hmake
      split at hmade
      · rename_i absent hdefault
        cases hmade
        obtain ⟨hQ, -⟩ := h.items short items hitems make [] hmake
        exact ⟨hQ _ (habsent _ hdefault), fun item hmem => absurd hmem List.not_mem_nil⟩
      · cases hmade
    · rename_i make node later hmake
      obtain ⟨hQ, hlater⟩ := h.items short items hitems make (node :: later) hmake
      obtain ⟨hnode, hrest⟩ := List.forall_mem_cons.mp hlater
      cases hvalue : field.decode node with
      | error fault =>
        rw [hvalue] at hmade
        cases hmade
      | ok value =>
        rw [hvalue] at hmade
        cases hmade
        exact ⟨hQ value (hgiven node hnode value hvalue), hrest⟩

/-- **What a record makes, it yields**, decoded from an object or from an array. -/
theorem Makes.yields_decode {record : Record Json α} {P : α → Prop} (h : record.Makes P)
    (name : String) : Decoder.Yields (record.decode name) P := by
  intro value hvalue made hmade
  cases value with
  | object members =>
    simp only [Record.decode, Source.shape, if_true] at hmade
    split at hmade
    · cases hmade
    · exact h.members members (Json.isFinite_object.mp hvalue) made hmade
  | array items =>
    simp only [Record.decode, Source.shape, if_true] at hmade
    split at hmade
    · cases hmade
    · rename_i value rest hitems
      obtain ⟨hP, -⟩ := h.items _ items (Json.isFinite_array.mp hvalue) value rest hitems
      simp only [Decoder.finish, if_true] at hmade
      split at hmade
      · cases hmade
      · cases hmade
        exact hP
  | _ => cases hmade

end Record

end RelayFeeds
