import RelayFeeds.Proofs.Filter.Codec
import RelayFeeds.Relay.Library

/-! # What is relied on of a library

A library reads the text of an object of constraints and gives an object of constraints again. What is
relied on is said key by key, for any such object whether it comes from a filter or not: which objects
are read and which are refused, and what the object that comes back has under a key of each kind.
Nothing is said of ids and authors that are spelled in another way than by 64 hexadecimal digits.

* **`ConstraintObject`** — constraints under distinct keys.
* **`SameValues`** — a member has the values of a list, whatever their order.
* **`RelayLibrary.Conforms`** — what is relied on. -/

namespace RelayFeeds

open SortedMap

/-- A text with its hexadecimal digits in lower case. -/
def Text.lowerHex (text : String) : String := String.ofList (text.toList.map lowerHexDigit)

/-- The number of a kind. -/
def kindJson (kind : UInt16) : Json := .number (.ofUInt16 kind)

/-- A constraint as a member of an object. -/
inductive IsConstraint : String × Json → Prop where
  /-- Ids or authors. -/
  | keys {key : String} (h : key = "ids" ∨ key = "authors") (texts : List String) :
      IsConstraint (key, .strings texts)
  /-- Kinds. -/
  | kinds {key : String} (h : key = "kinds") (kinds : List UInt16) :
      IsConstraint (key, .array (kinds.map kindJson))
  /-- A bound on times or on the number of events. -/
  | bound {key : String} (h : key = "since" ∨ key = "until" ∨ key = "limit") (bound : UInt64) :
      IsConstraint (key, Filter.boundJson bound)
  /-- A search. -/
  | search {key : String} (h : key = "search") (text : String) : IsConstraint (key, .string text)
  /-- A tag constraint. -/
  | tag {key : String} (h : key ∉ Filter.fixedKeys) (texts : List String) :
      IsConstraint (key, .strings texts)

/-- Constraints under distinct keys. -/
structure ConstraintObject where
  /-- The members. -/
  members : List (String × Json)
  /-- The keys are distinct. -/
  nodup_keys : (members.map Prod.fst).Nodup
  /-- The members are constraints. -/
  isConstraint : ∀ member ∈ members, IsConstraint member

namespace ConstraintObject

variable (object : ConstraintObject)

/-- The keys of the constraints. -/
def keys : List String := object.members.map Prod.fst

/-- The constraint under a key. -/
def member? (key : String) : Option Json := findIn? key object.members

/-- The compact text of the object. -/
def text : String := (Json.object object.members).print

end ConstraintObject

/-- A member is an array of the same values as a list once these are spelled alike, in any order and
number; it is absent when the list is. -/
def SameValues {α : Type} (encode : α → Json) (spell : α → α) (values : Option (List α))
    (node : Option Json) : Prop :=
  match values with
  | none => node = none
  | some values => ∃ others : List α, node = some (.array (others.map encode)) ∧
    ∀ a, a ∈ others.map spell ↔ a ∈ values.map spell

/-- Texts that may be absent are keys of 64 hexadecimal digits. -/
def AreKeys (texts : Option (List String)) : Prop :=
  ∀ given, texts = some given → ∀ text ∈ given, Text.isHexKey text = true

/-- What is relied on of a library. -/
structure RelayLibrary.Conforms {φ : Type} (library : RelayLibrary φ) : Prop where
  /-- It reads an object whose ids and authors are keys, unless some constraint stands under a hash
  and one character that is no letter. -/
  accepts {object : ConstraintObject} {ids authors : Option (List String)}
    (hids : object.member? "ids" = ids.map Json.strings) (hidKeys : AreKeys ids)
    (hauthors : object.member? "authors" = authors.map Json.strings) (hauthorKeys : AreKeys authors)
    (hforms : ∀ key ∈ object.keys, KeyForm.of key ≠ .sign) :
    ∃ query, library.read object.text = some query
  /-- It refuses an object with a constraint under a hash and one character that is no letter. -/
  refuses {object : ConstraintObject} (hform : ∃ key ∈ object.keys, KeyForm.of key = .sign) :
    library.read object.text = none
  /-- Ids and authors that are keys are kept in some spelling. -/
  keys {object : ConstraintObject} {query : φ} (hread : library.read object.text = some query)
    {key : String} (hkey : key = "ids" ∨ key = "authors") {texts : Option (List String)}
    (hgiven : object.member? key = texts.map Json.strings) (hkeys : AreKeys texts) :
    SameValues Json.string Text.lowerHex texts ((library.toJson query).member? key)
  /-- Kinds are kept. -/
  kinds {object : ConstraintObject} {query : φ} (hread : library.read object.text = some query)
    {kinds : Option (List UInt16)}
    (hgiven : object.member? "kinds" = kinds.map fun kinds => .array (kinds.map kindJson)) :
    SameValues kindJson id kinds ((library.toJson query).member? "kinds")
  /-- Bounds and searches are kept. -/
  scalars {object : ConstraintObject} {query : φ} (hread : library.read object.text = some query)
    {key : String} (hkey : key ∈ ["since", "until", "limit", "search"]) :
    (library.toJson query).member? key = object.member? key
  /-- Tag constraints under a hash and one letter are kept. -/
  tags {object : ConstraintObject} {query : φ} (hread : library.read object.text = some query)
    {key : String} (hkey : KeyForm.of key = .letter) {texts : Option (List String)}
    (hgiven : object.member? key = texts.map Json.strings) :
    SameValues Json.string id texts ((library.toJson query).member? key)
  /-- Whatever stands under any other key without a meaning of its own is dropped. -/
  drops {object : ConstraintObject} {query : φ} (hread : library.read object.text = some query)
    {key : String} (hfixed : key ∉ Filter.fixedKeys) (hform : KeyForm.of key ≠ .letter) :
    (library.toJson query).member? key = none

namespace Filter

/-- A fixed key has neither a hash nor one character. -/
theorem of_eq_other_of_mem_fixedKeys : ∀ key ∈ fixedKeys, KeyForm.of key = .other := by
  decide

/-- A key of a hash and one letter is none of the fixed ones. -/
theorem not_mem_fixedKeys_of_letter {key : String} (h : KeyForm.of key = .letter) :
    key ∉ fixedKeys := by
  intro hfixed
  rw [of_eq_other_of_mem_fixedKeys key hfixed] at h
  cases h

variable {filter : Filter}

/-- A filter can be written when its tag keys are a hash and one letter. -/
theorem isWritable_of_letter (h : ∀ key ∈ filter.tags.keys, KeyForm.of key = .letter) :
    filter.IsWritable :=
  fun key hkey => not_mem_fixedKeys_of_letter (h key hkey)

/-- The members of a filter are constraints. -/
theorem isConstraint_of_mem_members (h : filter.IsWritable) :
    ∀ member ∈ filter.members, IsConstraint member := by
  have hoptional : ∀ {α : Type} {key : String} {encode : α → Json} {value : Option α},
      (∀ a, IsConstraint (key, encode a)) →
        ∀ member ∈ Json.optional key encode value, IsConstraint member := by
    intro α key encode value hencode
    cases value with
    | none => exact List.forall_mem_nil _
    | some a => exact List.forall_mem_singleton.mpr (hencode a)
  simp only [members, fixedMembers, List.forall_mem_append]
  refine ⟨⟨⟨⟨⟨⟨⟨?_, ?_⟩, ?_⟩, ?_⟩, ?_⟩, ?_⟩, ?_⟩, ?_⟩
  · exact hoptional fun ids => .keys (Or.inl rfl) ids.toList
  · exact hoptional fun authors => .keys (Or.inr rfl) authors.toList
  · exact hoptional fun kinds => .kinds rfl kinds.toList
  · exact hoptional (.bound (Or.inl rfl))
  · exact hoptional (.bound (Or.inr (Or.inl rfl)))
  · exact hoptional (.bound (Or.inr (Or.inr rfl)))
  · exact hoptional (.search rfl)
  · refine List.forall_mem_map.mpr fun entry hentry => ?_
    exact .tag (h entry.1 (List.mem_map_of_mem hentry)) entry.2.toList

/-- The texts of a set of texts that may be absent. -/
abbrev textsOf (values : Option (SortedSet String)) : Option (List String) :=
  values.map SortedSet.toList

/-- The constraints of a filter. -/
def constraints (filter : Filter) (h : filter.IsWritable) : ConstraintObject :=
  ⟨filter.members, nodup_keys_members h, isConstraint_of_mem_members h⟩

/-- The text of the constraints of a filter is that of the filter. -/
@[simp] theorem text_constraints (h : filter.IsWritable) :
    (filter.constraints h).text = filter.toJson.print := rfl

/-- What stands under a key of the constraints of a filter. -/
theorem member?_constraints (h : filter.IsWritable) (key : String) :
    (filter.constraints h).member? key = findIn? key filter.members := rfl

/-- The ids of a filter are those of its constraints. -/
theorem member?_ids (hwritable : filter.IsWritable) :
    (filter.constraints hwritable).member? "ids" =
      (textsOf filter.ids).map Json.strings := by
  rw [member?_constraints, (foundIn_members hwritable).ids, Option.map_map]
  rfl

/-- The authors of a filter are those of its constraints. -/
theorem member?_authors (hwritable : filter.IsWritable) :
    (filter.constraints hwritable).member? "authors" =
      (textsOf filter.authors).map Json.strings := by
  rw [member?_constraints, (foundIn_members hwritable).authors, Option.map_map]
  rfl

/-- The constraints of a filter stand under fixed keys and its tag keys. -/
theorem keys_constraints (hwritable : filter.IsWritable) :
    (filter.constraints hwritable).keys =
      filter.fixedMembers.map Prod.fst ++ filter.tags.keys := by
  change (filter.fixedMembers ++ filter.tagMembers).map Prod.fst = _
  rw [List.map_append, keys_tagMembers]

end Filter

end RelayFeeds
