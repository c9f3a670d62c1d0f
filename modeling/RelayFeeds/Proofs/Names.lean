import RelayFeeds.Proofs.Address

/-! # Names select what they name

A name is an address or else an event id. The filters of a list of names put all ids into one filter
and bring those of the addresses into union form, across kinds, authors and identifiers. They still
match the named events and no others, so neither the order of names nor their repetition matters.

* **`Address.isMatch_filter_iff_liesAt`** — the filter of an address matches what lies at it.
* **`anyMatch_idFilters`** — the filter of some ids matches the events that have them.
* **`nameFilters_exact`** — the filters of names match the events that are named. -/

namespace RelayFeeds

/-! ### What a name says -/

/-- An event lies at an address when it has its kind and its author and, unless the identifier is
empty, a `d` tag with it. -/
structure Event.LiesAt (event : Event) (address : Address) : Prop where
  /-- The kind is the event's. -/
  kind : event.kind = address.kind
  /-- The author is the event's. -/
  author : event.author.text = address.author
  /-- The identifier is empty or the value of a `d` tag. -/
  identifier : address.identifier = "" ∨ event.Carries "d" address.identifier

/-- A name is an event's when it spells an address at which the event lies or, where it spells none,
when it is the event's id. -/
def Event.IsNamed (event : Event) (name : String) : Prop :=
  match Address.parse? name with
  | some address => event.LiesAt address
  | none => name = event.id.text

variable {event : Event} {name : String}

/-- A name that spells an address names what lies there. -/
theorem Event.isNamed_of_some {address : Address} (h : Address.parse? name = some address) :
    event.IsNamed name ↔ event.LiesAt address := by
  rw [IsNamed, h]

/-- A name that spells no address is an id. -/
theorem Event.isNamed_of_none (h : Address.parse? name = none) :
    event.IsNamed name ↔ name = event.id.text := by
  rw [IsNamed, h]

/-! ### Filters of names -/

/-- **The filter of an address matches what lies at it.** -/
theorem Address.isMatch_filter_iff_liesAt {address : Address} :
    address.filter.isMatch event = true ↔ event.LiesAt address := by
  rw [Address.isMatch_filter, ← or_iff_not_imp_left]
  exact ⟨fun ⟨hkind, hauthor, hidentifier⟩ => ⟨hkind, hauthor, hidentifier⟩,
    fun h => ⟨h.kind, h.author, h.identifier⟩⟩

/-- **The filter of some ids matches the events that have them**; there is none for no ids. -/
theorem anyMatch_idFilters (ids : List String) :
    Filter.anyMatch (if ids.isEmpty then [] else [{ ids := some (SortedSet.ofList ids) }]) event =
      true ↔ event.id.text ∈ ids := by
  cases ids with
  | nil => simp [Filter.anyMatch]
  | cons id rest => simp [Filter.anyMatch, Filter.isMatch, Filter.found_iff, SortedMap.empty]

/-- The filters of addresses match the events that lie at one of them. -/
theorem anyMatch_union_addresses (addresses : List Address) :
    Filter.anyMatch (Filter.union (addresses.map Address.filter)) event = true ↔
      ∃ address ∈ addresses, event.LiesAt address := by
  rw [Filter.anyMatch_union, Filter.anyMatch, List.any_map, List.any_eq_true]
  exact exists_congr fun address => and_congr_right fun _ => Address.isMatch_filter_iff_liesAt

/-- The filters of names match the events that are named. -/
theorem anyMatch_nameFilters (names : List String) (event : Event) :
    Filter.anyMatch (nameFilters names) event = true ↔ ∃ name ∈ names, event.IsNamed name := by
  -- the ids stand in one filter, the addresses in the others
  have happend : Filter.anyMatch (nameFilters names) event = true ↔
      event.id.text ∈ names.filter (fun name => (Address.parse? name).isNone) ∨
        ∃ address ∈ names.filterMap Address.parse?, event.LiesAt address := by
    rw [← anyMatch_idFilters, ← anyMatch_union_addresses, ← Bool.or_eq_true, Filter.anyMatch,
      Filter.anyMatch, Filter.anyMatch, ← List.any_append]
    rfl
  rw [happend, List.mem_filter, Option.isNone_iff_eq_none]
  constructor
  · rintro (⟨hname, hparse⟩ | ⟨address, haddress, hlies⟩)
    · exact ⟨_, hname, (Event.isNamed_of_none hparse).mpr rfl⟩
    · obtain ⟨name, hname, hparse⟩ := List.mem_filterMap.mp haddress
      exact ⟨name, hname, (Event.isNamed_of_some hparse).mpr hlies⟩
  · rintro ⟨name, hname, hnamed⟩
    cases hparse : Address.parse? name with
    | none =>
      obtain rfl := (Event.isNamed_of_none hparse).mp hnamed
      exact Or.inl ⟨hname, hparse⟩
    | some address =>
      have hlies := (Event.isNamed_of_some hparse).mp hnamed
      exact Or.inr ⟨address, List.mem_filterMap.mpr ⟨name, hname, hparse⟩, hlies⟩

/-- **The filters of names match the events that are named**, and no others. Lists with the same names
match the same events, whatever their order and however often a name is repeated. -/
theorem nameFilters_exact (names : List String) :
    (∀ event, Filter.anyMatch (nameFilters names) event = true ↔
      ∃ name ∈ names, event.IsNamed name) ∧
    ∀ others : List String, (∀ name, name ∈ others ↔ name ∈ names) → ∀ event,
      Filter.anyMatch (nameFilters others) event = Filter.anyMatch (nameFilters names) event := by
  refine ⟨anyMatch_nameFilters names, ?_⟩
  intro others hsame event
  rw [Bool.eq_iff_iff, anyMatch_nameFilters, anyMatch_nameFilters]
  exact exists_congr fun name => and_congr_left fun _ => hsame name

/-- A list of bookmarks with two identifiers. -/
def bookmarks : Event where
  id := HexKey.zero
  author := HexKey.zero
  createdAt := 0
  kind := 30003
  tags := [⟨"d", ["drafts"]⟩, ⟨"d", ["my:list"]⟩]
  content := ""

/-- A spelling of the address that the second identifier gives. -/
def bookmarksName : String := "+30003:" ++ HexKey.zero.text ++ ":my:list"

/-- At names in another order and repeated, one of which spells an address by the second of two
identifiers. -/
theorem nameFilters_exact_bookmarks :
    (∀ name, name ∈ [bookmarksName, "e1", "e1"] ↔ name ∈ ["e1", bookmarksName]) ∧
    Filter.anyMatch (nameFilters ["e1", bookmarksName]) bookmarks = true ∧
    Filter.anyMatch (nameFilters [bookmarksName, "e1", "e1"]) bookmarks = true := by
  have hparse : Address.parse? bookmarksName = some ⟨30003, HexKey.zero.text, "my:list"⟩ := by
    decide +kernel
  have hlies : bookmarks.LiesAt ⟨30003, HexKey.zero.text, "my:list"⟩ :=
    ⟨rfl, rfl, Or.inr ⟨⟨"d", ["my:list"]⟩, by simp [bookmarks], rfl, rfl⟩⟩
  have hsame : ∀ name, name ∈ [bookmarksName, "e1", "e1"] ↔ name ∈ ["e1", bookmarksName] := by
    intro name
    simp [or_comm]
  obtain ⟨hexact, hothers⟩ := nameFilters_exact ["e1", bookmarksName]
  have hmatch := (hexact bookmarks).mpr
    ⟨bookmarksName, by simp, (Event.isNamed_of_some hparse).mpr hlies⟩
  exact ⟨hsame, hmatch, (hothers _ hsame bookmarks).trans hmatch⟩

end RelayFeeds
