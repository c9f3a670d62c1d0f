import RelayFeeds.Proofs.Filter.Assignment
import RelayFeeds.Request.Basic

/-! # What a request item selects

An item selects an event at a relay when it asks for something, does not exclude the relay and does
not exclude the event. At an assignment the filters are read as `Filter.Admits` reads them, so that
items can be combined exactly there:

* **`selects_iff_exists_selectsAt`** — an item selects an event when it selects some assignment for
  it. -/

namespace RelayFeeds.RequestItem

/-- Relays that may be absent allow a relay when they are absent or contain it. -/
def AllowsRelay (relays : Option (List String)) (relay : String) : Prop :=
  ∀ named, relays = some named → relay ∈ named

/-- Filters that may be absent admit an assignment when they are absent or one of them does. -/
def AdmitsSome (filters : Option (List Filter)) {event : Event} (assignment : Assignment event) :
    Prop :=
  ∀ given, filters = some given → ∃ filter ∈ given, filter.Admits assignment

/-- An item selects an event at a relay: it is no no-op, its relays are absent or contain the relay,
and its filters are absent or match the event. -/
structure Selects (item : RequestItem) (relay : String) (event : Event) : Prop where
  /-- It asks for something. -/
  demands : item.isNoop = false
  /-- The relay is not excluded. -/
  relays : AllowsRelay item.relays relay
  /-- The event is not excluded. -/
  filters : ∀ filters, item.filters = some filters → Filter.anyMatch filters event = true

/-- An item selects an assignment at a relay: the same with the filters read at the assignment. -/
structure SelectsAt (item : RequestItem) (relay : String) {event : Event}
    (assignment : Assignment event) : Prop where
  /-- It asks for something. -/
  demands : item.isNoop = false
  /-- The relay is not excluded. -/
  relays : AllowsRelay item.relays relay
  /-- Some filter admits the assignment, if there are filters. -/
  filters : AdmitsSome item.filters assignment

/-- No item names relays. -/
def RelayFree (items : List RequestItem) : Prop := ∀ item ∈ items, item.relays = none

variable {relay : String} {event : Event} {assignment : Assignment event}

/-- Absent relays allow every relay. -/
@[simp] theorem allowsRelay_none : AllowsRelay none relay := by
  rintro _ ⟨⟩

/-- Relays that are present allow those among them. -/
@[simp] theorem allowsRelay_some {relays : List String} :
    AllowsRelay (some relays) relay ↔ relay ∈ relays := by
  simp [AllowsRelay]

/-- Absent filters admit every assignment. -/
@[simp] theorem admitsSome_none : AdmitsSome none assignment := by
  rintro _ ⟨⟩

/-- Filters that are present admit what one of them does. -/
@[simp] theorem admitsSome_some {filters : List Filter} :
    AdmitsSome (some filters) assignment ↔ ∃ filter ∈ filters, filter.Admits assignment := by
  simp [AdmitsSome]

/-- An item of filters on any relay selects what one of the filters admits. -/
@[simp] theorem selectsAt_ofFilters {filters : List Filter} :
    (ofFilters filters).SelectsAt relay assignment ↔
      ∃ filter ∈ filters, filter.Admits assignment := by
  constructor
  · intro h
    exact h.filters filters rfl
  · intro h
    refine ⟨rfl, ?_, ?_⟩
    · rintro _ ⟨⟩
    · rintro _ ⟨⟩
      exact h

/-- An item of anything on some relays selects everything there. -/
@[simp] theorem selectsAt_ofRelays {relays : List String} :
    (ofRelays relays).SelectsAt relay assignment ↔ relay ∈ relays := by
  constructor
  · intro h
    exact h.relays relays rfl
  · intro h
    refine ⟨rfl, ?_, ?_⟩
    · rintro _ ⟨⟩
      exact h
    · rintro _ ⟨⟩

/-- An item with both selects what one of its filters admits on one of its relays. -/
@[simp] theorem selectsAt_mk {filters : List Filter} {relays : List String} :
    (⟨some filters, some relays⟩ : RequestItem).SelectsAt relay assignment ↔
      relay ∈ relays ∧ ∃ filter ∈ filters, filter.Admits assignment := by
  constructor
  · intro h
    exact ⟨h.relays relays rfl, h.filters filters rfl⟩
  · rintro ⟨hrelay, hadmits⟩
    refine ⟨rfl, ?_, ?_⟩
    · rintro _ ⟨⟩
      exact hrelay
    · rintro _ ⟨⟩
      exact hadmits

/-- **An item selects an event when it selects some assignment for it.** -/
theorem selects_iff_exists_selectsAt {item : RequestItem} :
    item.Selects relay event ↔ ∃ assignment : Assignment event, item.SelectsAt relay assignment := by
  constructor
  · rintro ⟨hdemands, hrelays, hfilters⟩
    cases hf : item.filters with
    | none =>
      -- without filters any assignment will do, such as the one that gives no values
      refine ⟨Filter.commonAssignment [] event, hdemands, hrelays, ?_⟩
      rw [hf]
      rintro _ ⟨⟩
    | some filters =>
      obtain ⟨assignment, hadmits⟩ := Filter.anyMatch_iff_exists_admits.mp (hfilters filters hf)
      refine ⟨assignment, hdemands, hrelays, ?_⟩
      rw [hf]
      rintro _ ⟨⟩
      exact hadmits
  · rintro ⟨assignment, hdemands, hrelays, hfilters⟩
    refine ⟨hdemands, hrelays, ?_⟩
    intro filters hf
    exact Filter.anyMatch_iff_exists_admits.mpr ⟨assignment, hfilters filters hf⟩

end RelayFeeds.RequestItem
