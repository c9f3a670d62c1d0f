import RelayFeeds.Proofs.Request.Plan
import RelayFeeds.Proofs.Request.Union

/-! # Routing — from request items to the pairs that a plan subscribes to

Routing sends an item to the relays that it names, or to the fallback relays when it names none, be
it that its relays are absent or that their list is empty. Planning then regroups by relay. Neither
loses a pair of a relay and an event or makes one up:

* **`subscribes_plan`** — a plan subscribes to what its subscriptions subscribe to.
* **`subscribes_routed`** — routed items subscribe to what the items reach.
* **`routed_plan_exact`** — a plan of routed items does, with one subscription for each relay.
* **`exists_mem_union_reaches`** — the union of items reaches what they reach, those with an empty
  list of relays left out. -/

namespace RelayFeeds

/-- Some subscription of a list has the relay and matches the event. -/
def Subscribes (subscriptions : List Subscription) (relay : String) (event : Event) : Prop :=
  ∃ s ∈ subscriptions, relay ∈ s.relays ∧ Filter.anyMatch s.filters event = true

/-- The subscriptions of items, those that ask for nothing or have no relay left out. -/
def routed (fallback : List String) (items : List RequestItem) : List Subscription :=
  items.filterMap (RequestItem.subscription? · fallback)

variable {fallback : List String} {relay : String} {event : Event}

/-- **A plan subscribes to what its subscriptions subscribe to.** -/
theorem subscribes_plan {subscriptions : List Subscription} :
    Subscribes (plan subscriptions) relay event ↔ Subscribes subscriptions relay event := by
  have hmatch : Filter.anyMatch (Plan.subscriptionFor subscriptions relay).filters event = true ↔
      Subscribes subscriptions relay event := by
    rw [Plan.anyMatch_subscriptionFor]
    simp only [Subscribes, Filter.anyMatch, List.any_eq_true]
  rw [← hmatch, Subscribes, plan_eq_map]
  constructor
  · rintro ⟨s, hs, hrelay, hs'⟩
    obtain ⟨named, -, rfl⟩ := List.mem_map.mp hs
    -- a relay's subscription has this relay alone
    obtain rfl : relay = named := List.mem_singleton.mp hrelay
    exact hs'
  · intro h
    obtain ⟨s, hs, hrelay, -⟩ := hmatch.mp h
    have hnamed : relay ∈ Filter.distinct (subscriptions.flatMap Subscription.relays) :=
      Filter.mem_distinct.mpr (List.mem_flatMap.mpr ⟨s, hs, hrelay⟩)
    exact ⟨_, List.mem_map_of_mem hnamed, List.mem_singleton_self relay, h⟩

namespace RequestItem

/-- The relays that an item is sent to. -/
def route (item : RequestItem) (fallback : List String) : List String :=
  match item.relays with
  | some (relay :: relays) => relay :: relays
  | _ => fallback

/-- An item reaches an event at a relay: it is no no-op, the relay is listed by it or, when its
relays are absent or empty, among the fallback relays, and its filters are absent or match the
event. -/
structure Reaches (item : RequestItem) (fallback : List String) (relay : String)
    (event : Event) : Prop where
  /-- It asks for something. -/
  demands : item.isNoop = false
  /-- The relay is listed, or is a fallback for an item that lists none. -/
  relays : (∃ named, item.relays = some named ∧ relay ∈ named) ∨
    (item.relays = none ∨ item.relays = some []) ∧ relay ∈ fallback
  /-- The event is not excluded. -/
  filters : ∀ filters, item.filters = some filters → Filter.anyMatch filters event = true

/-- An item is sent to the relays that it lists, or to the fallback relays when it lists none. -/
theorem mem_route {item : RequestItem} :
    relay ∈ item.route fallback ↔ (∃ named, item.relays = some named ∧ relay ∈ named) ∨
      (item.relays = none ∨ item.relays = some []) ∧ relay ∈ fallback := by
  rw [route]
  cases item.relays with
  | none => simp
  | some named =>
    cases named with
    | nil => simp
    | cons first rest => simp

/-- An item becomes the subscription of its route, unless it asks for nothing or no relay is left. -/
theorem subscription?_eq_some {item : RequestItem} {s : Subscription} :
    item.subscription? fallback = some s ↔
      item.isNoop = false ∧ item.route fallback ≠ [] ∧
        s = ⟨item.route fallback, item.filters.getD [Filter.all]⟩ := by
  have hroute : item.subscription? fallback =
      if item.isNoop || (item.route fallback).isEmpty then none
      else some ⟨item.route fallback, item.filters.getD [Filter.all]⟩ := rfl
  rw [hroute]
  cases hnoop : item.isNoop with
  | true => simp
  | false =>
    cases item.route fallback with
    | nil => simp
    | cons first rest => simp [eq_comm]

/-- Filters that are absent match every event once they are opened. -/
theorem anyMatch_getD_all {filters : Option (List Filter)} :
    Filter.anyMatch (filters.getD [Filter.all]) event = true ↔
      ∀ given, filters = some given → Filter.anyMatch given event = true := by
  cases filters with
  | none => simp [Filter.anyMatch, Filter.isMatch, Filter.all, Filter.allows, Filter.notBefore,
      Filter.notAfter, Filter.found, SortedMap.empty]
  | some given => simp

end RequestItem

open RequestItem

/-- **Routed items subscribe to what the items reach.** -/
theorem subscribes_routed {items : List RequestItem} :
    Subscribes (routed fallback items) relay event ↔
      ∃ item ∈ items, item.Reaches fallback relay event := by
  rw [Subscribes]
  simp only [routed, List.mem_filterMap, subscription?_eq_some]
  constructor
  · rintro ⟨_, ⟨item, hitem, hdemands, -, rfl⟩, hrelay, hmatch⟩
    exact ⟨item, hitem, hdemands, mem_route.mp hrelay, anyMatch_getD_all.mp hmatch⟩
  · rintro ⟨item, hitem, hdemands, hrelays, hfilters⟩
    have hroute : relay ∈ item.route fallback := mem_route.mpr hrelays
    exact ⟨_, ⟨item, hitem, hdemands, List.ne_nil_of_mem hroute, rfl⟩, hroute,
      anyMatch_getD_all.mpr hfilters⟩

/-- **Routing and planning are exact.** The plan of routed items subscribes to an event at a relay
when some item that is no no-op lists the relay, or lists none while the relay is a fallback, and has
absent filters or filters that match the event; each relay has one subscription, to it alone. -/
theorem routed_plan_exact (items : List RequestItem) (fallback : List String) :
    (∀ (relay : String) (event : Event),
      (∃ s ∈ plan (routed fallback items), relay ∈ s.relays ∧
          Filter.anyMatch s.filters event = true) ↔
        ∃ item ∈ items, item.Reaches fallback relay event) ∧
      ∃ relays : List String, relays.Nodup ∧
        (plan (routed fallback items)).map Subscription.relays =
          relays.map (fun relay => [relay]) := by
  constructor
  · intro relay event
    exact subscribes_plan.trans subscribes_routed
  · exact ⟨_, Filter.nodup_distinct _, relays_plan (routed fallback items)⟩

/-! ### The union of items under routing -/

namespace RequestItem

/-- The union of items selects the events that the items select. -/
theorem exists_mem_union_selects {items : List RequestItem} :
    (∃ item ∈ union items, item.Selects relay event) ↔ ∃ item ∈ items, item.Selects relay event := by
  simp only [selects_iff_exists_selectsAt]
  constructor
  · rintro ⟨item, hitem, assignment, hselects⟩
    obtain ⟨source, hsource, hselects'⟩ := exists_mem_union_selectsAt.mp ⟨item, hitem, hselects⟩
    exact ⟨source, hsource, assignment, hselects'⟩
  · rintro ⟨item, hitem, assignment, hselects⟩
    obtain ⟨made, hmade, hselects'⟩ := exists_mem_union_selectsAt.mpr ⟨item, hitem, hselects⟩
    exact ⟨made, hmade, assignment, hselects'⟩

/-- The items that name relays. -/
def named (items : List RequestItem) : List RequestItem := items.filter (·.relays.isSome)

/-- An item is among those that name relays when it has a list of them. -/
theorem mem_named {items : List RequestItem} {item : RequestItem} :
    item ∈ named items ↔ item ∈ items ∧ item.relays ≠ none := by
  rw [named, List.mem_filter, Option.isSome_iff_ne_none]

/-- The items of a union that name relays are the union of the items that name relays. -/
theorem mem_union_named {items : List RequestItem} {item : RequestItem} :
    item ∈ union (named items) ↔ item ∈ union items ∧ item.relays ≠ none := by
  have hbuckets : filtersByRelay (named items) = filtersByRelay items := by
    rw [filtersByRelay, filtersByRelay, named, List.foldl_filter]
    congr 1
    funext buckets other
    cases hrelays : other.relays with
    | none => simp [gather, hrelays]
    | some relays => simp
  have hwhole : wholeRelays (named items) = wholeRelays items := by
    rw [wholeRelays, wholeRelays, named]
    congr 1
    clear hbuckets
    induction items with
    | nil => rfl
    | cons other rest ih =>
      rw [List.filter_cons, List.flatMap_cons, ← ih]
      cases hrelays : other.relays <;> simp [hrelays]
  have hanywhere : filtersAnywhere (named items) = [] := by
    rw [List.eq_nil_iff_forall_not_mem]
    intro filter hfilter
    obtain ⟨filters, hsource, -⟩ := mem_filtersAnywhere.mp hfilter
    exact (mem_named.mp hsource).2 rfl
  rw [mem_union, mem_union, hbuckets, hwhole, hanywhere]
  constructor
  · rintro (⟨relay, filters, hfind, rfl⟩ | ⟨hne, -⟩ | ⟨hne, rfl⟩)
    · exact ⟨Or.inl ⟨relay, filters, hfind, rfl⟩, Option.some_ne_none _⟩
    · exact absurd rfl hne
    · exact ⟨Or.inr (Or.inr ⟨hne, rfl⟩), Option.some_ne_none _⟩
  · rintro ⟨hbucket | ⟨-, rfl⟩ | hrelays, hnone⟩
    · exact Or.inl hbucket
    · exact absurd rfl hnone
    · exact Or.inr (Or.inr hrelays)

/-- A union has no item with an empty list of relays. -/
theorem relays_ne_nil_of_mem_union {items : List RequestItem} {item : RequestItem}
    (h : item ∈ union items) : item.relays ≠ some [] := by
  obtain ⟨_, _, -, rfl⟩ | ⟨-, rfl⟩ | ⟨hwhole, rfl⟩ := mem_union.mp h
  · simp
  · simp [ofFilters]
  · simpa [ofRelays] using hwhole

/-- An item whose list of relays is not empty reaches what it selects, at a relay that it names or
that is a fallback. -/
theorem reaches_iff_selects {item : RequestItem} (h : item.relays ≠ some []) :
    item.Reaches fallback relay event ↔
      item.Selects relay event ∧ (item.relays ≠ none ∨ relay ∈ fallback) := by
  constructor
  · rintro ⟨hdemands, ⟨relays, hrelays, hmem⟩ | ⟨hnone | hempty, hfallback⟩, hfilters⟩
    · refine ⟨⟨hdemands, ?_, hfilters⟩, Or.inl ?_⟩
      · rw [hrelays]
        exact allowsRelay_some.mpr hmem
      · rw [hrelays]
        exact Option.some_ne_none relays
    · refine ⟨⟨hdemands, ?_, hfilters⟩, Or.inr hfallback⟩
      rw [hnone]
      exact allowsRelay_none
    · exact absurd hempty h
  · rintro ⟨⟨hdemands, hallows, hfilters⟩, hroute⟩
    refine ⟨hdemands, ?_, hfilters⟩
    cases hrelays : item.relays with
    | none => exact Or.inr ⟨Or.inl rfl, hroute.resolve_left fun hne => hne hrelays⟩
    | some relays => exact Or.inl ⟨relays, rfl, hallows relays hrelays⟩

/-- Items reach, those with an empty list of relays left out, what those that name relays select, and
at a fallback relay what any of them selects. -/
theorem exists_mem_reaches_iff {items : List RequestItem} :
    (∃ item ∈ items, item.relays ≠ some [] ∧ item.Reaches fallback relay event) ↔
      (∃ item ∈ named items, item.Selects relay event) ∨
        relay ∈ fallback ∧ ∃ item ∈ items, item.Selects relay event := by
  -- what selects the relay has an entry in its list, if there is a list
  have hlisted : ∀ item : RequestItem, item.Selects relay event → item.relays ≠ some [] := by
    intro item hselects hempty
    cases hselects.relays [] hempty
  constructor
  · rintro ⟨item, hitem, hne, hreaches⟩
    obtain ⟨hselects, hnamed | hfallback⟩ := (reaches_iff_selects hne).mp hreaches
    · exact Or.inl ⟨item, mem_named.mpr ⟨hitem, hnamed⟩, hselects⟩
    · exact Or.inr ⟨hfallback, item, hitem, hselects⟩
  · rintro (⟨item, hitem, hselects⟩ | ⟨hfallback, item, hitem, hselects⟩)
    · obtain ⟨hmem, hnamed⟩ := mem_named.mp hitem
      exact ⟨item, hmem, hlisted item hselects,
        (reaches_iff_selects (hlisted item hselects)).mpr ⟨hselects, Or.inl hnamed⟩⟩
    · exact ⟨item, hitem, hlisted item hselects,
        (reaches_iff_selects (hlisted item hselects)).mpr ⟨hselects, Or.inr hfallback⟩⟩

/-- **The union of items reaches what they reach, those with an empty list of relays left out.** -/
theorem exists_mem_union_reaches {items : List RequestItem} :
    (∃ item ∈ union items, item.Reaches fallback relay event) ↔
      ∃ item ∈ items, item.relays ≠ some [] ∧ item.Reaches fallback relay event := by
  have hnamed : (∃ item ∈ named (union items), item.Selects relay event) ↔
      ∃ item ∈ named items, item.Selects relay event := by
    refine Iff.trans ?_ exists_mem_union_selects
    simp only [mem_named, mem_union_named]
  calc (∃ item ∈ union items, item.Reaches fallback relay event)
      ↔ ∃ item ∈ union items, item.relays ≠ some [] ∧ item.Reaches fallback relay event :=
        exists_congr fun item => and_congr_right fun hitem =>
          (and_iff_right (relays_ne_nil_of_mem_union hitem)).symm
    _ ↔ (∃ item ∈ named (union items), item.Selects relay event) ∨
          relay ∈ fallback ∧ ∃ item ∈ union items, item.Selects relay event :=
        exists_mem_reaches_iff
    _ ↔ (∃ item ∈ named items, item.Selects relay event) ∨
          relay ∈ fallback ∧ ∃ item ∈ items, item.Selects relay event :=
        or_congr hnamed (and_congr_right' exists_mem_union_selects)
    _ ↔ ∃ item ∈ items, item.relays ≠ some [] ∧ item.Reaches fallback relay event :=
        exists_mem_reaches_iff.symm

end RequestItem

end RelayFeeds
