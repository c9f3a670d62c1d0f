import RelayFeeds.Proofs.Feed.Exactness

/-! # Intersections of two feeds and their shared events

A filter has one set of values for a tag key, so the intersection of two filters asks for a value in
both sets. An event with several tags of one name may match each filter by a tag of its own; the
intersection leaves it out. What is left is exactly this:

* **`anyMatch_allFilters_intersection`** — an event matches the intersection when it matches two
  filters that agree on it.
* **`compile_intersection_pair`** — the same for what compilation returns; where the event carries at
  most one value under each tag name, the intersection matches the shared events.
* **`intersection_misses_event_tagged_twice`** — an event with two tags of one name that both feeds
  match and their intersection does not. -/

namespace RelayFeeds

/-- The filters of all items of a list. -/
def RequestItem.allFilters (items : List RequestItem) : List Filter :=
  items.flatMap (fun item => item.filters.getD [])

/-- An event carries at most one value under each tag name. -/
def Event.SingleValued (event : Event) : Prop :=
  ∀ name value other, event.Carries name value → event.Carries name other → value = other

/-- Filters that an event with at most one value under each tag name matches agree on it. -/
theorem Filter.agree_of_singleValued {a b : Filter} {event : Event} (h : event.SingleValued)
    (ha : a.isMatch event = true) (hb : b.isMatch event = true) : Filter.Agree a b event := by
  intro key as bs has hbs
  obtain ⟨value, hvalue, hcarries⟩ := (Filter.isMatch_iff.mp ha).2 key as has
  obtain ⟨other, hother, hcarries'⟩ := (Filter.isMatch_iff.mp hb).2 key bs hbs
  obtain rfl := h _ _ _ hcarries hcarries'
  exact ⟨value, hvalue, hother, hcarries⟩

namespace Feed

open RequestItem

variable {services : Services} {now : UInt64}

/-- The filters of a feed without a relay leaf admit what its items select, at any relay. -/
theorem exists_mem_allFilters_admits {feed : Feed} (hleaf : feed.hasRelayLeaf = false)
    (relay : String) {event : Event} {assignment : Assignment event} :
    (∃ filter ∈ allFilters (plainItems services now feed), filter.Admits assignment) ↔
      ∃ item ∈ plainItems services now feed, item.SelectsAt relay assignment := by
  simp only [allFilters, List.mem_flatMap]
  constructor
  · rintro ⟨filter, ⟨item, hitem, hfilter⟩, hadmits⟩
    refine ⟨item, hitem, isNoop_of_mem_plainItems feed item hitem, ?_, ?_⟩
    · rw [plainItems_relayFree feed hleaf item hitem]
      exact allowsRelay_none
    · intro given hgiven
      rw [hgiven] at hfilter
      exact ⟨filter, hfilter, hadmits⟩
  · rintro ⟨item, hitem, hselects⟩
    cases hfilters : item.filters with
    | none =>
      -- an item without filters and without relays would be a no-op
      have hnoop := isNoop_of_mem_plainItems feed item hitem
      rw [isNoop, hfilters, plainItems_relayFree feed hleaf item hitem] at hnoop
      cases hnoop
    | some filters =>
      obtain ⟨filter, hfilter, hadmits⟩ := hselects.filters filters hfilters
      refine ⟨filter, ⟨item, hitem, ?_⟩, hadmits⟩
      rw [hfilters]
      exact hfilter

/-- **An event matches the intersection of two feeds when it matches two filters of theirs that agree
on it.** -/
theorem anyMatch_allFilters_intersection {a b : Feed} (ha : a.hasRelayLeaf = false)
    (hb : b.hasRelayLeaf = false) (event : Event) :
    Filter.anyMatch (allFilters (plainItems services now (.intersection [a, b]))) event = true ↔
      ∃ f ∈ allFilters (plainItems services now a), ∃ g ∈ allFilters (plainItems services now b),
        f.isMatch event = true ∧ g.isMatch event = true ∧ Filter.Agree f g event := by
  -- at one assignment the intersection is exact; ranging over all of them leaves agreeing pairs
  have hboth : ∀ assignment : Assignment event,
      (∃ filter ∈ allFilters (plainItems services now (.intersection [a, b])),
        filter.Admits assignment) ↔
        (∃ f ∈ allFilters (plainItems services now a), f.Admits assignment) ∧
          ∃ g ∈ allFilters (plainItems services now b), g.Admits assignment := by
    intro assignment
    have hleaf : hasRelayLeaf (.intersection [a, b]) = false := by
      simp [ha, hb]
    have hdemands : ∀ group ∈ [a, b].map (plainItems services now),
        ∀ item ∈ group, item.isNoop = false := by
      rw [List.forall_mem_map]
      exact fun feed _ => isNoop_of_mem_plainItems feed
    have hapart : RelaysApart ([a, b].map (plainItems services now)) := Or.inl (Nat.le_refl 2)
    rw [exists_mem_allFilters_admits hleaf "", exists_mem_allFilters_admits ha "",
      exists_mem_allFilters_admits hb "", plainItems_intersection,
      exists_mem_intersection_selectsAt hapart hdemands]
    simp
  rw [Filter.anyMatch_iff_exists_admits]
  simp only [hboth, ← Filter.exists_admits_both_iff]
  constructor
  · rintro ⟨assignment, ⟨f, hf, hadmits⟩, g, hg, hadmits'⟩
    exact ⟨f, hf, g, hg, assignment, hadmits, hadmits'⟩
  · rintro ⟨f, hf, g, hg, assignment, hadmits, hadmits'⟩
    exact ⟨assignment, ⟨f, hf, hadmits⟩, g, hg, hadmits'⟩

/-- **The intersection of two feeds without relay leaves, exactly.** Both feeds and their intersection
compile; an event matches the intersection when it matches a filter of each feed such that every tag
key that both constrain has a carried value that both allow. Where the event carries at most one
value under each tag name, the intersection matches the shared events. -/
theorem compile_intersection_pair (services : Services) {a b : Feed} (ha : a.isPlain = true)
    (hb : b.isPlain = true) (hleafa : a.hasRelayLeaf = false) (hleafb : b.hasRelayLeaf = false) :
    ∃ as bs both, (compile services a).result = .ok as ∧ (compile services b).result = .ok bs ∧
      (compile services (.intersection [a, b])).result = .ok both ∧
      ∀ event,
        (Filter.anyMatch (allFilters both) event = true ↔
          ∃ f ∈ allFilters as, ∃ g ∈ allFilters bs,
            f.isMatch event = true ∧ g.isMatch event = true ∧ Filter.Agree f g event) ∧
        (event.SingleValued → Filter.anyMatch (allFilters both) event =
          (Filter.anyMatch (allFilters as) event && Filter.anyMatch (allFilters bs) event)) := by
  have hplain : isPlain (.intersection [a, b]) = true := by simp [ha, hb]
  refine ⟨_, _, _, by rw [compile_of_isPlain ha], by rw [compile_of_isPlain hb],
    by rw [compile_of_isPlain hplain], ?_⟩
  intro event
  refine ⟨anyMatch_allFilters_intersection hleafa hleafb event, ?_⟩
  intro hsingle
  rw [Bool.eq_iff_iff, anyMatch_allFilters_intersection hleafa hleafb, Bool.and_eq_true,
    Filter.anyMatch, Filter.anyMatch, List.any_eq_true, List.any_eq_true]
  constructor
  · rintro ⟨f, hf, g, hg, hmatch, hmatch', -⟩
    exact ⟨⟨f, hf, hmatch⟩, g, hg, hmatch'⟩
  · rintro ⟨⟨f, hf, hmatch⟩, g, hg, hmatch'⟩
    exact ⟨f, hf, g, hg, hmatch, hmatch', Filter.agree_of_singleValued hsingle hmatch hmatch'⟩

/-- At a kind and a tag query, on which all filters agree. -/
theorem compile_intersection_kind_tag :
    isPlain (.selector (.kind [1])) = true ∧ isPlain (.selector (.tag "#t" ["a"])) = true ∧
      hasRelayLeaf (.selector (.kind [1])) = false ∧
      hasRelayLeaf (.selector (.tag "#t" ["a"])) = false ∧
      ∃ as bs both,
        (compile (Services.offline { user := none } 0) (.selector (.kind [1]))).result = .ok as ∧
        (compile (Services.offline { user := none } 0) (.selector (.tag "#t" ["a"]))).result =
          .ok bs ∧
        (compile (Services.offline { user := none } 0)
          (.intersection [.selector (.kind [1]), .selector (.tag "#t" ["a"])])).result = .ok both ∧
        ∀ event,
          (Filter.anyMatch (allFilters both) event = true ↔
            ∃ f ∈ allFilters as, ∃ g ∈ allFilters bs,
              f.isMatch event = true ∧ g.isMatch event = true ∧ Filter.Agree f g event) ∧
          (event.SingleValued → Filter.anyMatch (allFilters both) event =
            (Filter.anyMatch (allFilters as) event && Filter.anyMatch (allFilters bs) event)) :=
  ⟨by decide, by decide, by decide, by decide,
    compile_intersection_pair (Services.offline { user := none } 0) (by decide) (by decide)
      (by decide) (by decide)⟩

/-- An event with two tags of one name. -/
def taggedTwice : Event where
  id := HexKey.zero
  author := HexKey.zero
  createdAt := 0
  kind := 1
  tags := [⟨"t", ["a"]⟩, ⟨"t", ["b"]⟩]
  content := ""

/-- **An event with two tags of one name is missed.** Each of two tag queries matches it by a tag of
its own, and their intersection does not match it. -/
theorem intersection_misses_event_tagged_twice :
    ∃ as bs both,
      (compile (Services.offline { user := none } 0) (.selector (.tag "#t" ["a"]))).result =
        .ok as ∧
      (compile (Services.offline { user := none } 0) (.selector (.tag "#t" ["b"]))).result =
        .ok bs ∧
      (compile (Services.offline { user := none } 0)
        (.intersection [.selector (.tag "#t" ["a"]), .selector (.tag "#t" ["b"])])).result =
          .ok both ∧
      Filter.anyMatch (allFilters as) taggedTwice = true ∧
      Filter.anyMatch (allFilters bs) taggedTwice = true ∧
      Filter.anyMatch (allFilters both) taggedTwice = false := by
  refine ⟨_, _, _, by rw [compile_of_isPlain (by decide)], by rw [compile_of_isPlain (by decide)],
    by rw [compile_of_isPlain (by decide)], ?_, ?_, ?_⟩
  · decide
  · decide
  · decide +kernel

end Feed

end RelayFeeds
