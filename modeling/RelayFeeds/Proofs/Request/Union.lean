import RelayFeeds.Proofs.Filter.Union
import RelayFeeds.Proofs.Request.Selection
import RelayFeeds.Request.Combine

/-! # The union of request items

The union gathers filters by relay, puts those without relays into one item and the relays without
filters into another. No pair of a relay and a filter is lost or made up on the way:

* **`mem_filtersByRelay`** — a relay's bucket has the filters of the items that name the relay.
* **`exists_mem_union_selectsAt`** — the union of items selects exactly what the items select.
* **`union_relayFree`** — the union of items that name no relays names none. -/

namespace RelayFeeds.RequestItem

/-! ### Buckets -/

/-- The filters that are gathered for a relay. -/
def bucket (buckets : SortedMap String (List Filter)) (relay : String) : List Filter :=
  (buckets.find? relay).getD []

variable {relay : String}

/-- Filters added for some relays go to the buckets of these and no other. -/
theorem mem_bucket_addFilters {buckets : SortedMap String (List Filter)} {relays : List String}
    {filters : List Filter} {filter : Filter} :
    filter ∈ bucket (addFilters buckets relays filters) relay ↔
      filter ∈ bucket buckets relay ∨ relay ∈ relays ∧ filter ∈ filters := by
  rw [addFilters]
  induction relays generalizing buckets with
  | nil => simp
  | cons head rest ih =>
    rw [List.foldl_cons, ih, List.mem_cons]
    have hstep : filter ∈ bucket (buckets.alter head (fun known => known.getD [] ++ filters)) relay ↔
        filter ∈ bucket buckets relay ∨ relay = head ∧ filter ∈ filters := by
      rw [bucket, SortedMap.find?_alter]
      by_cases heq : relay = head
      · rw [if_pos heq, Option.getD_some, List.mem_append, heq, bucket]
        tauto
      · rw [if_neg heq, bucket]
        tauto
    rw [hstep]
    tauto

/-- An item with relays and filters is gathered under each of its relays. -/
theorem mem_bucket_gather {buckets : SortedMap String (List Filter)} {item : RequestItem}
    {filter : Filter} :
    filter ∈ bucket (gather buckets item) relay ↔
      filter ∈ bucket buckets relay ∨ ∃ relays filters,
        item = ⟨some filters, some relays⟩ ∧ relay ∈ relays ∧ filter ∈ filters := by
  obtain ⟨filters, relays⟩ := item
  cases relays with
  | none => simp [gather]
  | some relays =>
    cases filters with
    | none => simp [gather]
    | some filters =>
      cases filters with
      | nil => simp [gather]
      | cons first rest => simp [gather, mem_bucket_addFilters, and_assoc]

/-- **A relay's bucket has the filters of the items that name the relay.** -/
theorem mem_filtersByRelay {items : List RequestItem} {filter : Filter} :
    filter ∈ bucket (filtersByRelay items) relay ↔
      ∃ relays filters, (⟨some filters, some relays⟩ : RequestItem) ∈ items ∧
        relay ∈ relays ∧ filter ∈ filters := by
  -- gathering starts from any buckets, since each item finds those of the items before it
  have hfold : ∀ buckets, filter ∈ bucket (items.foldl gather buckets) relay ↔
      filter ∈ bucket buckets relay ∨ ∃ relays filters,
        (⟨some filters, some relays⟩ : RequestItem) ∈ items ∧ relay ∈ relays ∧
          filter ∈ filters := by
    induction items with
    | nil => simp
    | cons item rest ih =>
      intro buckets
      rw [List.foldl_cons, ih, mem_bucket_gather, or_assoc]
      simp only [List.mem_cons, or_and_right, exists_or, @eq_comm _ item]
  rw [filtersByRelay, hfold]
  simp [bucket]

/-- The filters of the items without relays. -/
theorem mem_filtersAnywhere {items : List RequestItem} {filter : Filter} :
    filter ∈ filtersAnywhere items ↔ ∃ filters, ofFilters filters ∈ items ∧ filter ∈ filters := by
  rw [filtersAnywhere, List.mem_flatMap]
  constructor
  · rintro ⟨⟨filters, relays⟩, hitem, hfilter⟩
    cases relays with
    | some relays => cases hfilter
    | none =>
      cases filters with
      | none => cases hfilter
      | some filters => exact ⟨filters, hitem, hfilter⟩
  · rintro ⟨filters, hitem, hfilter⟩
    exact ⟨ofFilters filters, hitem, hfilter⟩

/-- The relays of the items without filters. -/
theorem mem_wholeRelays {items : List RequestItem} :
    relay ∈ wholeRelays items ↔ ∃ relays, ofRelays relays ∈ items ∧ relay ∈ relays := by
  rw [wholeRelays, Filter.mem_distinct, List.mem_flatMap]
  constructor
  · rintro ⟨⟨filters, relays⟩, hitem, hrelay⟩
    cases relays with
    | none => cases hrelay
    | some relays =>
      cases filters with
      | some filters => cases hrelay
      | none => exact ⟨relays, hitem, hrelay⟩
  · rintro ⟨relays, hitem, hrelay⟩
    exact ⟨ofRelays relays, hitem, hrelay⟩

/-! ### What the union selects -/

/-- The items of a union: one for each bucket, one of filters alone and one of relays alone. -/
theorem mem_union {items : List RequestItem} {item : RequestItem} :
    item ∈ union items ↔
      (∃ relay filters, (filtersByRelay items).find? relay = some filters ∧
        item = ⟨some (Filter.union filters), some [relay]⟩) ∨
      (filtersAnywhere items ≠ [] ∧ item = ofFilters (Filter.union (filtersAnywhere items))) ∨
      (wholeRelays items ≠ [] ∧ item = ofRelays (wholeRelays items)) := by
  have hif : ∀ {α : Type} (values : List α) (x : RequestItem),
      item ∈ (if values.isEmpty then [] else [x]) ↔ values ≠ [] ∧ item = x := by
    intro α values x
    cases values <;> simp
  simp only [union, List.mem_append, hif, List.mem_map, Prod.exists, SortedMap.mem_entries,
    or_assoc, @eq_comm _ item]

variable {event : Event} {assignment : Assignment event}

/-- **The union of items selects exactly what the items select.** -/
theorem exists_mem_union_selectsAt {items : List RequestItem} :
    (∃ item ∈ union items, item.SelectsAt relay assignment) ↔
      ∃ item ∈ items, item.SelectsAt relay assignment := by
  constructor
  · rintro ⟨item, hitem, hselects⟩
    obtain ⟨named, filters, hfind, rfl⟩ | ⟨-, rfl⟩ | ⟨-, rfl⟩ := mem_union.mp hitem
    · rw [selectsAt_mk, List.mem_singleton, Filter.exists_mem_union_admits] at hselects
      obtain ⟨rfl, filter, hfilter, hadmits⟩ := hselects
      have hbucket : filter ∈ bucket (filtersByRelay items) relay := by
        rw [bucket, hfind]
        exact hfilter
      obtain ⟨relays, sent, hsource, hrelay, hmem⟩ := mem_filtersByRelay.mp hbucket
      exact ⟨_, hsource, selectsAt_mk.mpr ⟨hrelay, filter, hmem, hadmits⟩⟩
    · rw [selectsAt_ofFilters, Filter.exists_mem_union_admits] at hselects
      obtain ⟨filter, hfilter, hadmits⟩ := hselects
      obtain ⟨sent, hsource, hmem⟩ := mem_filtersAnywhere.mp hfilter
      exact ⟨_, hsource, selectsAt_ofFilters.mpr ⟨filter, hmem, hadmits⟩⟩
    · rw [selectsAt_ofRelays] at hselects
      obtain ⟨relays, hsource, hrelay⟩ := mem_wholeRelays.mp hselects
      exact ⟨_, hsource, selectsAt_ofRelays.mpr hrelay⟩
  · rintro ⟨⟨filters, relays⟩, hitem, hselects⟩
    cases filters with
    | none =>
      cases relays with
      | none => cases hselects.demands
      | some relays =>
        have hwhole : relay ∈ wholeRelays items :=
          mem_wholeRelays.mpr ⟨relays, hitem, hselects.relays relays rfl⟩
        exact ⟨_, mem_union.mpr (Or.inr (Or.inr ⟨List.ne_nil_of_mem hwhole, rfl⟩)),
          selectsAt_ofRelays.mpr hwhole⟩
    | some filters =>
      obtain ⟨filter, hfilter, hadmits⟩ := hselects.filters filters rfl
      cases relays with
      | none =>
        have hanywhere : filter ∈ filtersAnywhere items :=
          mem_filtersAnywhere.mpr ⟨filters, hitem, hfilter⟩
        refine ⟨_, mem_union.mpr (Or.inr (Or.inl ⟨List.ne_nil_of_mem hanywhere, rfl⟩)), ?_⟩
        rw [selectsAt_ofFilters, Filter.exists_mem_union_admits]
        exact ⟨filter, hanywhere, hadmits⟩
      | some relays =>
        have hbucket : filter ∈ bucket (filtersByRelay items) relay :=
          mem_filtersByRelay.mpr ⟨relays, filters, hitem, hselects.relays relays rfl, hfilter⟩
        cases hfind : (filtersByRelay items).find? relay with
        | none => simp [bucket, hfind] at hbucket
        | some gathered =>
          refine ⟨_, mem_union.mpr (Or.inl ⟨relay, gathered, hfind, rfl⟩), ?_⟩
          rw [selectsAt_mk, Filter.exists_mem_union_admits]
          rw [bucket, hfind] at hbucket
          exact ⟨List.mem_singleton_self relay, filter, hbucket, hadmits⟩

/-- A union asks for something in each item. -/
theorem isNoop_of_mem_union {items : List RequestItem} {item : RequestItem}
    (h : item ∈ union items) : item.isNoop = false := by
  obtain ⟨_, _, -, rfl⟩ | ⟨-, rfl⟩ | ⟨-, rfl⟩ := mem_union.mp h
  · rfl
  · rfl
  · rfl

/-! ### Items without relays -/

/-- Items that name no relays leave the buckets empty. -/
theorem filtersByRelay_eq_empty {items : List RequestItem} (h : RelayFree items) :
    filtersByRelay items = SortedMap.empty := by
  rw [filtersByRelay]
  induction items with
  | nil => rfl
  | cons item rest ih =>
    have hgather : gather SortedMap.empty item = SortedMap.empty := by
      rw [gather, h item List.mem_cons_self]
    rw [List.foldl_cons, hgather, ih fun other hother => h other (List.mem_cons_of_mem item hother)]

/-- **The union of items that name no relays names none.** -/
theorem union_relayFree {items : List RequestItem} (h : RelayFree items) :
    RelayFree (union items) := by
  intro item hitem
  obtain ⟨relay, filters, hfind, -⟩ | ⟨-, rfl⟩ | ⟨hwhole, -⟩ := mem_union.mp hitem
  · rw [filtersByRelay_eq_empty h] at hfind
    cases hfind
  · rfl
  · obtain ⟨relay, hrelay⟩ := List.exists_mem_of_ne_nil _ hwhole
    obtain ⟨relays, hsource, -⟩ := mem_wholeRelays.mp hrelay
    cases h _ hsource

end RelayFeeds.RequestItem
