import RelayFeeds.Feed.Compile
import RelayFeeds.Proofs.Feed.Meaning
import RelayFeeds.Proofs.Filter.Union
import RelayFeeds.Proofs.Request.Selection

/-! # Leaves stand for what they ask for

The items of a leaf select what its plain reading says:

* **`exists_mem_nameFilters_admits`** — the filters of names admit the events that are named.
* **`Selector.exists_mem_items_selectsAt`** — the items of a selector select what it asks for.
* **`Feed.exists_mem_timeItems_selectsAt`**, **`Feed.exists_mem_scopeItems_selectsAt`** and
  **`Feed.exists_mem_trustItems_selectsAt`** — the same for windows, scopes and trust. -/

namespace RelayFeeds

variable {event : Event} {assignment : Assignment event}

/-! ### Filters with few constraints -/

namespace Filter

/-- Admitting, constraint by constraint. -/
theorem admits_iff {filter : Filter} :
    filter.Admits assignment ↔
      allows filter.ids event.id.text = true ∧ allows filter.authors event.author.text = true ∧
        allows filter.kinds event.kind = true ∧ notBefore filter.since event.createdAt = true ∧
        notAfter filter.till event.createdAt = true ∧ Finds filter.search event.content ∧
        TagsAdmit filter.tags assignment := by
  constructor
  · intro h
    exact ⟨h.ids, h.authors, h.kinds, h.since, h.till, h.search, h.tags⟩
  · rintro ⟨hids, hauthors, hkinds, hsince, htill, hsearch, htags⟩
    exact ⟨⟨hids, hauthors, hkinds, hsince, htill, hsearch⟩, htags⟩

/-- Absent tag constraints admit every assignment. -/
@[simp] theorem tagsAdmit_empty : TagsAdmit SortedMap.empty assignment := by
  rintro key values ⟨⟩

/-- A tag constraint is added to a filter that has none under its key. -/
theorem admits_withTag {filter : Filter} {name : String} {values : List String}
    (h : filter.tags.find? (tagKey name) = none) :
    (filter.withTag name values).Admits assignment ↔ filter.Admits assignment ∧
      ∃ value ∈ values, assignment.value? (tagKey name) = some value := by
  have htags := @tagsAdmit_insert_of_none event _ _ (SortedSet.ofList values) assignment h
  simp only [SortedSet.mem_ofList] at htags
  rw [admits_iff, admits_iff]
  simp only [withTag, htags, and_assoc]

end Filter

/-! ### Names -/

/-- The filter of an address admits the events at it. -/
theorem Address.admits_filter {address : Address} :
    address.filter.Admits assignment ↔ event.kind = address.kind ∧
      event.author.text = address.author ∧
      (address.identifier ≠ "" → assignment.value? (tagKey "d") = some address.identifier) := by
  have hlocated : ({ kinds := some (SortedSet.singleton address.kind)
                     authors := some (SortedSet.singleton address.author) } : Filter).Admits
      assignment ↔ event.kind = address.kind ∧ event.author.text = address.author := by
    rw [Filter.admits_iff]
    simp [and_comm]
  rw [Address.filter]
  by_cases hempty : address.identifier = ""
  · rw [if_pos (String.isEmpty_iff.mpr hempty), hlocated]
    simp [hempty]
  · rw [if_neg (fun h => hempty (String.isEmpty_iff.mp h)), Filter.admits_withTag rfl, hlocated]
    simp [hempty, and_assoc]

/-- The filter of some ids admits the events that have them; there is none for no ids. -/
theorem exists_mem_idFilters_admits {ids : List String} :
    (∃ filter ∈ (if ids.isEmpty then [] else [{ ids := some (SortedSet.ofList ids) }] : List Filter),
        filter.Admits assignment) ↔ event.id.text ∈ ids := by
  cases ids with
  | nil => simp
  | cons id rest =>
    simp [Filter.admits_iff]

/-- **The filters of names admit the events that are named.** -/
theorem exists_mem_nameFilters_admits {names : List String} :
    (∃ filter ∈ nameFilters names, filter.Admits assignment) ↔
      ∃ name ∈ names, NamedBy assignment name := by
  have hunion : (∃ filter ∈ Filter.union ((names.filterMap Address.parse?).map Address.filter),
      filter.Admits assignment) ↔
        ∃ name ∈ names, ∃ address, Address.parse? name = some address ∧
          address.filter.Admits assignment := by
    rw [Filter.exists_mem_union_admits]
    simp only [List.mem_map, List.mem_filterMap]
    constructor
    · rintro ⟨_, ⟨address, ⟨name, hname, hparse⟩, rfl⟩, hadmits⟩
      exact ⟨name, hname, address, hparse, hadmits⟩
    · rintro ⟨name, hname, address, hparse, hadmits⟩
      exact ⟨_, ⟨address, ⟨name, hname, hparse⟩, rfl⟩, hadmits⟩
  -- names that parse become filters of addresses, the others share one filter of ids
  simp only [nameFilters, List.mem_append, or_and_right, exists_or]
  rw [exists_mem_idFilters_admits, hunion, List.mem_filter, Option.isNone_iff_eq_none]
  constructor
  · rintro (⟨hname, hparse⟩ | ⟨name, hname, address, hparse, hadmits⟩)
    · refine ⟨event.id.text, hname, ?_⟩
      rw [NamedBy, hparse]
    · refine ⟨name, hname, ?_⟩
      rw [NamedBy, hparse]
      exact Address.admits_filter.mp hadmits
  · rintro ⟨name, hname, hnamed⟩
    rw [NamedBy] at hnamed
    cases hparse : Address.parse? name with
    | none =>
      rw [hparse] at hnamed
      left
      rw [hnamed]
      exact ⟨hname, hparse⟩
    | some address =>
      rw [hparse] at hnamed
      exact Or.inr ⟨name, hname, address, hparse, Address.admits_filter.mpr hnamed⟩

/-! ### Items of leaves -/

/-- **The items of a selector select what it asks for.** -/
theorem Selector.exists_mem_items_selectsAt {chosen : Selector} {relay : String} :
    (∃ item ∈ chosen.items, item.SelectsAt relay assignment) ↔ chosen.Holds relay assignment := by
  cases chosen with
  | address names =>
    simp only [items, List.mem_singleton, exists_eq_left, RequestItem.selectsAt_ofFilters]
    exact exists_mem_nameFilters_admits
  | author authors => simp [items, Selector.Holds, Filter.admits_iff]
  | id ids => simp [items, Selector.Holds, Filter.admits_iff]
  | kind kinds => simp [items, Selector.Holds, Filter.admits_iff]
  | relay relays => simp [items, Selector.Holds]
  | tag key values =>
    have hall : Filter.all.Admits assignment := by
      rw [Filter.admits_iff]
      exact ⟨rfl, rfl, rfl, rfl, rfl, Filter.finds_none event.content, Filter.tagsAdmit_empty⟩
    simp only [items, List.mem_singleton, exists_eq_left, RequestItem.selectsAt_ofFilters]
    rw [Filter.admits_withTag rfl]
    exact and_iff_right hall
  | search searches => simp [items, Selector.Holds, Filter.admits_iff]

namespace Feed

variable {services : Services} {now : UInt64} {relay : String}

/-- The filter of a time window admits the times within its bounds. -/
theorem exists_windowFilter?_admits {window : TimeWindow} :
    (∃ filter, windowFilter? now window = some filter ∧ filter.Admits assignment) ↔
      window.Holds now event.createdAt := by
  obtain ⟨since, till, relative⟩ := window
  cases since <;> cases till <;>
    simp [windowFilter?, TimeWindow.Holds, TimeWindow.resolve_eq, Filter.admits_iff,
      Filter.notBefore, Filter.notAfter, UInt64.le_iff_toNat_le]

/-- The items of time windows select the events within some window that has a bound. -/
theorem exists_mem_timeItems_selectsAt {windows : List TimeWindow} :
    (∃ item ∈ timeItems windows now, item.SelectsAt relay assignment) ↔
      ∃ window ∈ windows, window.Holds now event.createdAt := by
  simp only [timeItems, List.mem_singleton, exists_eq_left, RequestItem.selectsAt_ofFilters,
    List.mem_filterMap]
  constructor
  · rintro ⟨filter, ⟨window, hmem, hfilter⟩, hadmits⟩
    exact ⟨window, hmem, exists_windowFilter?_admits.mp ⟨filter, hfilter, hadmits⟩⟩
  · rintro ⟨window, hmem, hholds⟩
    obtain ⟨filter, hfilter, hadmits⟩ :=
      (@exists_windowFilter?_admits event assignment now window).mpr hholds
    exact ⟨filter, ⟨window, hmem, hfilter⟩, hadmits⟩

/-- The items of scopes select the events of authors in some scope. -/
theorem exists_mem_scopeItems_selectsAt {scopes : List Scope} :
    (∃ item ∈ scopeItems services scopes, item.SelectsAt relay assignment) ↔
      ∃ scope ∈ scopes, event.author.text ∈ services.scope scope := by
  simp [scopeItems, Filter.admits_iff, ← SortedSet.mem_def]

/-- The items of trust windows select the events of authors within some window. -/
theorem exists_mem_trustItems_selectsAt {windows : List TrustWindow} :
    (∃ item ∈ trustItems services windows, item.SelectsAt relay assignment) ↔
      ∃ window ∈ windows, event.author.text ∈ services.trust window := by
  simp [trustItems, Filter.admits_iff]

end Feed

end RelayFeeds
