import RelayFeeds.Proofs.Filter.NormalForm
import RelayFeeds.Proofs.Request.Union

/-! # The union form of request items

A union has one layout: the filters of each relay in ascending order of the relays, then the filters
for any relay, then the relays without filters. Items laid out like this, with filters in normal form,
are left alone by a further union, so that nested unions need no pass of their own.

* **`find?_filtersByRelay`** — the bucket of a relay is what is sent to it, in order.
* **`items_unionForm`** — a union is laid out like this.
* **`UnionForm.union_items`** — items laid out like this are their own union.
* **`union_eq_self_iff`** — no other items are. -/

namespace RelayFeeds.RequestItem

open RelayFeeds.Filter (IsNormal)

/-! ### What is sent to a relay -/

/-- A list, absent when nothing is in it. -/
def present {α : Type} (values : List α) : Option (List α) :=
  if values.isEmpty then none else some values

/-- What is present is the list, and it has something. -/
theorem present_eq_some_iff {α : Type} {values given : List α} :
    present values = some given ↔ given ≠ [] ∧ values = given := by
  cases values with
  | nil =>
    constructor
    · rintro ⟨⟩
    · rintro ⟨hne, rfl⟩
      exact absurd rfl hne
  | cons a rest =>
    constructor
    · rintro ⟨⟩
      exact ⟨List.cons_ne_nil a rest, rfl⟩
    · rintro ⟨-, rfl⟩
      rfl

/-- There is one item for a list that has something. -/
theorem toList_map_present {β : Type} (item : List β → RequestItem) (values : List β) :
    ((present values).map item).toList = if values.isEmpty then [] else [item values] := by
  rw [present]
  split <;> rfl

/-- What is taken from the one item for a list, if the list has something, is what is taken from that
item, where nothing is taken from one for an empty list. -/
theorem flatMap_present {α β : Type} {f : RequestItem → List α} {item : List β → RequestItem}
    (h : f (item []) = []) (values : List β) :
    ((present values).map item).toList.flatMap f = f (item values) := by
  cases values with
  | nil => exact h.symm
  | cons b rest => exact List.append_nil _

/-- The filters that an item sends to a relay, once for each time that it names the relay. -/
def sentTo (relay : String) (item : RequestItem) : List Filter :=
  match item.relays, item.filters with
  | some relays, some filters =>
    (relays.filter (fun named => decide (named = relay))).flatMap (fun _ => filters)
  | _, _ => []

/-- A bucket, absent while nothing is in it, with some filters put behind those that it has. -/
def extend (known : Option (List Filter)) (more : List Filter) : Option (List Filter) :=
  if more = [] then known else some (known.getD [] ++ more)

/-- Putting nothing into a bucket leaves it alone, and does not make one. -/
@[simp] theorem extend_nil (known : Option (List Filter)) : extend known [] = known := rfl

/-- Putting filters into a bucket twice is putting all of them there once. -/
theorem extend_extend (known : Option (List Filter)) (as bs : List Filter) :
    extend (extend known as) bs = extend known (as ++ bs) := by
  cases as with
  | nil => rfl
  | cons a as =>
    cases bs with
    | nil => rw [extend_nil, List.append_nil]
    | cons b bs => simp [extend]

/-- A bucket that was absent has what is put into it, if that is anything. -/
theorem extend_none (more : List Filter) : extend none more = present more := by
  cases more <;> rfl

variable {relay : String}

/-- Filters added for some relays go to the bucket of a relay as often as it is among them. -/
theorem find?_addFilters {buckets : SortedMap String (List Filter)} {relays : List String}
    {filters : List Filter} (hne : filters ≠ []) :
    (addFilters buckets relays filters).find? relay =
      extend (buckets.find? relay)
        ((relays.filter (fun named => decide (named = relay))).flatMap (fun _ => filters)) := by
  rw [addFilters]
  induction relays generalizing buckets with
  | nil => rfl
  | cons head rest ih =>
    rw [List.foldl_cons, ih, SortedMap.find?_alter]
    by_cases heq : head = relay
    · subst heq
      rw [if_pos rfl, List.filter_cons_of_pos (by simp), List.flatMap_cons, ← extend_extend]
      congr 1
      rw [extend, if_neg hne]
    · rw [if_neg (Ne.symm heq), List.filter_cons_of_neg (by simpa using heq)]

/-- Gathering an item puts into the bucket of a relay what the item sends to it. -/
theorem find?_gather (buckets : SortedMap String (List Filter)) (item : RequestItem) :
    (gather buckets item).find? relay = extend (buckets.find? relay) (sentTo relay item) := by
  obtain ⟨filters, relays⟩ := item
  cases relays with
  | none => rfl
  | some relays =>
    cases filters with
    | none => rfl
    | some filters =>
      cases filters with
      | nil =>
        -- without filters nothing is sent, however often the relay is named
        have hnothing : sentTo relay ⟨some [], some relays⟩ = [] := by simp [sentTo]
        rw [hnothing, extend_nil]
        rfl
      | cons first rest => exact find?_addFilters (List.cons_ne_nil first rest)

/-- **The bucket of a relay is what is sent to it, in order**; there is none when nothing is. -/
theorem find?_filtersByRelay (items : List RequestItem) :
    (filtersByRelay items).find? relay = present (items.flatMap (sentTo relay)) := by
  rw [← extend_none]
  suffices hfold : ∀ buckets : SortedMap String (List Filter),
      (items.foldl gather buckets).find? relay =
        extend (buckets.find? relay) (items.flatMap (sentTo relay)) from hfold SortedMap.empty
  induction items with
  | nil => exact fun buckets => rfl
  | cons item rest ih =>
    intro buckets
    rw [List.foldl_cons, ih, find?_gather, extend_extend, List.flatMap_cons]

/-- A bucket is there when something is sent to its relay. -/
theorem mem_keys_filtersByRelay {items : List RequestItem} :
    relay ∈ (filtersByRelay items).keys ↔
      ∃ relays filters, (⟨some filters, some relays⟩ : RequestItem) ∈ items ∧ relay ∈ relays ∧
        filters ≠ [] := by
  rw [SortedMap.mem_keys]
  constructor
  · rintro ⟨gathered, hfind⟩
    have hne := hfind
    rw [find?_filtersByRelay, present_eq_some_iff] at hne
    obtain ⟨filter, hfilter⟩ := List.exists_mem_of_ne_nil _ hne.1
    have hbucket : filter ∈ bucket (filtersByRelay items) relay := by
      rw [bucket, hfind]
      exact hfilter
    obtain ⟨relays, filters, hitem, hrelay, hmem⟩ := mem_filtersByRelay.mp hbucket
    exact ⟨relays, filters, hitem, hrelay, List.ne_nil_of_mem hmem⟩
  · rintro ⟨relays, filters, hitem, hrelay, hne⟩
    obtain ⟨filter, hfilter⟩ := List.exists_mem_of_ne_nil _ hne
    have hbucket : filter ∈ bucket (filtersByRelay items) relay :=
      mem_filtersByRelay.mpr ⟨relays, filters, hitem, hrelay, hfilter⟩
    cases hfind : (filtersByRelay items).find? relay with
    | none => simp [bucket, hfind] at hbucket
    | some gathered => exact ⟨gathered, rfl⟩

/-- **No pair of a relay and a filter is lost**: the filter is covered by one of the relay's item. -/
theorem exists_mem_union_covers {items : List RequestItem} {relays : List String}
    {filters : List Filter} {filter : Filter}
    (hitem : (⟨some filters, some relays⟩ : RequestItem) ∈ items) (hrelay : relay ∈ relays)
    (hfilter : filter ∈ filters) :
    ∃ merged, (⟨some merged, some [relay]⟩ : RequestItem) ∈ union items ∧
      ∃ other ∈ merged, Filter.covers other filter = true := by
  obtain ⟨gathered, hfind⟩ := SortedMap.mem_keys.mp
    (mem_keys_filtersByRelay.mpr ⟨relays, filters, hitem, hrelay, List.ne_nil_of_mem hfilter⟩)
  have hbucket : filter ∈ gathered := by
    have hmem : filter ∈ bucket (filtersByRelay items) relay :=
      mem_filtersByRelay.mpr ⟨relays, filters, hitem, hrelay, hfilter⟩
    rwa [bucket, hfind] at hmem
  exact ⟨_, mem_union.mpr (Or.inl ⟨relay, gathered, hfind, rfl⟩),
    Filter.exists_mem_union_covers hbucket⟩

/-! ### The layout of a union -/

/-- What a union holds: filters by relay, filters for any relay and relays without filters. -/
structure UnionForm where
  /-- The filters of each relay that has some. -/
  buckets : SortedMap String (List Filter)
  /-- The filters for any relay. -/
  anywhere : List Filter
  /-- The relays without filters. -/
  whole : List String
  /-- A relay has a bucket only for filters. -/
  buckets_ne_nil : ∀ relay filters, buckets.find? relay = some filters → filters ≠ []
  /-- The filters of a relay are in normal form. -/
  buckets_normal : ∀ relay filters, buckets.find? relay = some filters → IsNormal filters
  /-- The filters for any relay are in normal form. -/
  anywhere_normal : IsNormal anywhere
  /-- No relay is listed twice. -/
  whole_nodup : whole.Nodup

/-- The items that lay out what a union holds: one for each relay with filters, in ascending order,
then one for the filters for any relay and one for the relays without filters, where there are
such. -/
def UnionForm.items (form : UnionForm) : List RequestItem :=
  form.buckets.entries.map (fun bucket => ⟨some bucket.2, some [bucket.1]⟩) ++
    ((present form.anywhere).map ofFilters).toList ++ ((present form.whole).map ofRelays).toList

/-- What the union of some items holds. -/
def unionForm (items : List RequestItem) : UnionForm where
  buckets := (filtersByRelay items).mapValues (fun _ filters => Filter.union filters)
  anywhere := Filter.union (filtersAnywhere items)
  whole := wholeRelays items
  buckets_ne_nil := by
    intro relay filters h
    rw [SortedMap.find?_mapValues, Option.map_eq_some_iff] at h
    obtain ⟨gathered, hfind, rfl⟩ := h
    rw [find?_filtersByRelay, present_eq_some_iff] at hfind
    exact fun hempty => hfind.1 (Filter.union_eq_nil_iff.mp hempty)
  buckets_normal := by
    intro relay filters h
    rw [SortedMap.find?_mapValues, Option.map_eq_some_iff] at h
    obtain ⟨gathered, -, rfl⟩ := h
    exact Filter.isNormal_union gathered
  anywhere_normal := Filter.isNormal_union _
  whole_nodup := Filter.nodup_distinct _

/-- **A union is laid out in union form.** -/
theorem items_unionForm (items : List RequestItem) : (unionForm items).items = union items := by
  have hempty : (Filter.union (filtersAnywhere items)).isEmpty =
      (filtersAnywhere items).isEmpty := by
    rw [Bool.eq_iff_iff, List.isEmpty_iff, List.isEmpty_iff, Filter.union_eq_nil_iff]
  rw [UnionForm.items, toList_map_present, toList_map_present, union, unionForm]
  simp only [hempty, SortedMap.mapValues, List.map_map]
  rfl

/-! ### A union of items in union form -/

/-- What is gathered key by key from entries with distinct keys is the one entry of the key. -/
theorem flatMap_entries {entries : List (String × List Filter)}
    (hnodup : (entries.map Prod.fst).Nodup) :
    entries.flatMap (fun entry => if entry.1 = relay then entry.2 else []) =
      (SortedMap.findIn? relay entries).getD [] := by
  induction entries with
  | nil => rfl
  | cons head rest ih =>
    rw [List.map_cons, List.nodup_cons] at hnodup
    rw [List.flatMap_cons, ih hnodup.2, SortedMap.findIn?]
    by_cases heq : head.1 = relay
    · -- no later entry has the key
      have hrest : SortedMap.findIn? relay rest = none := by
        rw [Option.eq_none_iff_forall_ne_some]
        intro value hfound
        have hmem := (SortedMap.mem_iff_findIn? hnodup.2).mpr hfound
        exact hnodup.1 (heq ▸ List.mem_map_of_mem (f := Prod.fst) hmem)
      rw [if_pos heq, if_pos heq, hrest, Option.getD_none, List.append_nil, Option.getD_some]
    · rw [if_neg heq, if_neg heq, List.nil_append]

namespace UnionForm

variable (form : UnionForm)

/-- What is taken from items in union form is taken from the buckets, from the filters for any relay
and from the relays without filters, where nothing is taken from an item that holds nothing. -/
theorem flatMap_items {α : Type} (f : RequestItem → List α) (hfilters : f (ofFilters []) = [])
    (hrelays : f (ofRelays []) = []) :
    form.items.flatMap f =
      form.buckets.entries.flatMap (fun bucket => f ⟨some bucket.2, some [bucket.1]⟩) ++
        (f (ofFilters form.anywhere) ++ f (ofRelays form.whole)) := by
  rw [items, List.flatMap_append, List.flatMap_append, List.flatMap_map,
    flatMap_present hfilters, flatMap_present hrelays, List.append_assoc]

/-- The buckets of items in union form are those of the form. -/
theorem filtersByRelay_items : filtersByRelay form.items = form.buckets := by
  apply SortedMap.ext
  intro relay
  have hsent : form.items.flatMap (sentTo relay) = (form.buckets.find? relay).getD [] := by
    have hbuckets : form.buckets.entries.flatMap
        (fun bucket => sentTo relay ⟨some bucket.2, some [bucket.1]⟩) =
          form.buckets.entries.flatMap (fun bucket => if bucket.1 = relay then bucket.2 else []) := by
      refine List.flatMap_congr ?_
      intro bucket _
      by_cases heq : bucket.1 = relay <;> simp [sentTo, heq]
    -- the items without relays or without filters send nothing to the relay
    rw [flatMap_items form (sentTo relay) rfl rfl, hbuckets,
      flatMap_entries form.buckets.ascending.nodup]
    exact List.append_nil _
  rw [find?_filtersByRelay, hsent]
  cases hfind : form.buckets.find? relay with
  | none => rfl
  | some filters =>
    rw [Option.getD_some]
    exact present_eq_some_iff.mpr ⟨form.buckets_ne_nil relay filters hfind, rfl⟩

/-- The filters for any relay of items in union form are those of the form. -/
theorem filtersAnywhere_items : filtersAnywhere form.items = form.anywhere := by
  have hbuckets : form.buckets.entries.flatMap (fun _ => ([] : List Filter)) = [] := by simp
  rw [filtersAnywhere, flatMap_items form _ rfl rfl]
  change form.buckets.entries.flatMap (fun _ => []) ++ (form.anywhere ++ []) = form.anywhere
  rw [hbuckets, List.nil_append, List.append_nil]

/-- The relays without filters of items in union form are those of the form. -/
theorem wholeRelays_items : wholeRelays form.items = form.whole := by
  have hbuckets : form.buckets.entries.flatMap (fun _ => ([] : List String)) = [] := by simp
  rw [wholeRelays, flatMap_items form _ rfl rfl]
  change Filter.distinct (form.buckets.entries.flatMap (fun _ => []) ++ ([] ++ form.whole)) =
    form.whole
  rw [hbuckets, List.nil_append, List.nil_append, Filter.distinct_eq_self form.whole_nodup]

/-- **Items in union form are their own union.** -/
theorem union_items : union form.items = form.items := by
  have hbuckets : form.buckets.entries.map (fun bucket =>
      (⟨some (Filter.union bucket.2), some [bucket.1]⟩ : RequestItem)) =
        form.buckets.entries.map (fun bucket => ⟨some bucket.2, some [bucket.1]⟩) := by
    refine List.map_congr_left ?_
    rintro ⟨relay, filters⟩ hbucket
    rw [(form.buckets_normal relay filters (SortedMap.mem_entries.mp hbucket)).union_eq_self]
  rw [union, filtersByRelay_items, filtersAnywhere_items, wholeRelays_items, items,
    toList_map_present, toList_map_present, hbuckets, form.anywhere_normal.union_eq_self]

end UnionForm

/-- **A further union changes nothing.** -/
theorem union_union (items : List RequestItem) : union (union items) = union items := by
  rw [← items_unionForm items, UnionForm.union_items]

/-- **Items are their own union exactly when they are in union form.** -/
theorem union_eq_self_iff {items : List RequestItem} :
    union items = items ↔ ∃ form : UnionForm, items = form.items := by
  constructor
  · intro h
    exact ⟨unionForm items, by rw [items_unionForm, h]⟩
  · rintro ⟨form, rfl⟩
    exact form.union_items

end RelayFeeds.RequestItem
