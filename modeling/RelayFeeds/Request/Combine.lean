import RelayFeeds.Filter.Algebra
import RelayFeeds.Request.Basic

/-! # Combining requests — union and intersection of request items

The union of items keeps every pair of a relay and a filter: items with both are gathered by relay,
items with filters only share one item, and items with relays only become one item of all these
relays. The intersection narrows each item of the first child by every choice of one compatible
item of each other child. -/

namespace RelayFeeds.RequestItem

/-! ### Union -/

/-- Filters by relay with some added for every relay of a list. -/
def addFilters (buckets : SortedMap String (List Filter)) (relays : List String)
    (filters : List Filter) : SortedMap String (List Filter) :=
  relays.foldl
    (fun buckets relay => buckets.alter relay (fun known => known.getD [] ++ filters)) buckets

/-- Filters by relay with those of an item added, when it names relays and filters. -/
def gather (buckets : SortedMap String (List Filter)) (item : RequestItem) :
    SortedMap String (List Filter) :=
  match item.relays, item.filters with
  | some relays, some (filter :: filters) => addFilters buckets relays (filter :: filters)
  | _, _ => buckets

/-- The filters of the items that name relays and filters, by relay. -/
def filtersByRelay (items : List RequestItem) : SortedMap String (List Filter) :=
  items.foldl gather SortedMap.empty

/-- The filters of the items that name no relays. -/
def filtersAnywhere (items : List RequestItem) : List Filter :=
  items.flatMap (fun item =>
    match item.relays, item.filters with
    | none, some filters => filters
    | _, _ => [])

/-- The relays of the items that name no filters. -/
def wholeRelays (items : List RequestItem) : List String :=
  Filter.distinct (items.flatMap (fun item =>
    match item.relays, item.filters with
    | some relays, none => relays
    | _, _ => []))

/-- The union of some items. -/
def union (items : List RequestItem) : List RequestItem :=
  let anywhere := filtersAnywhere items
  let relays := wholeRelays items
  (filtersByRelay items).entries.map (fun bucket =>
      { filters := some (Filter.union bucket.2), relays := some [bucket.1] }) ++
    (if anywhere.isEmpty then [] else [ofFilters (Filter.union anywhere)]) ++
    (if relays.isEmpty then [] else [ofRelays relays])

/-! ### Intersection -/

/-- Whether two items may meet: a shared relay where both name relays, and filters that can match a
common event where both have filters. -/
def compatible (a b : RequestItem) : Bool :=
  let relays := match a.relays, b.relays with
    | some as, some bs => as.any bs.contains
    | _, _ => true
  let filters := match a.filters, b.filters with
    | some as, some bs => !(Filter.intersectAll [as, bs]).isEmpty
    | _, _ => true
  relays && filters

/-- Every choice of one member of each list. -/
def choices {α : Type} : List (List α) → List (List α)
  | [] => [[]]
  | group :: groups => group.flatMap (fun a => (choices groups).map (a :: ·))

/-- Relays narrowed by those of a further item: the shared ones, or the further ones when none is
shared. -/
def narrowRelays : Option (List String) → Option (List String) → Option (List String)
  | current, none => current
  | none, some further => some further
  | some current, some further =>
    let shared := current.filter further.contains
    some (if shared.isEmpty then further else shared)

/-- Filters narrowed by those of a further item; `none` when nothing can match both. -/
def narrowFilters : Option (List Filter) → Option (List Filter) → Option (Option (List Filter))
  | current, none => some current
  | none, some further => some (some further)
  | some current, some further =>
    let narrowed := Filter.intersectAll [current, further]
    if narrowed.isEmpty then none else some (some narrowed)

/-- An item narrowed by further ones, one after another; `none` when nothing is left to ask. -/
def narrow? (item : RequestItem) : List RequestItem → Option RequestItem
  | [] => if item.isNoop then none else some item
  | further :: rest =>
    match narrowFilters item.filters further.filters with
    | none => none
    | some filters => narrow? ⟨filters, narrowRelays item.relays further.relays⟩ rest

/-- The items that an item of the first child becomes. -/
def narrowings (item : RequestItem) (others : List (List RequestItem)) : List RequestItem :=
  (choices (others.map (List.filter (compatible item)))).filterMap (narrow? item)

/-- The intersection of the items of some children; none without children. -/
def intersection : List (List RequestItem) → List RequestItem
  | [] => []
  | first :: others => Filter.distinct (first.flatMap (narrowings · others))

end RelayFeeds.RequestItem
