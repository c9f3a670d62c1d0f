import RelayFeeds.Filter.Basic

/-! # Filter algebra — covering, union and intersection of filters

A list of filters is a disjunction. Its union form has fewer filters that match the same events:
repeated filters are dropped, filters that differ in one value set at most are merged, and filters
covered by another one are removed. Filters with a limit keep to themselves, since a limit counts
the events of its own filter. The intersection of lists takes one filter of each and conjoins
them. -/

namespace RelayFeeds.Filter

/-- Whether a set that may be absent allows all that another one allows. -/
def widerSet {α : Type} [Ordered α] [DecidableEq α] : Option (SortedSet α) →
    Option (SortedSet α) → Bool
  | none, _ => true
  | some _, none => false
  | some wide, some narrow => narrow.isSubset wide

/-- Whether an earliest time that may be absent allows all that another one allows. -/
def widerSince : Option UInt64 → Option UInt64 → Bool
  | none, _ => true
  | some _, none => false
  | some wide, some narrow => wide.toNat.ble narrow.toNat

/-- Whether a latest time that may be absent allows all that another one allows. -/
def widerTill : Option UInt64 → Option UInt64 → Bool
  | none, _ => true
  | some _, none => false
  | some wide, some narrow => narrow.toNat.ble wide.toNat

/-- Whether every tag constraint of the first is there in the second with no more values. -/
def widerTags (wide narrow : SortedMap String (SortedSet String)) : Bool :=
  wide.entries.all (fun entry =>
    match narrow.find? entry.1 with
    | some values => values.isSubset entry.2
    | none => false)

/-- Whether the first filter visibly matches all that the second one matches. A filter with a limit
covers itself only. -/
def covers (wide narrow : Filter) : Bool :=
  if wide.limit.isSome || narrow.limit.isSome then decide (wide = narrow)
  else
    widerSet wide.ids narrow.ids && widerSet wide.authors narrow.authors &&
      widerSet wide.kinds narrow.kinds && widerSince wide.since narrow.since &&
      widerTill wide.till narrow.till &&
      (wide.search.isNone || decide (wide.search = narrow.search)) &&
      widerTags wide.tags narrow.tags

/-- The number of sets in which two constraints differ; `none` when only one is present. -/
def setDifference {α : Type} [Ordered α] [DecidableEq α] : Option (SortedSet α) →
    Option (SortedSet α) → Option Nat
  | some a, some b => some (if a = b then 0 else 1)
  | none, none => some 0
  | _, _ => none

/-- The number of tag constraints of the first that the second does not have alike. -/
def tagDifference (a b : SortedMap String (SortedSet String)) : Nat :=
  (a.entries.filter (fun entry => !decide (b.find? entry.1 = some entry.2))).length

/-- The union of value sets that may be absent. -/
def unionSets {α : Type} [Ordered α] : Option (SortedSet α) → Option (SortedSet α) →
    Option (SortedSet α)
  | some a, some b => some (a.union b)
  | some a, none => some a
  | none, b => b

/-- The tag constraints of the first with the values of the second added to theirs. -/
def unionTags (a b : SortedMap String (SortedSet String)) : SortedMap String (SortedSet String) :=
  a.mapValues (fun key values =>
    match b.find? key with
    | some others => values.union others
    | none => values)

/-- One filter in place of two, where that is exact: they have the same constraints present and
differ in one value set at most. -/
def merge? (a b : Filter) : Option Filter :=
  if a.limit.isSome || b.limit.isSome then if a = b then some a else none
  else if a.since ≠ b.since ∨ a.till ≠ b.till ∨ a.search ≠ b.search then none
  else if a.tags.keys ≠ b.tags.keys then none
  else
    match setDifference a.ids b.ids, setDifference a.authors b.authors,
      setDifference a.kinds b.kinds with
    | some ids, some authors, some kinds =>
      if 1 < ids + authors + kinds + tagDifference a.tags b.tags then none
      else
        some { a with
          ids := unionSets a.ids b.ids
          authors := unionSets a.authors b.authors
          kinds := unionSets a.kinds b.kinds
          tags := unionTags a.tags b.tags }
    | _, _, _ => none

/-- A filter merged with the first of a list that it merges with, and the list without that one. -/
def mergeInto? (filter : Filter) : List Filter → Option (Filter × List Filter)
  | [] => none
  | other :: rest =>
    match merge? filter other with
    | some merged => some (merged, rest)
    | none => (mergeInto? filter rest).map (fun found => (found.1, other :: found.2))

/-- A list with its first pair of mergeable filters merged, in the place of the earlier one. -/
def mergeFirst? : List Filter → Option (List Filter)
  | [] => none
  | filter :: rest =>
    match mergeInto? filter rest with
    | some (merged, others) => some (merged :: others)
    | none => (mergeFirst? rest).map (filter :: ·)

/-- Merging takes one filter out of a list. -/
theorem length_of_mergeInto? {filter merged : Filter} {filters others : List Filter}
    (h : mergeInto? filter filters = some (merged, others)) :
    others.length + 1 = filters.length := by
  induction filters generalizing others with
  | nil => simp [mergeInto?] at h
  | cons other rest ih =>
    simp only [mergeInto?] at h
    split at h
    · cases h
      rfl
    · simp only [Option.map_eq_some_iff, Prod.mk.injEq] at h
      obtain ⟨found, hfound, rfl, rfl⟩ := h
      have hrest := ih hfound
      simp only [List.length_cons]
      omega

/-- A list with a pair merged is one shorter. -/
theorem length_of_mergeFirst? {filters merged : List Filter} (h : mergeFirst? filters = some merged) :
    merged.length + 1 = filters.length := by
  induction filters generalizing merged with
  | nil => simp [mergeFirst?] at h
  | cons filter rest ih =>
    simp only [mergeFirst?] at h
    split at h
    next found others hfound =>
      cases h
      have hrest := length_of_mergeInto? hfound
      simp only [List.length_cons]
      omega
    next =>
      obtain ⟨found, hfound, rfl⟩ := Option.map_eq_some_iff.mp h
      have hrest := ih hfound
      simp only [List.length_cons]
      omega

/-- A list with pairs merged until none is mergeable. -/
def mergeAll (filters : List Filter) : List Filter :=
  match _h : mergeFirst? filters with
  | none => filters
  | some merged => mergeAll merged
termination_by filters.length
decreasing_by
  have := length_of_mergeFirst? _h
  omega

/-- The first occurrences of the members of a list, those seen before left out. -/
def distinctFrom {α : Type} [DecidableEq α] (seen : List α) : List α → List α
  | [] => []
  | a :: rest => if a ∈ seen then distinctFrom seen rest else a :: distinctFrom (a :: seen) rest

/-- The first occurrences of the members of a list. -/
def distinct {α : Type} [DecidableEq α] (values : List α) : List α := distinctFrom [] values

/-- The filters that no other one covers, given those that stand before; of filters that cover one
another the first stays. -/
def uncovered (before : List Filter) : List Filter → List Filter
  | [] => []
  | filter :: after =>
    let rest := uncovered (filter :: before) after
    if before.any (covers · filter) ||
        after.any (fun other => covers other filter && !covers filter other) then rest
    else filter :: rest

/-- The union form of a list of filters. -/
def union (filters : List Filter) : List Filter := uncovered [] (mergeAll (distinct filters))

/-- The shared values of sets that may be absent; `none` when both are present and share nothing. -/
def intersectSets {α : Type} [Ordered α] [DecidableEq α] : Option (SortedSet α) →
    Option (SortedSet α) → Option (Option (SortedSet α))
  | some a, some b =>
    let shared := a.inter b
    if shared.isEmpty then none else some (some shared)
  | some a, none => some (some a)
  | none, b => some b

/-- Tag constraints narrowed by further ones; `none` when some key is left without values. -/
def intersectTags (tags : SortedMap String (SortedSet String)) :
    List (String × SortedSet String) → Option (SortedMap String (SortedSet String))
  | [] => some tags
  | (key, values) :: rest =>
    match tags.find? key with
    | none => intersectTags (tags.insert key values) rest
    | some others =>
      let shared := others.inter values
      if shared.isEmpty then none else intersectTags (tags.insert key shared) rest

/-- The later of two bounds that may be absent. -/
def latest : Option UInt64 → Option UInt64 → Option UInt64
  | some a, some b => some (if a.toNat.blt b.toNat then b else a)
  | some a, none => some a
  | none, b => b

/-- The smaller of two bounds that may be absent. -/
def smallest : Option UInt64 → Option UInt64 → Option UInt64
  | some a, some b => some (if b.toNat.blt a.toNat then b else a)
  | some a, none => some a
  | none, b => b

/-- The search for the words of both searches. -/
def bothSearches : Option String → Option String → Option String
  | some a, some b => some (if a = b then a else a ++ " " ++ b)
  | some a, none => some a
  | none, b => b

/-- The conjunction of two filters; `none` when it is visibly impossible. -/
def intersect (a b : Filter) : Option Filter :=
  match intersectTags a.tags b.tags.entries, intersectSets a.ids b.ids,
    intersectSets a.authors b.authors, intersectSets a.kinds b.kinds with
  | some tags, some ids, some authors, some kinds =>
    let filter : Filter :=
      { ids, authors, kinds, tags
        since := latest a.since b.since
        till := smallest a.till b.till
        limit := smallest a.limit b.limit
        search := bothSearches a.search b.search }
    if filter.isUnsatisfiable then none else some filter
  | _, _, _, _ => none

/-- Every conjunction of a filter of the first list with one of the second. -/
def conjunctions (as bs : List Filter) : List Filter :=
  as.flatMap (fun a => bs.filterMap (intersect a))

/-- The filters that match what some filter of every group matches; none without groups. -/
def intersectAll : List (List Filter) → List Filter
  | [] => []
  | first :: rest => union (rest.foldl conjunctions first)

end RelayFeeds.Filter
