import RelayFeeds.Proofs.Filter.Union

/-! # Visibly impossible filters

A filter is visibly impossible when one of its value sets is empty or its window is inverted. It then
matches nothing. Widening a filter does not make it impossible, and so forming a union does not:

* **`isUnsatisfiable_eq_false_iff`** — when a filter is possible, constraint by constraint.
* **`not_isMatch_of_isUnsatisfiable`** — a visibly impossible filter matches nothing.
* **`isUnsatisfiable_of_covers`** — a filter that covers a possible one is possible. -/

namespace RelayFeeds.Filter

/-! ### Possible filters -/

/-- No constraint of a filter is visibly impossible. -/
structure Possible (filter : Filter) : Prop where
  /-- Some id is allowed. -/
  ids : isVoid filter.ids = false
  /-- Some author is allowed. -/
  authors : isVoid filter.authors = false
  /-- Some kind is allowed. -/
  kinds : isVoid filter.kinds = false
  /-- Some value is allowed under every tag key. -/
  tags : ∀ key, isVoid (filter.tags.find? key) = false
  /-- The window is not inverted. -/
  window : ∀ since till, filter.since = some since → filter.till = some till →
    since.toNat ≤ till.toNat

/-- **A filter is not visibly impossible when none of its constraints is.** -/
theorem isUnsatisfiable_eq_false_iff {filter : Filter} :
    filter.isUnsatisfiable = false ↔ Possible filter := by
  have htags : filter.tags.values.any SortedSet.isEmpty = false ↔
      ∀ key, isVoid (filter.tags.find? key) = false := by
    simp only [List.any_eq_false, SortedMap.mem_values, forall_exists_index]
    constructor
    · intro h key
      cases hvalues : filter.tags.find? key with
      | none => rfl
      | some values => exact Bool.eq_false_iff.mpr (h values key hvalues)
    · intro h values key hvalues
      have hkey := h key
      rw [hvalues] at hkey
      exact Bool.eq_false_iff.mp hkey
  simp only [isUnsatisfiable, Bool.or_eq_false_iff, htags]
  constructor
  · rintro ⟨⟨⟨⟨hids, hauthors⟩, hkinds⟩, hvalues⟩, hwindow⟩
    refine ⟨hids, hauthors, hkinds, hvalues, ?_⟩
    intro since till hsince htill
    rw [hsince, htill] at hwindow
    exact Nat.not_lt.mp fun hlt => Bool.eq_false_iff.mp hwindow (Nat.blt_eq.mpr hlt)
  · rintro ⟨hids, hauthors, hkinds, hvalues, hwindow⟩
    refine ⟨⟨⟨⟨hids, hauthors⟩, hkinds⟩, hvalues⟩, ?_⟩
    split
    next since till hsince htill =>
      rw [Bool.eq_false_iff, Ne, Nat.blt_eq, Nat.not_lt]
      exact hwindow since till hsince htill
    next => rfl

/-! ### Impossible filters match nothing -/

variable {filter : Filter} {event : Event}

/-- A set that allows something is not void. -/
theorem isVoid_of_allows {α : Type} [Ordered α] [DecidableEq α] {allowed : Option (SortedSet α)}
    {a : α} (h : allows allowed a = true) : isVoid allowed = false := by
  cases allowed with
  | none => rfl
  | some values => exact SortedSet.isEmpty_eq_false_iff.mpr ⟨a, allows_some.mp h⟩

/-- **A filter that admits something is possible.** -/
theorem Possible.of_admits {assignment : Assignment event} (h : filter.Admits assignment) :
    Possible filter where
  ids := isVoid_of_allows h.ids
  authors := isVoid_of_allows h.authors
  kinds := isVoid_of_allows h.kinds
  tags := by
    intro key
    cases hvalues : filter.tags.find? key with
    | none => rfl
    | some values =>
      obtain ⟨value, hvalue, -⟩ := h.tags key values hvalues
      exact SortedSet.isEmpty_eq_false_iff.mpr ⟨value, hvalue⟩
  window := by
    -- the time of the event lies in the window
    intro since till hsince htill
    have hafter := h.since
    have hbefore := h.till
    simp only [hsince, htill, notBefore, notAfter, Nat.ble_eq] at hafter hbefore
    exact Nat.le_trans hafter hbefore

/-- **A visibly impossible filter matches nothing.** -/
theorem not_isMatch_of_isUnsatisfiable (h : filter.isUnsatisfiable = true) :
    filter.isMatch event = false := by
  rw [Bool.eq_false_iff]
  intro hmatch
  obtain ⟨assignment, hadmits⟩ := isMatch_iff_exists_admits.mp hmatch
  have hpossible := isUnsatisfiable_eq_false_iff.mpr (Possible.of_admits hadmits)
  rw [h] at hpossible
  cases hpossible

/-! ### Wider filters stay possible -/

/-- A set as wide as one that is not void is not void. -/
theorem isVoid_of_widerSet {α : Type} [Ordered α] [DecidableEq α] {wide narrow : Option (SortedSet α)}
    (h : widerSet wide narrow = true) (hnarrow : isVoid narrow = false) : isVoid wide = false := by
  cases wide with
  | none => rfl
  | some values =>
    obtain ⟨others, rfl, hsub⟩ := widerSet_iff.mp h values rfl
    obtain ⟨a, ha⟩ := SortedSet.isEmpty_eq_false_iff.mp hnarrow
    exact SortedSet.isEmpty_eq_false_iff.mpr ⟨a, hsub a ha⟩

/-- A filter as wide as a possible one is possible. -/
theorem Possible.of_wider {wide narrow : Filter} (h : Wider wide narrow)
    (hnarrow : Possible narrow) : Possible wide where
  ids := isVoid_of_widerSet h.ids hnarrow.ids
  authors := isVoid_of_widerSet h.authors hnarrow.authors
  kinds := isVoid_of_widerSet h.kinds hnarrow.kinds
  tags key := isVoid_of_widerSet (widerTags_iff_find?.mp h.tags key) (hnarrow.tags key)
  window := by
    intro since till hsince htill
    have hearlier := h.since
    have hlater := h.till
    rw [hsince] at hearlier
    rw [htill] at hlater
    -- both bounds are there in the narrower filter too, further in
    cases hs : narrow.since with
    | none =>
      rw [hs] at hearlier
      cases hearlier
    | some since' =>
      cases ht : narrow.till with
      | none =>
        rw [ht] at hlater
        cases hlater
      | some till' =>
        have hwindow := hnarrow.window since' till' hs ht
        simp only [hs, widerSince, Nat.ble_eq] at hearlier
        simp only [ht, widerTill, Nat.ble_eq] at hlater
        omega

/-- **A filter that covers a possible one is possible.** -/
theorem isUnsatisfiable_of_covers {wide narrow : Filter} (h : covers wide narrow = true)
    (hnarrow : narrow.isUnsatisfiable = false) : wide.isUnsatisfiable = false := by
  rcases covers_iff.mp h with rfl | ⟨-, -, hwider⟩
  · exact hnarrow
  · rw [isUnsatisfiable_eq_false_iff] at hnarrow ⊢
    exact hnarrow.of_wider hwider

/-- The union form of possible filters has possible filters only. -/
theorem isUnsatisfiable_of_mem_union {filters : List Filter}
    (h : ∀ filter ∈ filters, filter.isUnsatisfiable = false) :
    ∀ filter ∈ union filters, filter.isUnsatisfiable = false := by
  intro filter hfilter
  obtain ⟨covered, hcovered, hcovers⟩ := exists_covered_of_mem_union hfilter
  exact isUnsatisfiable_of_covers hcovers (h covered hcovered)

end RelayFeeds.Filter
