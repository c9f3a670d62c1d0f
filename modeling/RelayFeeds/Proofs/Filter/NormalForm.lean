import Mathlib.Data.List.Nodup
import Mathlib.Data.List.Pairwise
import RelayFeeds.Proofs.Filter.Union

/-! # The normal form of a list of filters

A list of filters is in normal form when none of its filters occurs twice, merges with another one or
is covered by another one. The union form is such a list, and on such a list forming the union does
nothing, so that unions may be formed again and again, as nested feeds and plans do.

* **`exists_mergeTimes_mergeAll`**, **`length_of_mergeTimes`** — merging ends after some rounds, and
  each round takes one filter away.
* **`isNormal_union`** — the union form is in normal form.
* **`union_eq_self_iff`** — a list is its own union form exactly when it is in normal form.
* **`union_union`** — the union form is its own union form. -/

namespace RelayFeeds.Filter

/-! ### Rounds of the loop -/

/-- The list after a number of rounds of merging; `none` when there are not so many. -/
def mergeTimes : Nat → List Filter → Option (List Filter)
  | 0, filters => some filters
  | n + 1, filters => (mergeFirst? filters).bind (mergeTimes n)

/-- **Each round takes one filter away.** -/
theorem length_of_mergeTimes {n : Nat} {before after : List Filter}
    (h : mergeTimes n before = some after) : after.length + n = before.length := by
  induction n generalizing before with
  | zero =>
    cases h
    rfl
  | succ n ih =>
    obtain ⟨middle, hfirst, hrest⟩ := Option.bind_eq_some_iff.mp h
    have hround := length_of_mergeFirst? hfirst
    have hrounds := ih hrest
    omega

/-- **Merging to the end is a number of rounds.** -/
theorem exists_mergeTimes_mergeAll (filters : List Filter) :
    ∃ n, mergeTimes n filters = some (mergeAll filters) := by
  induction filters using mergeAll.induct with
  | case1 filters hnone =>
    rw [mergeAll_of_none hnone]
    exact ⟨0, rfl⟩
  | case2 filters merged hsome ih =>
    obtain ⟨n, hn⟩ := ih
    refine ⟨n + 1, ?_⟩
    rw [mergeAll_of_some hsome, mergeTimes, hsome, Option.bind_some, hn]

/-- After merging to the end there is no further round. -/
theorem mergeFirst?_mergeAll (filters : List Filter) : mergeFirst? (mergeAll filters) = none :=
  mergeFirst?_eq_none_iff.mpr (pairwise_mergeAll filters)

/-! ### How much is left -/

variable {filters : List Filter}

/-- A union form is a part of what merging leaves. -/
theorem union_sublist_mergeAll (filters : List Filter) :
    (union filters).Sublist (mergeAll (distinct filters)) :=
  uncovered_sublist [] _

/-- Merging does not make a list longer. -/
theorem length_mergeAll_le (filters : List Filter) : (mergeAll filters).length ≤ filters.length := by
  obtain ⟨n, hn⟩ := exists_mergeTimes_mergeAll filters
  have hlength := length_of_mergeTimes hn
  omega

/-- **A union form is no longer than its list.** -/
theorem length_union_le (filters : List Filter) : (union filters).length ≤ filters.length :=
  calc (union filters).length
      ≤ (mergeAll (distinct filters)).length := (union_sublist_mergeAll filters).length_le
    _ ≤ (distinct filters).length := length_mergeAll_le _
    _ ≤ filters.length := (distinct_sublist filters).length_le

/-- **A union form is empty when its list is.** -/
theorem union_eq_nil_iff : union filters = [] ↔ filters = [] := by
  constructor
  · intro hempty
    rw [List.eq_nil_iff_forall_not_mem]
    intro filter hfilter
    -- something would cover the filter
    obtain ⟨other, hother, -⟩ := exists_mem_union_covers hfilter
    rw [hempty] at hother
    cases hother
  · rintro rfl
    exact List.length_eq_zero_iff.mp (Nat.le_zero.mp (length_union_le []))

/-! ### Normal forms -/

/-- A list of filters is in normal form when union forming finds nothing to do in it. -/
structure IsNormal (filters : List Filter) : Prop where
  /-- No filter occurs twice. -/
  nodup : filters.Nodup
  /-- No two filters merge, whichever comes first. -/
  unmergeable : ∀ a ∈ filters, ∀ b ∈ filters, a ≠ b → merge? a b = none
  /-- No filter is covered by another one. -/
  uncovered : ∀ a ∈ filters, ∀ b ∈ filters, a ≠ b → covers a b = false

/-- **The union form is in normal form.** -/
theorem isNormal_union (filters : List Filter) : IsNormal (union filters) where
  nodup := nodup_union filters
  unmergeable := by
    have hsymm : Std.Symm fun a b : Filter => merge? a b = none :=
      ⟨fun a b h => (merge?_comm b a).trans h⟩
    have hpairwise : (union filters).Pairwise (fun a b => merge? a b = none) :=
      (pairwise_mergeAll (distinct filters)).sublist (union_sublist_mergeAll filters)
    intro a ha b hb
    exact hpairwise.forall ha hb
  uncovered := by
    have hsymm : Std.Symm Incomparable := ⟨fun _ _ => Incomparable.symm⟩
    have hpairwise : (union filters).Pairwise Incomparable := pairwise_uncovered [] _
    intro a ha b hb hne
    exact (hpairwise.forall ha hb hne).1

/-- **Forming the union of a list in normal form leaves it alone.** -/
theorem IsNormal.union_eq_self (h : IsNormal filters) : union filters = filters := by
  have hunmergeable : filters.Pairwise (fun a b => merge? a b = none) :=
    h.nodup.pairwise_of_forall_ne h.unmergeable
  have hincomparable : filters.Pairwise Incomparable :=
    h.nodup.pairwise_of_forall_ne fun a ha b hb hne =>
      ⟨h.uncovered a ha b hb hne, h.uncovered b hb a ha hne.symm⟩
  rw [union, distinct_eq_self h.nodup, mergeAll_of_none (mergeFirst?_eq_none_iff.mpr hunmergeable)]
  exact uncovered_eq_self hincomparable

/-- **A list is its own union form exactly when it is in normal form.** -/
theorem union_eq_self_iff : union filters = filters ↔ IsNormal filters := by
  refine ⟨?_, IsNormal.union_eq_self⟩
  intro h
  rw [← h]
  exact isNormal_union filters

/-- **The union form is its own union form.** -/
theorem union_union (filters : List Filter) : union (union filters) = union filters :=
  (isNormal_union filters).union_eq_self

/-- **Union forming reaches a normal form.** The loop makes fewer rounds than there are filters and
then finds nothing to merge; what is left is no longer than the list, empty only with it, in normal
form and its own union form. -/
theorem union_reaches_normal_form (filters : List Filter) :
    (∃ rounds merged, rounds ≤ filters.length - 1 ∧
        mergeTimes rounds (distinct filters) = some merged ∧ mergeFirst? merged = none ∧
        union filters = uncovered [] merged) ∧
      (union filters).length ≤ filters.length ∧
      (union filters = [] ↔ filters = []) ∧
      IsNormal (union filters) ∧
      union (union filters) = union filters := by
  refine ⟨?_, length_union_le filters, union_eq_nil_iff, isNormal_union filters,
    union_union filters⟩
  obtain ⟨rounds, hrounds⟩ := exists_mergeTimes_mergeAll (distinct filters)
  refine ⟨rounds, _, ?_, hrounds, mergeFirst?_mergeAll _, rfl⟩
  have hlength := length_of_mergeTimes hrounds
  have hdistinct := (distinct_sublist filters).length_le
  rcases eq_or_ne filters [] with rfl | hne
  · rw [List.length_nil] at hdistinct ⊢
    omega
  · -- something is left of a list that is not empty
    have hleft : (union filters).length ≠ 0 := by
      rwa [Ne, List.length_eq_zero_iff, union_eq_nil_iff]
    have hmerged := (union_sublist_mergeAll filters).length_le
    omega

-- the kinds of one author are merged first, which makes the two authors mergeable
example :
    union [{ kinds := some (.ofList [1]), authors := some (.ofList ["a"]) },
        { kinds := some (.ofList [2]), authors := some (.ofList ["a"]) },
        { kinds := some (.ofList [1, 2]), authors := some (.ofList ["b"]) }] =
      [{ kinds := some (.ofList [1, 2]), authors := some (.ofList ["a", "b"]) }] := by
  decide +kernel

end RelayFeeds.Filter
