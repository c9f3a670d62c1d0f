import Mathlib.Tactic.Tauto
import RelayFeeds.Proofs.Filter.Distinct
import RelayFeeds.Proofs.Filter.Merging

/-! # The union form of a list of filters

`union` drops repetitions, merges pairs until none is mergeable and drops what is covered. One round
of merging is a `MergeStep`; whatever one round keeps, `mergeAll_induction` carries over the loop.

* **`exists_mem_union_covers`** — every filter of the list is covered by one of the union form.
* **`exists_covered_of_mem_union`** — every filter of the union form covers one of the list.
* **`exists_mem_union_admits_iff`** — at every assignment and for every limit, the union form admits
  exactly what the list admits.
* **`filter_limit_union`** — filters with a limit stay as they are, repetitions aside. -/

namespace RelayFeeds.Filter

/-- Whether a filter has a limit. -/
def isLimited (filter : Filter) : Bool := filter.limit.isSome

/-! ### Rounds of merging -/

/-- One round of merging: two filters become one, in the place of the earlier. -/
inductive MergeStep : List Filter → List Filter → Prop where
  /-- The merged filter stands for the two; all others stay. -/
  | merge (before between after : List Filter) {a b merged : Filter} (h : Merges a b merged) :
      MergeStep (before ++ a :: (between ++ b :: after)) (before ++ merged :: (between ++ after))

/-- What a filter merges with is taken out of the list. -/
theorem mergeInto?_eq_some {filter merged : Filter} {filters others : List Filter}
    (h : mergeInto? filter filters = some (merged, others)) :
    ∃ between other after, filters = between ++ other :: after ∧ others = between ++ after ∧
      Merges filter other merged := by
  induction filters generalizing others with
  | nil => cases h
  | cons head rest ih =>
    rw [mergeInto?] at h
    split at h
    next found hfound =>
      cases h
      exact ⟨[], head, rest, rfl, rfl, merges_of_merge? hfound⟩
    next =>
      -- the partner stands further back, behind a filter that stays
      obtain ⟨⟨m, os⟩, hfound, hpair⟩ := Option.map_eq_some_iff.mp h
      cases hpair
      obtain ⟨between, other, after, rfl, rfl, hmerges⟩ := ih hfound
      exact ⟨head :: between, other, after, rfl, rfl, hmerges⟩

/-- **Merging the first mergeable pair is a round.** -/
theorem mergeStep_of_mergeFirst? {filters merged : List Filter}
    (h : mergeFirst? filters = some merged) : MergeStep filters merged := by
  induction filters generalizing merged with
  | nil => cases h
  | cons filter rest ih =>
    rw [mergeFirst?] at h
    split at h
    next found others hfound =>
      cases h
      obtain ⟨between, other, after, rfl, rfl, hmerges⟩ := mergeInto?_eq_some hfound
      exact MergeStep.merge [] between after hmerges
    next =>
      obtain ⟨found, hfound, rfl⟩ := Option.map_eq_some_iff.mp h
      cases ih hfound with
      | merge before between after hmerges =>
        exact MergeStep.merge (filter :: before) between after hmerges

/-- A filter merges into a list unless it merges with no member. -/
theorem mergeInto?_eq_none_iff {filter : Filter} {filters : List Filter} :
    mergeInto? filter filters = none ↔ ∀ other ∈ filters, merge? filter other = none := by
  induction filters with
  | nil => simp [mergeInto?]
  | cons head rest ih =>
    rw [mergeInto?, List.forall_mem_cons, ← ih]
    cases merge? filter head <;> simp

/-- No pair is merged exactly when no filter merges with a later one. -/
theorem mergeFirst?_eq_none_iff {filters : List Filter} :
    mergeFirst? filters = none ↔ filters.Pairwise (fun a b => merge? a b = none) := by
  induction filters with
  | nil => simp [mergeFirst?]
  | cons filter rest ih =>
    rw [mergeFirst?, List.pairwise_cons, ← ih, ← mergeInto?_eq_none_iff]
    cases mergeInto? filter rest <;> simp

/-- Without a mergeable pair the list is left alone. -/
theorem mergeAll_of_none {filters : List Filter} (h : mergeFirst? filters = none) :
    mergeAll filters = filters := by
  rw [mergeAll.eq_def]
  split
  next => rfl
  next merged hsome =>
    rw [h] at hsome
    cases hsome

/-- A pair that is merged is merged before all others. -/
theorem mergeAll_of_some {filters merged : List Filter} (h : mergeFirst? filters = some merged) :
    mergeAll filters = mergeAll merged := by
  rw [mergeAll.eq_def]
  split
  next hnone =>
    rw [h] at hnone
    cases hnone
  next merged' hsome =>
    rw [h] at hsome
    cases hsome
    rfl

/-- **What every round keeps, merging to the end keeps.** -/
theorem mergeAll_induction {motive : List Filter → Prop}
    (hstep : ∀ {before after}, MergeStep before after → motive before → motive after)
    (filters : List Filter) (h : motive filters) : motive (mergeAll filters) := by
  induction filters using mergeAll.induct with
  | case1 filters hnone =>
    rw [mergeAll_of_none hnone]
    exact h
  | case2 filters merged hsome ih =>
    rw [mergeAll_of_some hsome]
    exact ih (hstep (mergeStep_of_mergeFirst? hsome) h)

/-- After merging to the end no filter merges with a later one. -/
theorem pairwise_mergeAll (filters : List Filter) :
    (mergeAll filters).Pairwise (fun a b => merge? a b = none) := by
  rw [← mergeFirst?_eq_none_iff]
  induction filters using mergeAll.induct with
  | case1 filters hnone =>
    rw [mergeAll_of_none hnone]
    exact hnone
  | case2 filters merged hsome ih =>
    rw [mergeAll_of_some hsome]
    exact ih

/-! ### What a round keeps -/

namespace MergeStep

variable {before after : List Filter}

/-- Every filter is covered after a round. -/
theorem exists_covers (h : MergeStep before after) :
    ∀ filter ∈ before, ∃ other ∈ after, covers other filter = true := by
  cases h with
  | merge front between back hmerges =>
    intro filter hfilter
    simp only [List.mem_append, List.mem_cons] at hfilter ⊢
    rcases hfilter with hfront | rfl | hbetween | rfl | hback
    · exact ⟨filter, Or.inl hfront, covers_refl filter⟩
    · exact ⟨_, Or.inr (Or.inl rfl), hmerges.covers_left⟩
    · exact ⟨filter, Or.inr (Or.inr (Or.inl hbetween)), covers_refl filter⟩
    · exact ⟨_, Or.inr (Or.inl rfl), hmerges.covers_right⟩
    · exact ⟨filter, Or.inr (Or.inr (Or.inr hback)), covers_refl filter⟩

/-- Every filter after a round covers one that was there before. -/
theorem exists_covered (h : MergeStep before after) :
    ∀ other ∈ after, ∃ filter ∈ before, covers other filter = true := by
  cases h with
  | merge front between back hmerges =>
    intro other hother
    simp only [List.mem_append, List.mem_cons] at hother ⊢
    rcases hother with hfront | rfl | hbetween | hback
    · exact ⟨other, Or.inl hfront, covers_refl other⟩
    · exact ⟨_, Or.inr (Or.inl rfl), hmerges.covers_left⟩
    · exact ⟨other, Or.inr (Or.inr (Or.inl hbetween)), covers_refl other⟩
    · exact ⟨other, Or.inr (Or.inr (Or.inr (Or.inr hback))), covers_refl other⟩

/-- A filter after a round admits what one of the same limit admitted before. -/
theorem exists_admits {event : Event} {assignment : Assignment event} (h : MergeStep before after)
    {other : Filter} (hother : other ∈ after) (hadmits : other.Admits assignment) :
    ∃ filter ∈ before, filter.limit = other.limit ∧ filter.Admits assignment := by
  cases h with
  | merge front between back hmerges =>
    simp only [List.mem_append, List.mem_cons] at hother ⊢
    rcases hother with hfront | rfl | hbetween | hback
    · exact ⟨other, Or.inl hfront, rfl, hadmits⟩
    · rcases hmerges.admits_iff.mp hadmits with ha | hb
      · exact ⟨_, Or.inr (Or.inl rfl), hmerges.limit_left.symm, ha⟩
      · exact ⟨_, Or.inr (Or.inr (Or.inr (Or.inl rfl))), hmerges.limit_right.symm, hb⟩
    · exact ⟨other, Or.inr (Or.inr (Or.inl hbetween)), rfl, hadmits⟩
    · exact ⟨other, Or.inr (Or.inr (Or.inr (Or.inr hback))), rfl, hadmits⟩

/-- A round leaves filters with a limit alone where they are distinct. -/
theorem filter_limit (h : MergeStep before after)
    (hnodup : (before.filter isLimited).Nodup) :
    after.filter isLimited = before.filter isLimited := by
  cases h with
  | @merge front between back a b merged hmerges =>
    have hlimit : merged.limit = none := by
      by_cases heq : a = b
      · subst heq
        rw [hmerges.limit_left]
        cases ha : a.limit with
        | none => rfl
        | some n =>
          -- a filter with a limit that merges with itself would occur twice
          have hsome : isLimited a = true := by rw [isLimited, ha, Option.isSome_some]
          rw [List.filter_append, List.filter_cons_of_pos hsome, List.filter_append,
            List.filter_cons_of_pos hsome, List.nodup_append, List.nodup_cons] at hnodup
          exact absurd (List.mem_append_right _ List.mem_cons_self) hnodup.2.1.1
      · exact hmerges.limit_eq_none heq
    have ha : a.limit = none := hmerges.limit_left.symm.trans hlimit
    have hb : b.limit = none := hmerges.limit_right.symm.trans hlimit
    simp only [List.filter_append, List.filter_cons, isLimited, hlimit, ha, hb,
      Option.isSome_none, Bool.false_eq_true, if_false]

end MergeStep

/-! ### Dropping what is covered -/

/-- What is left of a list after dropping is a part of it. -/
theorem uncovered_sublist (before filters : List Filter) :
    (uncovered before filters).Sublist filters := by
  induction filters generalizing before with
  | nil => exact List.Sublist.slnil
  | cons filter after ih =>
    rw [uncovered]
    split
    · exact (ih _).cons filter
    · exact (ih _).cons_cons filter

/-- **Every filter is covered by one that is left**, or by one that stood before. -/
theorem exists_covers_uncovered (before filters : List Filter) :
    ∀ filter ∈ filters, ∃ other ∈ before ++ uncovered before filters,
      covers other filter = true := by
  induction filters generalizing before with
  | nil =>
    intro filter hfilter
    cases hfilter
  | cons head after ih =>
    have hrest := ih (head :: before)
    rw [uncovered]
    split
    next hdropped =>
      -- the dropped filter is covered by one that is left, which then covers what it covered
      have hhead : ∃ other ∈ before ++ uncovered (head :: before) after,
          covers other head = true := by
        rcases Bool.or_eq_true_iff.mp hdropped with hbefore | hafter
        · obtain ⟨other, hother, hcovers⟩ := List.any_eq_true.mp hbefore
          exact ⟨other, List.mem_append_left _ hother, hcovers⟩
        · obtain ⟨larger, hlarger, hstrict⟩ := List.any_eq_true.mp hafter
          rw [Bool.and_eq_true, Bool.not_eq_true'] at hstrict
          obtain ⟨other, hother, hcovers⟩ := hrest larger hlarger
          rcases List.mem_cons.mp hother with rfl | hother
          · rw [hstrict.2] at hcovers
            cases hcovers
          · exact ⟨other, hother, covers_trans hcovers hstrict.1⟩
      intro filter hfilter
      rcases List.mem_cons.mp hfilter with rfl | hfilter
      · exact hhead
      · obtain ⟨other, hother, hcovers⟩ := hrest filter hfilter
        rcases List.mem_cons.mp hother with rfl | hother
        · obtain ⟨larger, hlarger, hcovers'⟩ := hhead
          exact ⟨larger, hlarger, covers_trans hcovers' hcovers⟩
        · exact ⟨other, hother, hcovers⟩
    next =>
      intro filter hfilter
      rcases List.mem_cons.mp hfilter with rfl | hfilter
      · exact ⟨filter, List.mem_append_right _ List.mem_cons_self, covers_refl filter⟩
      · obtain ⟨other, hother, hcovers⟩ := hrest filter hfilter
        refine ⟨other, ?_, hcovers⟩
        rw [List.cons_append, List.mem_cons, List.mem_append] at hother
        rw [List.mem_append, List.mem_cons]
        tauto

/-- Two filters neither of which covers the other. -/
def Incomparable (a b : Filter) : Prop := covers a b = false ∧ covers b a = false

/-- Which of two incomparable filters comes first makes no difference. -/
theorem Incomparable.symm {a b : Filter} (h : Incomparable a b) : Incomparable b a := ⟨h.2, h.1⟩

/-- What is left is not covered by what stood before. -/
theorem not_covers_of_mem_uncovered {before filters : List Filter} {filter other : Filter}
    (hfilter : filter ∈ uncovered before filters) (hother : other ∈ before) :
    covers other filter = false := by
  induction filters generalizing before with
  | nil => cases hfilter
  | cons head after ih =>
    rw [uncovered] at hfilter
    split at hfilter
    next => exact ih hfilter (List.mem_cons_of_mem head hother)
    next hkept =>
      rcases List.mem_cons.mp hfilter with rfl | hfilter
      · rw [Bool.or_eq_true, not_or] at hkept
        exact Bool.eq_false_iff.mpr fun hcovers =>
          hkept.1 (List.any_eq_true.mpr ⟨other, hother, hcovers⟩)
      · exact ih hfilter (List.mem_cons_of_mem head hother)

/-- **No filter that is left covers another one.** -/
theorem pairwise_uncovered (before filters : List Filter) :
    (uncovered before filters).Pairwise Incomparable := by
  induction filters generalizing before with
  | nil => exact List.Pairwise.nil
  | cons head after ih =>
    rw [uncovered]
    split
    next => exact ih _
    next hkept =>
      rw [List.pairwise_cons]
      refine ⟨?_, ih _⟩
      intro other hother
      have hnot : covers head other = false :=
        not_covers_of_mem_uncovered hother List.mem_cons_self
      refine ⟨hnot, ?_⟩
      rw [Bool.or_eq_true, not_or] at hkept
      have hlater := (uncovered_sublist _ _).subset hother
      -- a later filter that covers this one strictly would have dropped it
      refine Bool.eq_false_iff.mpr fun hcovers => hkept.2 (List.any_eq_true.mpr ⟨other, hlater, ?_⟩)
      rw [hcovers, hnot]
      rfl

/-- Incomparable filters are all left. -/
theorem uncovered_eq_self {before filters : List Filter}
    (h : (before ++ filters).Pairwise Incomparable) : uncovered before filters = filters := by
  induction filters generalizing before with
  | nil => rfl
  | cons head after ih =>
    have hperm : (before ++ head :: after).Perm (head :: before ++ after) := List.perm_middle
    have hkept := hperm.pairwise h Incomparable.symm
    rw [uncovered, if_neg, ih hkept]
    have hhead := (List.pairwise_cons.mp hkept).1
    rw [Bool.or_eq_true, List.any_eq_true, List.any_eq_true]
    rintro (⟨other, hother, hcovers⟩ | ⟨other, hother, hcovers⟩)
    · rw [(hhead other (List.mem_append_left after hother)).2] at hcovers
      cases hcovers
    · rw [(hhead other (List.mem_append_right before hother)).2] at hcovers
      cases hcovers

/-- Dropping leaves filters with a limit alone where they are distinct. -/
theorem filter_limit_uncovered {before filters : List Filter}
    (hnodup : ((before ++ filters).filter isLimited).Nodup) :
    (uncovered before filters).filter isLimited = filters.filter isLimited := by
  induction filters generalizing before with
  | nil => rfl
  | cons head after ih =>
    have hperm : (before ++ head :: after).Perm (head :: before ++ after) := List.perm_middle
    have hnodup' := (hperm.filter isLimited).nodup_iff.mp hnodup
    rw [uncovered]
    split
    next hdropped =>
      rw [ih hnodup']
      cases hlimit : head.limit with
      | none => rw [List.filter_cons_of_neg (by simp [isLimited, hlimit])]
      | some n =>
        -- only an equal filter covers one with a limit, and there is no other one here
        have hne : head.limit ≠ none := by simp [hlimit]
        have hnot : head ∉ before ++ after := by
          have hlimited : isLimited head = true := by rw [isLimited, hlimit, Option.isSome_some]
          rw [List.cons_append, List.filter_cons_of_pos hlimited, List.nodup_cons,
            List.mem_filter, not_and_or] at hnodup'
          exact hnodup'.1.resolve_right (fun h => h hlimited)
        rw [Bool.or_eq_true, List.any_eq_true, List.any_eq_true] at hdropped
        rcases hdropped with ⟨other, hother, hcovers⟩ | ⟨other, hother, hstrict⟩
        · rw [eq_of_covers_of_limit hcovers hne] at hother
          exact absurd (List.mem_append_left after hother) hnot
        · rw [eq_of_covers_of_limit (Bool.and_eq_true_iff.mp hstrict).1 hne] at hother
          exact absurd (List.mem_append_right before hother) hnot
    next => rw [List.filter_cons, List.filter_cons, ih hnodup']

/-! ### The union form -/

variable {filters : List Filter}

/-- **Every filter of a list is covered by one of the union form.** -/
theorem exists_mem_union_covers {filter : Filter} (h : filter ∈ filters) :
    ∃ other ∈ union filters, covers other filter = true := by
  -- the rounds keep the filter covered, and dropping leaves a filter that covers its cover
  have hmerged : ∀ f ∈ filters, ∃ g ∈ mergeAll (distinct filters), covers g f = true := by
    refine mergeAll_induction
      (motive := fun gs => ∀ f ∈ filters, ∃ g ∈ gs, covers g f = true) ?_ (distinct filters) ?_
    · intro before after hstep hbefore f hf
      obtain ⟨g, hg, hcovers⟩ := hbefore f hf
      obtain ⟨g', hg', hcovers'⟩ := hstep.exists_covers g hg
      exact ⟨g', hg', covers_trans hcovers' hcovers⟩
    · intro f hf
      exact ⟨f, mem_distinct.mpr hf, covers_refl f⟩
  obtain ⟨middle, hmiddle, hcovers⟩ := hmerged filter h
  obtain ⟨other, hother, hcovers'⟩ := exists_covers_uncovered [] _ middle hmiddle
  exact ⟨other, hother, covers_trans hcovers' hcovers⟩

/-- **Every filter of the union form covers one of the list.** -/
theorem exists_covered_of_mem_union {other : Filter} (h : other ∈ union filters) :
    ∃ filter ∈ filters, covers other filter = true := by
  refine mergeAll_induction
    (motive := fun gs => ∀ g ∈ gs, ∃ f ∈ filters, covers g f = true) ?_ (distinct filters) ?_
    other ((uncovered_sublist [] _).subset h)
  · intro before after hstep hbefore g hg
    obtain ⟨f, hf, hcovers⟩ := hstep.exists_covered g hg
    obtain ⟨f', hf', hcovers'⟩ := hbefore f hf
    exact ⟨f', hf', covers_trans hcovers hcovers'⟩
  · intro f hf
    exact ⟨f, mem_distinct.mp hf, covers_refl f⟩

/-- **At every assignment and for every limit, the union form admits exactly what the list
admits.** -/
theorem exists_mem_union_admits_iff {event : Event} {assignment : Assignment event}
    (limit : Option UInt64) :
    (∃ filter ∈ union filters, filter.limit = limit ∧ filter.Admits assignment) ↔
      ∃ filter ∈ filters, filter.limit = limit ∧ filter.Admits assignment := by
  constructor
  · rintro ⟨filter, hfilter, hlimit, hadmits⟩
    have hmerged : ∀ g ∈ mergeAll (distinct filters), g.Admits assignment →
        ∃ f ∈ filters, f.limit = g.limit ∧ f.Admits assignment := by
      refine mergeAll_induction (motive := fun gs => ∀ g ∈ gs, g.Admits assignment →
        ∃ f ∈ filters, f.limit = g.limit ∧ f.Admits assignment) ?_ (distinct filters) ?_
      · intro before after hstep hbefore g hg hg'
        obtain ⟨f, hf, hflimit, hf'⟩ := hstep.exists_admits hg hg'
        obtain ⟨f', hf', hlimit', hadmits'⟩ := hbefore f hf hf'
        exact ⟨f', hf', hlimit'.trans hflimit, hadmits'⟩
      · intro g hg hg'
        exact ⟨g, mem_distinct.mp hg, rfl, hg'⟩
    obtain ⟨f, hf, hflimit, hf'⟩ :=
      hmerged filter ((uncovered_sublist [] _).subset hfilter) hadmits
    exact ⟨f, hf, hflimit.trans hlimit, hf'⟩
  · rintro ⟨filter, hfilter, hlimit, hadmits⟩
    obtain ⟨other, hother, hcovers⟩ := exists_mem_union_covers hfilter
    exact ⟨other, hother, (limit_eq_of_covers hcovers).trans hlimit,
      admits_of_covers hcovers hadmits⟩

/-- At every assignment the union form admits exactly what the list admits. -/
theorem exists_mem_union_admits {event : Event} {assignment : Assignment event} :
    (∃ filter ∈ union filters, filter.Admits assignment) ↔
      ∃ filter ∈ filters, filter.Admits assignment := by
  constructor
  · rintro ⟨filter, hfilter, hadmits⟩
    obtain ⟨other, hother, -, hadmits'⟩ :=
      (exists_mem_union_admits_iff filter.limit).mp ⟨filter, hfilter, rfl, hadmits⟩
    exact ⟨other, hother, hadmits'⟩
  · rintro ⟨filter, hfilter, hadmits⟩
    obtain ⟨other, hother, -, hadmits'⟩ :=
      (exists_mem_union_admits_iff filter.limit).mpr ⟨filter, hfilter, rfl, hadmits⟩
    exact ⟨other, hother, hadmits'⟩

/-- An event matches the union form exactly when it matches the list. -/
theorem anyMatch_union (filters : List Filter) (event : Event) :
    anyMatch (union filters) event = anyMatch filters event := by
  rw [Bool.eq_iff_iff, anyMatch_iff_exists_admits, anyMatch_iff_exists_admits]
  exact exists_congr fun _ => exists_mem_union_admits

/-- **Filters with a limit stay as they are, repetitions aside.** -/
theorem filter_limit_union (filters : List Filter) :
    (union filters).filter isLimited = distinct (filters.filter isLimited) := by
  -- repetitions are gone before the first round, so no round finds two filters of one limit
  have hnodup : ((distinct filters).filter isLimited).Nodup :=
    (nodup_distinct filters).sublist List.filter_sublist
  have hmerged : (mergeAll (distinct filters)).filter isLimited =
      (distinct filters).filter isLimited := by
    refine mergeAll_induction (motive := fun gs =>
      gs.filter isLimited = (distinct filters).filter isLimited) ?_ (distinct filters) rfl
    intro before after hstep hbefore
    rw [hstep.filter_limit (hbefore ▸ hnodup), hbefore]
  rw [union, filter_limit_uncovered (by rwa [List.nil_append, hmerged]), hmerged, filter_distinct]

/-- A union form has no repetitions. -/
theorem nodup_union (filters : List Filter) : (union filters).Nodup := by
  refine (pairwise_uncovered [] (mergeAll (distinct filters))).imp ?_
  rintro a b hincomparable rfl
  rw [Incomparable, covers_refl] at hincomparable
  cases hincomparable.1

/-- **The union form loses nothing and adds nothing.** Every filter of the list is covered, the same
events match, the filters with a limit are those of the list in order of first occurrence, and the
filters without one match what those of the list match. -/
theorem union_preserves_matches_and_limits (filters : List Filter) :
    (∀ filter ∈ filters, ∃ other ∈ union filters, covers other filter = true) ∧
      (∀ event, anyMatch (union filters) event = anyMatch filters event) ∧
      (union filters).filter isLimited = (filters.filter isLimited).eraseDups ∧
      ∀ event, (∃ filter ∈ union filters, filter.limit = none ∧ filter.isMatch event = true) ↔
        ∃ filter ∈ filters, filter.limit = none ∧ filter.isMatch event = true := by
  refine ⟨fun filter => exists_mem_union_covers, anyMatch_union filters, ?_, ?_⟩
  · rw [filter_limit_union, distinct_eq_eraseDups]
  · intro event
    simp only [isMatch_iff_exists_admits]
    constructor
    · rintro ⟨filter, hfilter, hlimit, assignment, hadmits⟩
      obtain ⟨other, hother, hlimit', hadmits'⟩ :=
        (exists_mem_union_admits_iff none).mp ⟨filter, hfilter, hlimit, hadmits⟩
      exact ⟨other, hother, hlimit', assignment, hadmits'⟩
    · rintro ⟨filter, hfilter, hlimit, assignment, hadmits⟩
      obtain ⟨other, hother, hlimit', hadmits'⟩ :=
        (exists_mem_union_admits_iff none).mpr ⟨filter, hfilter, hlimit, hadmits⟩
      exact ⟨other, hother, hlimit', assignment, hadmits'⟩

end RelayFeeds.Filter
