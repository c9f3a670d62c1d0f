import RelayFeeds.Proofs.Filter.Intersection

/-! # Conjunctions as greatest lower bounds

An absent constraint is the widest one for covering and the neutral one for conjoining. The two agree:
the conjunction of two filters is the widest of the possible filters that both of them cover.

* **`conjunctive_widerSet`** — being wider than a set that is not void is respected by conjoining.
* **`exists_intersect_wider`** — a conjunction is as wide as a possible filter exactly when both of
  its parts are.
* **`intersect_isMeet`** — two filters both cover a possible one exactly when they have a conjunction
  that covers it.

Searches are the exception: the search for the words of two different searches is neither of them,
so that neither of the two filters covers their own conjunction. -/

namespace RelayFeeds.Filter

/-! ### One constraint -/

/-- Being wider than a set that is not void is respected by conjoining. -/
theorem conjunctive_widerSet {α : Type} [Ordered α] [DecidableEq α] {narrow : Option (SortedSet α)}
    (h : isVoid narrow = false) : Conjunctive fun wide => widerSet wide narrow = true where
  absent := rfl
  shared s t := by
    cases narrow with
    | none => simp [widerSet]
    | some values =>
      simp only [widerSet, SortedSet.isSubset_iff, SortedSet.mem_inter]
      exact forall₂_and
  occupied s hempty hwider := by
    -- an empty set is wider than void sets only
    have hoccupied : s.isEmpty = false := isVoid_of_widerSet hwider h
    rw [hempty] at hoccupied
    cases hoccupied

/-- The later of two earliest times is as wide as a third when both are. -/
theorem widerSince_latest (a b c : Option UInt64) :
    widerSince (latest a b) c = (widerSince a c && widerSince b c) := by
  cases a with
  | none => rw [latest, widerSince, Bool.true_and]
  | some m =>
    cases b with
    | none => exact (Bool.and_true _).symm
    | some n =>
      cases c with
      | none => rfl
      | some k =>
        rw [Bool.eq_iff_iff]
        simp only [latest, widerSince, Bool.and_eq_true, Nat.ble_eq, Nat.blt_eq]
        split <;> omega

/-- The smaller of two latest times is as wide as a third when both are. -/
theorem widerTill_smallest (a b c : Option UInt64) :
    widerTill (smallest a b) c = (widerTill a c && widerTill b c) := by
  cases a with
  | none => rw [smallest, widerTill, Bool.true_and]
  | some m =>
    cases b with
    | none => exact (Bool.and_true _).symm
    | some n =>
      cases c with
      | none => rfl
      | some k =>
        rw [Bool.eq_iff_iff]
        simp only [smallest, widerTill, Bool.and_eq_true, Nat.ble_eq, Nat.blt_eq]
        split <;> omega

/-- Two searches are the same where both are present. -/
def SameSearch (a b : Option String) : Prop := ∀ s t, a = some s → b = some t → s = t

/-- The search for both of two searches that are the same where both are present is absent or a
given one when each of them is. -/
theorem bothSearches_absent_or_eq_iff {a b c : Option String} (h : SameSearch a b) :
    (bothSearches a b = none ∨ bothSearches a b = c) ↔
      (a = none ∨ a = c) ∧ (b = none ∨ b = c) := by
  cases a with
  | none => simp [bothSearches]
  | some s =>
    cases b with
    | none => simp [bothSearches]
    | some t =>
      have hst : s = t := h s t rfl rfl
      simp [bothSearches, hst]

/-! ### Whole filters -/

variable {a b c : Filter}

/-- The searches of filters that are as wide as a third one are the same where both are present. -/
theorem Wider.sameSearch (ha : Wider a c) (hb : Wider b c) : SameSearch a.search b.search := by
  intro s t hs ht
  have hsc : some s = c.search := by
    rcases ha.search with hnone | hsame
    · rw [hs] at hnone
      cases hnone
    · exact hs.symm.trans hsame
  have htc : some t = c.search := by
    rcases hb.search with hnone | hsame
    · rw [ht] at hnone
      cases hnone
    · exact ht.symm.trans hsame
  exact Option.some.inj (hsc.trans htc.symm)

/-- **A conjunction is as wide as a possible filter exactly when both of its parts are.** -/
theorem exists_intersect_wider (hsearch : SameSearch a.search b.search) (hc : Possible c) :
    (∃ both, intersect a b = some both ∧ Wider both c) ↔ Wider a c ∧ Wider b c := by
  -- the sets are narrowed one by one, and each narrowed set is as wide as the third filter's
  have hids_iff := (conjunctive_widerSet hc.ids).exists_intersectSets (a := a.ids) (b := b.ids)
  have hauthors_iff :=
    (conjunctive_widerSet hc.authors).exists_intersectSets (a := a.authors) (b := b.authors)
  have hkinds_iff :=
    (conjunctive_widerSet hc.kinds).exists_intersectSets (a := a.kinds) (b := b.kinds)
  have htags_iff : (∃ tags, intersectTags a.tags b.tags.entries = some tags ∧
      widerTags tags c.tags = true) ↔
        widerTags a.tags c.tags = true ∧ widerTags b.tags c.tags = true := by
    simp only [widerTags_iff_find?]
    exact exists_intersectTags fun key => conjunctive_widerSet (hc.tags key)
  constructor
  · rintro ⟨both, hboth, hwider⟩
    obtain ⟨ids, authors, kinds, tags, hids', hauthors', hkinds', htags', rfl, -⟩ :=
      intersect_eq_some_iff.mp hboth
    -- each constraint of the conjunction is read back as the two that it comes from
    have hids := hids_iff.mp ⟨ids, hids', hwider.ids⟩
    have hauthors := hauthors_iff.mp ⟨authors, hauthors', hwider.authors⟩
    have hkinds := hkinds_iff.mp ⟨kinds, hkinds', hwider.kinds⟩
    have htags := htags_iff.mp ⟨tags, htags', hwider.tags⟩
    have hsince := Bool.and_eq_true_iff.mp ((widerSince_latest ..).symm.trans hwider.since)
    have htill := Bool.and_eq_true_iff.mp ((widerTill_smallest ..).symm.trans hwider.till)
    have hsearch := (bothSearches_absent_or_eq_iff hsearch).mp hwider.search
    exact ⟨⟨hids.1, hauthors.1, hkinds.1, hsince.1, htill.1, hsearch.1, htags.1⟩,
      ⟨hids.2, hauthors.2, hkinds.2, hsince.2, htill.2, hsearch.2, htags.2⟩⟩
  · rintro ⟨ha, hb⟩
    obtain ⟨ids, hids', hids⟩ := hids_iff.mpr ⟨ha.ids, hb.ids⟩
    obtain ⟨authors, hauthors', hauthors⟩ := hauthors_iff.mpr ⟨ha.authors, hb.authors⟩
    obtain ⟨kinds, hkinds', hkinds⟩ := hkinds_iff.mpr ⟨ha.kinds, hb.kinds⟩
    obtain ⟨tags, htags', htags⟩ := htags_iff.mpr ⟨ha.tags, hb.tags⟩
    have hwider : Wider (conjoin a b ids authors kinds tags) c := by
      refine ⟨hids, hauthors, hkinds, ?_, ?_, ?_, htags⟩
      · rw [conjoin, widerSince_latest, ha.since, hb.since, Bool.and_self]
      · rw [conjoin, widerTill_smallest, ha.till, hb.till, Bool.and_self]
      · exact (bothSearches_absent_or_eq_iff hsearch).mpr ⟨ha.search, hb.search⟩
    -- it is wider than a possible filter, so it is not refused as impossible
    exact ⟨_, intersect_eq_some_iff.mpr ⟨ids, authors, kinds, tags, hids', hauthors', hkinds',
      htags', rfl, isUnsatisfiable_eq_false_iff.mpr (hc.of_wider hwider)⟩, hwider⟩

/-- A conjunction of filters without a limit has none. -/
theorem limit_of_intersect {both : Filter} (ha : a.limit = none) (hb : b.limit = none)
    (h : intersect a b = some both) : both.limit = none := by
  obtain ⟨_, _, _, _, -, -, -, -, rfl, -⟩ := intersect_eq_some_iff.mp h
  rw [conjoin, ha, hb, smallest]

/-- **The conjunction of two filters is their greatest lower bound.** Among filters without a limit,
a possible filter is covered by both exactly when they have a conjunction that covers it, provided
their searches are the same where both are present; without a conjunction, both cover no possible
filter. -/
theorem intersect_isMeet (ha : a.limit = none) (hb : b.limit = none) (hc : c.limit = none)
    (hpossible : c.isUnsatisfiable = false) :
    (SameSearch a.search b.search →
      ((covers a c = true ∧ covers b c = true) ↔
        ∃ both, intersect a b = some both ∧ covers both c = true)) ∧
      (intersect a b = none → ¬(covers a c = true ∧ covers b c = true)) := by
  have hc' : Possible c := isUnsatisfiable_eq_false_iff.mp hpossible
  rw [covers_iff_wider ha hc, covers_iff_wider hb hc]
  constructor
  · intro hsearch
    rw [← exists_intersect_wider hsearch hc']
    refine exists_congr fun both => and_congr_right fun hboth => ?_
    rw [covers_iff_wider (limit_of_intersect ha hb hboth) hc]
  · rintro hnone ⟨hac, hbc⟩
    obtain ⟨both, hboth, -⟩ := (exists_intersect_wider (hac.sameSearch hbc) hc').mpr ⟨hac, hbc⟩
    rw [hnone] at hboth
    cases hboth

/-- Notes on shared topics that contain a word. -/
def notesSaying (word : String) (time : UInt64) (topics : List String) : Filter :=
  { notesSince time topics with search := some word }

/-- Two filters with a topic in common cover a filter on that topic, and so does their conjunction;
two filters without one have no conjunction and cover no filter together. -/
theorem meet_of_notes :
    (notesSince 10 ["a", "b"]).limit = none ∧ (notesSaying "rust" 20 ["b", "c"]).limit = none ∧
      (notesSince 20 ["c"]).limit = none ∧ (notesSaying "rust" 30 ["b"]).limit = none ∧
      (notesSaying "rust" 30 ["b"]).isUnsatisfiable = false ∧
      SameSearch (notesSince 10 ["a", "b"]).search (notesSaying "rust" 20 ["b", "c"]).search ∧
      (∃ both, intersect (notesSince 10 ["a", "b"]) (notesSaying "rust" 20 ["b", "c"]) = some both ∧
        covers both (notesSaying "rust" 30 ["b"]) = true) ∧
      intersect (notesSince 10 ["a", "b"]) (notesSince 20 ["c"]) = none ∧
      ¬(covers (notesSince 10 ["a", "b"]) (notesSaying "rust" 30 ["b"]) = true ∧
        covers (notesSince 20 ["c"]) (notesSaying "rust" 30 ["b"]) = true) := by
  have hpossible : (notesSaying "rust" 30 ["b"]).isUnsatisfiable = false := by decide +kernel
  have hsearch :
      SameSearch (notesSince 10 ["a", "b"]).search (notesSaying "rust" 20 ["b", "c"]).search := by
    rintro s t ⟨⟩
  have hcovers : covers (notesSince 10 ["a", "b"]) (notesSaying "rust" 30 ["b"]) = true ∧
      covers (notesSaying "rust" 20 ["b", "c"]) (notesSaying "rust" 30 ["b"]) = true := by
    decide +kernel
  have hnone : intersect (notesSince 10 ["a", "b"]) (notesSince 20 ["c"]) = none := by
    decide +kernel
  exact ⟨rfl, rfl, rfl, rfl, hpossible, hsearch,
    ((intersect_isMeet rfl rfl rfl hpossible).1 hsearch).mp hcovers, hnone,
    (intersect_isMeet rfl rfl rfl hpossible).2 hnone⟩

end RelayFeeds.Filter
