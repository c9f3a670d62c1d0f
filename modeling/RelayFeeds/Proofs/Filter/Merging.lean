import Mathlib.Data.List.Perm.Subperm
import RelayFeeds.Proofs.Filter.Covering

/-! # Merging two filters — exactly one value set may differ

`merge?` counts in how many value sets two filters differ and joins them when the count is at most
one. `Merges` says the same without counting: both filters are one and the same filter but for the
values of a single constraint, and the merged filter has the values of both there.

* **`merge?_eq_some_iff`** — merging two filters finds exactly what stands for both.
* **`merge?_comm`** — which of them comes first makes no difference.
* **`Merges.covers_left`**, **`Merges.covers_right`** — the merged filter covers both.
* **`Merges.admits_iff`** — it admits exactly what one of the two admits. -/

namespace RelayFeeds.Filter

/-- The third filter stands for the first two, which differ in the values of one constraint at
most. -/
inductive Merges : Filter → Filter → Filter → Prop where
  /-- A filter stands for itself twice. -/
  | same (filter : Filter) : Merges filter filter filter
  /-- The ids of both are allowed. -/
  | ids (filter : Filter) (s t : SortedSet String) (hlimit : filter.limit = none) :
      Merges { filter with ids := some s } { filter with ids := some t }
        { filter with ids := some (s.union t) }
  /-- The authors of both are allowed. -/
  | authors (filter : Filter) (s t : SortedSet String) (hlimit : filter.limit = none) :
      Merges { filter with authors := some s } { filter with authors := some t }
        { filter with authors := some (s.union t) }
  /-- The kinds of both are allowed. -/
  | kinds (filter : Filter) (s t : SortedSet UInt16) (hlimit : filter.limit = none) :
      Merges { filter with kinds := some s } { filter with kinds := some t }
        { filter with kinds := some (s.union t) }
  /-- The values of both are allowed under one tag key. -/
  | tag (filter : Filter) (key : String) (s t : SortedSet String) (hlimit : filter.limit = none) :
      Merges { filter with tags := filter.tags.insert key s }
        { filter with tags := filter.tags.insert key t }
        { filter with tags := filter.tags.insert key (s.union t) }

/-! ### What a merge amounts to -/

section Sets

variable {α : Type} [Ordered α] [DecidableEq α] {a b : Option (SortedSet α)}

/-- Two constraints that can be merged are equal, or both present and counted as one difference. -/
theorem setDifference_cases {n : Nat} (h : setDifference a b = some n) :
    (n = 0 ∧ a = b) ∨ (n = 1 ∧ ∃ s t, a = some s ∧ b = some t) := by
  cases a with
  | none =>
    cases b with
    | none => exact Or.inl ⟨(Option.some.inj h).symm, rfl⟩
    | some t => cases h
  | some s =>
    cases b with
    | none => cases h
    | some t =>
      rw [setDifference] at h
      split at h
      next heq => exact Or.inl ⟨(Option.some.inj h).symm, by rw [heq]⟩
      next => exact Or.inr ⟨(Option.some.inj h).symm, s, t, rfl, rfl⟩

/-- Constraints without a difference are equal. -/
theorem eq_of_setDifference_zero (h : setDifference a b = some 0) : a = b := by
  rcases setDifference_cases h with ⟨-, heq⟩ | ⟨hone, -⟩
  · exact heq
  · cases hone

/-- A constraint does not differ from itself. -/
@[simp] theorem setDifference_self (a : Option (SortedSet α)) : setDifference a a = some 0 := by
  cases a with
  | none => rfl
  | some s => rw [setDifference, if_pos rfl]

/-- Two constraints that are present count as one difference at most. -/
theorem exists_setDifference_some (s t : SortedSet α) :
    ∃ n ≤ 1, setDifference (some s) (some t) = some n := by
  rw [setDifference]
  split
  · exact ⟨0, Nat.zero_le 1, rfl⟩
  · exact ⟨1, Nat.le_refl 1, rfl⟩

omit [DecidableEq α] in
/-- Uniting constraints that are present unites their values. -/
theorem unionSets_some (s t : SortedSet α) :
    unionSets (some s) (some t) = some (s.union t) := rfl

omit [DecidableEq α] in
/-- Uniting a constraint with itself leaves it alone. -/
@[simp] theorem unionSets_self (a : Option (SortedSet α)) : unionSets a a = a := by
  cases a with
  | none => rfl
  | some s => rw [unionSets, SortedSet.union_self]

end Sets

section Tags

variable {a b : SortedMap String (SortedSet String)}

/-- Maps on the same keys agree under a key whose entry is not among those that differ. -/
theorem find?_eq_of_not_differing {key : String} (hkeys : a.keys = b.keys)
    (h : ∀ values, a.find? key = some values →
      (key, values) ∉ a.entries.filter (fun entry => !decide (b.find? entry.1 = some entry.2))) :
    a.find? key = b.find? key := by
  cases ha : a.find? key with
  | none =>
    -- a key that the one map lacks, the other one lacks too
    rw [← SortedMap.not_mem_keys, hkeys, SortedMap.not_mem_keys] at ha
    exact ha.symm
  | some values =>
    have hmem := h values ha
    rw [List.mem_filter, not_and] at hmem
    have hsame := hmem (SortedMap.mem_entries.mpr ha)
    simp only [Bool.not_eq_true', decide_eq_false_iff_not, not_not] at hsame
    exact hsame.symm

/-- Tag constraints on the same keys without a difference are equal. -/
theorem eq_of_tagDifference_zero (hkeys : a.keys = b.keys) (h : tagDifference a b = 0) :
    a = b := by
  apply SortedMap.ext
  intro key
  apply find?_eq_of_not_differing hkeys
  intro values _
  rw [List.length_eq_zero_iff.mp h]
  exact List.not_mem_nil

/-- Tag constraints on the same keys with one difference are one map with two values under a key. -/
theorem eq_insert_of_tagDifference_one (hkeys : a.keys = b.keys) (h : tagDifference a b = 1) :
    ∃ key s t, a.find? key = some s ∧ b = a.insert key t := by
  -- the one entry that differs gives the key and its value in the first map
  obtain ⟨⟨key, s⟩, hfilter⟩ := List.length_eq_one_iff.mp h
  have hmem : (key, s) ∈ a.entries := by
    have hhead : (key, s) ∈ a.entries.filter
        (fun entry => !decide (b.find? entry.1 = some entry.2)) := by
      rw [hfilter]
      exact List.mem_singleton_self _
    exact (List.mem_filter.mp hhead).1
  have hs : a.find? key = some s := SortedMap.mem_entries.mp hmem
  obtain ⟨t, ht⟩ : ∃ t, b.find? key = some t := by
    rw [← SortedMap.mem_keys, ← hkeys, SortedMap.mem_keys]
    exact ⟨s, hs⟩
  refine ⟨key, s, t, hs, ?_⟩
  apply SortedMap.ext
  intro other
  rw [SortedMap.find?_insert]
  split
  next heq => rw [heq, ht]
  next hne =>
    refine (find?_eq_of_not_differing hkeys ?_).symm
    intro values _
    rw [hfilter, List.mem_singleton, Prod.mk.injEq]
    exact fun hpair => hne hpair.1

/-- Tag constraints do not differ from themselves. -/
@[simp] theorem tagDifference_self (tags : SortedMap String (SortedSet String)) :
    tagDifference tags tags = 0 := by
  rw [tagDifference, List.length_eq_zero_iff, List.filter_eq_nil_iff]
  rintro ⟨key, values⟩ hentry
  simp [SortedMap.mem_entries.mp hentry]

/-- Tag constraints that are one map with two values under a key differ there at most. -/
theorem tagDifference_insert_le (tags : SortedMap String (SortedSet String)) (key : String)
    (s t : SortedSet String) : tagDifference (tags.insert key s) (tags.insert key t) ≤ 1 := by
  have hdiffering : (tags.insert key s).entries.filter
      (fun entry => !decide ((tags.insert key t).find? entry.1 = some entry.2)) ⊆ [(key, s)] := by
    rintro ⟨other, values⟩ hmem
    rw [List.mem_filter, SortedMap.mem_entries, SortedMap.find?_insert, SortedMap.find?_insert]
      at hmem
    by_cases heq : other = key
    · rw [if_pos heq] at hmem
      rw [heq, Option.some.inj hmem.1]
      exact List.mem_singleton_self _
    · -- another key has the same value in both maps
      rw [if_neg heq, if_neg heq] at hmem
      simp [hmem.1] at hmem
  exact (List.subperm_of_subset ((SortedMap.nodup_entries _).filter _) hdiffering).length_le

/-- Adding the values of a map with one key changed changes that key only. -/
theorem unionTags_insert {key : String} {s t : SortedSet String} (h : a.find? key = some s) :
    unionTags a (a.insert key t) = a.insert key (s.union t) := by
  apply SortedMap.ext
  intro other
  rw [unionTags, SortedMap.find?_mapValues, SortedMap.find?_insert, SortedMap.find?_insert]
  by_cases heq : other = key
  · subst heq
    simp only [h, if_true, Option.map_some]
  · rw [if_neg heq, if_neg heq]
    cases a.find? other with
    | none => rfl
    | some values => simp only [Option.map_some, SortedSet.union_self]

/-- Adding the values of a map to themselves leaves it alone. -/
@[simp] theorem unionTags_self (tags : SortedMap String (SortedSet String)) :
    unionTags tags tags = tags := by
  apply SortedMap.ext
  intro key
  rw [unionTags, SortedMap.find?_mapValues]
  cases tags.find? key with
  | none => rfl
  | some values => simp

end Tags

variable {a b merged : Filter}

/-- Merging filters without a limit succeeds when the scalars and the tag keys are the same and at
most one value set differs. -/
theorem merge?_eq_some_of_no_limit_iff (hlimit : (a.limit.isSome || b.limit.isSome) = false) :
    merge? a b = some merged ↔
      (a.since = b.since ∧ a.till = b.till ∧ a.search = b.search) ∧ a.tags.keys = b.tags.keys ∧
        ∃ ids authors kinds, setDifference a.ids b.ids = some ids ∧
          setDifference a.authors b.authors = some authors ∧
          setDifference a.kinds b.kinds = some kinds ∧
          ids + authors + kinds + tagDifference a.tags b.tags ≤ 1 ∧
          merged = { a with
            ids := unionSets a.ids b.ids
            authors := unionSets a.authors b.authors
            kinds := unionSets a.kinds b.kinds
            tags := unionTags a.tags b.tags } := by
  rw [merge?, hlimit, if_neg Bool.false_ne_true]
  constructor
  · intro h
    split at h
    next => cases h
    next hscalars =>
      simp only [not_or, not_not] at hscalars
      split at h
      next => cases h
      next hkeys =>
        split at h
        next ids authors kinds hids hauthors hkinds =>
          split at h
          next => cases h
          next hcount =>
            exact ⟨hscalars, not_not.mp hkeys, ids, authors, kinds, hids, hauthors, hkinds,
              Nat.not_lt.mp hcount, (Option.some.inj h).symm⟩
        next => cases h
  · rintro ⟨⟨hsince, htill, hsearch⟩, hkeys, ids, authors, kinds, hids, hauthors, hkinds, hcount,
      rfl⟩
    have hscalars : ¬(a.since ≠ b.since ∨ a.till ≠ b.till ∨ a.search ≠ b.search) := by
      simp only [hsince, htill, hsearch, ne_eq, not_true_eq_false, or_self, not_false_eq_true]
    rw [if_neg hscalars, if_neg (not_not.mpr hkeys), hids, hauthors, hkinds]
    exact if_neg (Nat.not_lt.mpr hcount)

/-- **Everything that a successful merge can be.** -/
theorem merges_of_merge? (h : merge? a b = some merged) : Merges a b merged := by
  cases hlimit : a.limit.isSome || b.limit.isSome with
  | true =>
    rw [merge?, if_pos hlimit] at h
    split at h
    next heq =>
      cases h
      cases heq
      exact Merges.same a
    next => cases h
  | false =>
    obtain ⟨hscalars, hkeys, nids, nauthors, nkinds, hids, hauthors, hkinds, hcount, hmerged⟩ :=
      (merge?_eq_some_of_no_limit_iff hlimit).mp h
    obtain ⟨aids, aauthors, akinds, asince, atill, alimit, asearch, atags⟩ := a
    obtain ⟨bids, bauthors, bkinds, bsince, btill, blimit, bsearch, btags⟩ := b
    simp only [Bool.or_eq_false_iff, Option.isSome_eq_false_iff, Option.isNone_iff_eq_none]
      at hlimit
    obtain ⟨rfl, rfl⟩ := hlimit
    obtain ⟨rfl, rfl, rfl⟩ := hscalars
    dsimp only at hids hauthors hkinds hkeys hcount hmerged
    subst hmerged
    -- one of the four counts may be one, and then the other three are zero
    rcases setDifference_cases hids with ⟨rfl, rfl⟩ | ⟨rfl, s, t, rfl, rfl⟩
    · rcases setDifference_cases hauthors with ⟨rfl, rfl⟩ | ⟨rfl, s, t, rfl, rfl⟩
      · rcases setDifference_cases hkinds with ⟨rfl, rfl⟩ | ⟨rfl, s, t, rfl, rfl⟩
        · rcases Nat.le_one_iff_eq_zero_or_eq_one.mp (by omega : tagDifference atags btags ≤ 1)
            with hzero | hone
          · obtain rfl := eq_of_tagDifference_zero hkeys hzero
            simp only [unionSets_self, unionTags_self]
            exact Merges.same _
          · obtain ⟨key, s, t, hs, rfl⟩ := eq_insert_of_tagDifference_one hkeys hone
            simp only [unionSets_self, unionTags_insert hs]
            -- the first map is itself with the value that it has under the key
            have hmerges := Merges.tag
              ⟨aids, aauthors, akinds, asince, atill, none, asearch, atags⟩ key s t rfl
            dsimp only at hmerges
            rwa [SortedMap.insert_eq_self hs] at hmerges
        · obtain rfl := eq_of_tagDifference_zero hkeys (by omega)
          simp only [unionSets_self, unionTags_self]
          exact Merges.kinds ⟨aids, aauthors, none, asince, atill, none, asearch, atags⟩ s t rfl
      · obtain rfl : nkinds = 0 := by omega
        obtain rfl := eq_of_setDifference_zero hkinds
        obtain rfl := eq_of_tagDifference_zero hkeys (by omega)
        simp only [unionSets_self, unionTags_self]
        exact Merges.authors ⟨aids, none, akinds, asince, atill, none, asearch, atags⟩ s t rfl
    · obtain rfl : nauthors = 0 := by omega
      obtain rfl : nkinds = 0 := by omega
      obtain rfl := eq_of_setDifference_zero hauthors
      obtain rfl := eq_of_setDifference_zero hkinds
      obtain rfl := eq_of_tagDifference_zero hkeys (by omega)
      simp only [unionSets_self, unionTags_self]
      exact Merges.ids ⟨none, aauthors, akinds, asince, atill, none, asearch, atags⟩ s t rfl

/-- Filters without a limit merge when all but their value sets is the same and at most one set
differs. -/
theorem merge?_of_tags_eq {ids authors kinds : Nat}
    (hlimit : (a.limit.isSome || b.limit.isSome) = false)
    (hscalars : a.since = b.since ∧ a.till = b.till ∧ a.search = b.search) (htags : a.tags = b.tags)
    (hids : setDifference a.ids b.ids = some ids)
    (hauthors : setDifference a.authors b.authors = some authors)
    (hkinds : setDifference a.kinds b.kinds = some kinds) (hcount : ids + authors + kinds ≤ 1) :
    merge? a b = some { a with
      ids := unionSets a.ids b.ids
      authors := unionSets a.authors b.authors
      kinds := unionSets a.kinds b.kinds } := by
  refine (merge?_eq_some_of_no_limit_iff hlimit).mpr
    ⟨hscalars, by rw [htags], ids, authors, kinds, hids, hauthors, hkinds, ?_, ?_⟩
  · rwa [htags, tagDifference_self, Nat.add_zero]
  · rw [← htags, unionTags_self]

/-- **Whatever stands for two filters is found by merging them.** -/
theorem merge?_of_merges (h : Merges a b merged) : merge? a b = some merged := by
  cases h with
  | same =>
    cases hlimit : a.limit.isSome || a.limit.isSome with
    | true => rw [merge?, if_pos hlimit, if_pos rfl]
    | false =>
      have hmerged := merge?_of_tags_eq hlimit ⟨rfl, rfl, rfl⟩ rfl (setDifference_self _)
        (setDifference_self _) (setDifference_self _) (by omega)
      simpa only [unionSets_self] using hmerged
  | ids filter s t hlimit =>
    obtain ⟨n, hn, hdifference⟩ := exists_setDifference_some s t
    have hmerged := merge?_of_tags_eq (a := { filter with ids := some s })
      (b := { filter with ids := some t }) (by simp [hlimit]) ⟨rfl, rfl, rfl⟩ rfl hdifference
      (setDifference_self _) (setDifference_self _) (by omega)
    simpa only [unionSets_some, unionSets_self] using hmerged
  | authors filter s t hlimit =>
    obtain ⟨n, hn, hdifference⟩ := exists_setDifference_some s t
    have hmerged := merge?_of_tags_eq (a := { filter with authors := some s })
      (b := { filter with authors := some t }) (by simp [hlimit]) ⟨rfl, rfl, rfl⟩ rfl
      (setDifference_self _) hdifference (setDifference_self _) (by omega)
    simpa only [unionSets_some, unionSets_self] using hmerged
  | kinds filter s t hlimit =>
    obtain ⟨n, hn, hdifference⟩ := exists_setDifference_some s t
    have hmerged := merge?_of_tags_eq (a := { filter with kinds := some s })
      (b := { filter with kinds := some t }) (by simp [hlimit]) ⟨rfl, rfl, rfl⟩ rfl
      (setDifference_self _) (setDifference_self _) hdifference (by omega)
    simpa only [unionSets_some, unionSets_self] using hmerged
  | tag filter key s t hlimit =>
    have hdifference := tagDifference_insert_le filter.tags key s t
    have hs : (filter.tags.insert key s).find? key = some s := by
      rw [SortedMap.find?_insert, if_pos rfl]
    have htags := unionTags_insert (t := t) hs
    rw [SortedMap.insert_insert, SortedMap.insert_insert] at htags
    refine (merge?_eq_some_of_no_limit_iff (by simp [hlimit])).mpr ⟨⟨rfl, rfl, rfl⟩,
      SortedMap.keys_insert _ _ _ _, 0, 0, 0,
      setDifference_self _, setDifference_self _, setDifference_self _, ?_, ?_⟩
    · simpa only [Nat.zero_add] using hdifference
    · simp only [unionSets_self, htags]

/-- **Merging decides whether some filter stands for two.** -/
theorem merge?_eq_some_iff : merge? a b = some merged ↔ Merges a b merged :=
  ⟨merges_of_merge?, merge?_of_merges⟩

/-! ### What a merged filter means -/

/-- Uniting the values of a constraint with others makes it wider. -/
theorem widerSet_union {α : Type} [Ordered α] [DecidableEq α] (s t : SortedSet α) :
    widerSet (some (s.union t)) (some s) = true :=
  SortedSet.isSubset_iff.mpr fun _ ha => SortedSet.mem_union.mpr (Or.inl ha)

/-- More values under one key make tag constraints wider. -/
theorem widerTags_insert {tags : SortedMap String (SortedSet String)} {key : String}
    {wide narrow : SortedSet String} (h : ∀ a ∈ narrow, a ∈ wide) :
    widerTags (tags.insert key wide) (tags.insert key narrow) = true := by
  rw [widerTags_iff]
  intro other values hvalues
  rw [SortedMap.find?_insert] at hvalues ⊢
  by_cases heq : other = key
  · rw [if_pos heq] at hvalues ⊢
    cases hvalues
    exact ⟨narrow, rfl, h⟩
  · rw [if_neg heq] at hvalues ⊢
    exact ⟨values, hvalues, fun _ ha => ha⟩

namespace Merges

/-- Which filter comes first makes no difference to a merge. -/
theorem symm (h : Merges a b merged) : Merges b a merged := by
  cases h with
  | same => exact Merges.same a
  | ids filter s t hlimit =>
    rw [SortedSet.union_comm]
    exact Merges.ids filter t s hlimit
  | authors filter s t hlimit =>
    rw [SortedSet.union_comm]
    exact Merges.authors filter t s hlimit
  | kinds filter s t hlimit =>
    rw [SortedSet.union_comm]
    exact Merges.kinds filter t s hlimit
  | tag filter key s t hlimit =>
    rw [SortedSet.union_comm]
    exact Merges.tag filter key t s hlimit

/-- Merging keeps the limit of the first filter. -/
theorem limit_left (h : Merges a b merged) : merged.limit = a.limit := by
  cases h <;> rfl

/-- Merging keeps the limit of the second filter. -/
theorem limit_right (h : Merges a b merged) : merged.limit = b.limit :=
  h.symm.limit_left

/-- Different filters that merge have no limit. -/
theorem limit_eq_none (h : Merges a b merged) (hne : a ≠ b) : merged.limit = none := by
  cases h with
  | same => exact absurd rfl hne
  | ids _ _ _ hlimit => exact hlimit
  | authors _ _ _ hlimit => exact hlimit
  | kinds _ _ _ hlimit => exact hlimit
  | tag _ _ _ _ hlimit => exact hlimit

/-- **The merged filter covers the first.** -/
theorem covers_left (h : Merges a b merged) : covers merged a = true := by
  cases h with
  | same => exact covers_refl a
  | ids filter s t hlimit =>
    exact covers_iff.mpr (Or.inr ⟨hlimit, hlimit,
      { Wider.refl { filter with ids := some s } with ids := widerSet_union s t }⟩)
  | authors filter s t hlimit =>
    exact covers_iff.mpr (Or.inr ⟨hlimit, hlimit,
      { Wider.refl { filter with authors := some s } with authors := widerSet_union s t }⟩)
  | kinds filter s t hlimit =>
    exact covers_iff.mpr (Or.inr ⟨hlimit, hlimit,
      { Wider.refl { filter with kinds := some s } with kinds := widerSet_union s t }⟩)
  | tag filter key s t hlimit =>
    exact covers_iff.mpr (Or.inr ⟨hlimit, hlimit,
      { Wider.refl { filter with tags := filter.tags.insert key s } with
        tags := widerTags_insert fun _ ha => SortedSet.mem_union.mpr (Or.inl ha) }⟩)

/-- **The merged filter covers the second.** -/
theorem covers_right (h : Merges a b merged) : covers merged b = true :=
  h.symm.covers_left

/-- **The merged filter admits exactly what one of the two admits.** -/
theorem admits_iff {event : Event} {assignment : Assignment event} (h : Merges a b merged) :
    merged.Admits assignment ↔ a.Admits assignment ∨ b.Admits assignment := by
  refine ⟨?_, fun hor => hor.elim (admits_of_covers h.covers_left)
    (admits_of_covers h.covers_right)⟩
  intro hm
  -- a value of the united set is a value of one of its parts
  cases h with
  | same => exact Or.inl hm
  | ids filter s t =>
    refine (SortedSet.mem_union.mp (of_decide_eq_true hm.ids)).imp ?_ ?_
    · exact fun hs => { hm with ids := decide_eq_true hs }
    · exact fun ht => { hm with ids := decide_eq_true ht }
  | authors filter s t =>
    refine (SortedSet.mem_union.mp (of_decide_eq_true hm.authors)).imp ?_ ?_
    · exact fun hs => { hm with authors := decide_eq_true hs }
    · exact fun ht => { hm with authors := decide_eq_true ht }
  | kinds filter s t =>
    refine (SortedSet.mem_union.mp (of_decide_eq_true hm.kinds)).imp ?_ ?_
    · exact fun hs => { hm with kinds := decide_eq_true hs }
    · exact fun ht => { hm with kinds := decide_eq_true ht }
  | tag filter key s t =>
    obtain ⟨⟨value, hvalue, hassigned⟩, hrest⟩ := tagsAdmit_insert.mp hm.tags
    refine (SortedSet.mem_union.mp hvalue).imp ?_ ?_
    · exact fun hs => { hm with tags := tagsAdmit_insert.mpr ⟨⟨value, hs, hassigned⟩, hrest⟩ }
    · exact fun ht => { hm with tags := tagsAdmit_insert.mpr ⟨⟨value, ht, hassigned⟩, hrest⟩ }

end Merges

/-- **Which of two filters comes first makes no difference to merging them.** -/
theorem merge?_comm (a b : Filter) : merge? a b = merge? b a := by
  apply Option.ext
  intro merged
  rw [merge?_eq_some_iff, merge?_eq_some_iff]
  exact ⟨Merges.symm, Merges.symm⟩

end RelayFeeds.Filter
