import RelayFeeds.Filter.Algebra
import RelayFeeds.Proofs.Filter.Assignment

/-! # Covering — when one filter visibly matches all that another matches

A filter without a limit covers another one without a limit when each of its constraints is wider;
a filter with a limit covers itself only. The constraints are compared one by one, so every fact
about covering is the conjunction of the facts about its parts.

* **`covers_refl`**, **`covers_trans`**, **`covers_antisymm`** — covering is a partial order.
* **`limit_eq_of_covers`** — it never relates filters of different limits.
* **`admits_of_covers`** — the wider filter admits whatever the narrower one admits. -/

namespace RelayFeeds.Filter

/-! ### One constraint -/

section Sets

variable {α : Type} [Ordered α] [DecidableEq α]

/-- A set is as wide as another when it is absent or both are present and it has all values. -/
theorem widerSet_iff {wide narrow : Option (SortedSet α)} :
    widerSet wide narrow = true ↔
      ∀ values, wide = some values → ∃ others, narrow = some others ∧ ∀ a ∈ others, a ∈ values := by
  cases wide <;> cases narrow <;> simp [widerSet]

/-- A set is as wide as itself. -/
theorem widerSet_refl (s : Option (SortedSet α)) : widerSet s s = true := by
  rw [widerSet_iff]
  intro values hvalues
  exact ⟨values, hvalues, fun _ ha => ha⟩

/-- Being as wide is transitive. -/
theorem widerSet_trans {a b c : Option (SortedSet α)} (hab : widerSet a b = true)
    (hbc : widerSet b c = true) : widerSet a c = true := by
  rw [widerSet_iff] at *
  intro values hvalues
  obtain ⟨middle, hmiddle, hsub⟩ := hab values hvalues
  obtain ⟨others, hothers, hsub'⟩ := hbc middle hmiddle
  exact ⟨others, hothers, fun a ha => hsub a (hsub' a ha)⟩

/-- Sets as wide as one another are equal. -/
theorem widerSet_antisymm {a b : Option (SortedSet α)} (hab : widerSet a b = true)
    (hba : widerSet b a = true) : a = b := by
  cases a with
  | none =>
    cases b with
    | none => rfl
    | some t => cases hba
  | some s =>
    cases b with
    | none => cases hab
    | some t =>
      have hts : ∀ x, x ∈ t → x ∈ s := SortedSet.isSubset_iff.mp hab
      have hst : ∀ x, x ∈ s → x ∈ t := SortedSet.isSubset_iff.mp hba
      rw [SortedSet.ext fun x => ⟨hst x, hts x⟩]

/-- A wider set allows what a narrower one allows. -/
theorem allows_of_widerSet {wide narrow : Option (SortedSet α)} {a : α}
    (h : widerSet wide narrow = true) (ha : allows narrow a = true) : allows wide a = true := by
  cases wide with
  | none => rfl
  | some values =>
    obtain ⟨others, rfl, hsub⟩ := widerSet_iff.mp h values rfl
    exact decide_eq_true (hsub a (of_decide_eq_true ha))

end Sets

/-- A bound on the earliest time is as wide as itself. -/
theorem widerSince_refl (bound : Option UInt64) : widerSince bound bound = true := by
  cases bound <;> simp [widerSince, Nat.ble_eq]

/-- Being as wide is transitive for earliest times. -/
theorem widerSince_trans {a b c : Option UInt64} (hab : widerSince a b = true)
    (hbc : widerSince b c = true) : widerSince a c = true := by
  cases a <;> cases b <;> cases c <;> simp only [widerSince, Nat.ble_eq, Bool.false_eq_true] at *
  omega

/-- Earliest times as wide as one another are equal. -/
theorem widerSince_antisymm {a b : Option UInt64} (hab : widerSince a b = true)
    (hba : widerSince b a = true) : a = b := by
  cases a <;> cases b <;> simp only [widerSince, Nat.ble_eq, Bool.false_eq_true] at hab hba
  · rfl
  · rw [UInt64.toNat_inj.mp (Nat.le_antisymm hab hba)]

/-- A wider bound on the earliest time admits what a narrower one admits. -/
theorem notBefore_of_widerSince {wide narrow : Option UInt64} {time : UInt64}
    (h : widerSince wide narrow = true) (htime : notBefore narrow time = true) :
    notBefore wide time = true := by
  cases wide <;> cases narrow <;>
    simp only [widerSince, notBefore, Nat.ble_eq, Bool.false_eq_true] at *
  omega

/-- A bound on the latest time is as wide as itself. -/
theorem widerTill_refl (bound : Option UInt64) : widerTill bound bound = true := by
  cases bound <;> simp [widerTill, Nat.ble_eq]

/-- Being as wide is transitive for latest times. -/
theorem widerTill_trans {a b c : Option UInt64} (hab : widerTill a b = true)
    (hbc : widerTill b c = true) : widerTill a c = true := by
  cases a <;> cases b <;> cases c <;> simp only [widerTill, Nat.ble_eq, Bool.false_eq_true] at *
  omega

/-- Latest times as wide as one another are equal. -/
theorem widerTill_antisymm {a b : Option UInt64} (hab : widerTill a b = true)
    (hba : widerTill b a = true) : a = b := by
  cases a <;> cases b <;> simp only [widerTill, Nat.ble_eq, Bool.false_eq_true] at hab hba
  · rfl
  · rw [UInt64.toNat_inj.mp (Nat.le_antisymm hba hab)]

/-- A wider bound on the latest time admits what a narrower one admits. -/
theorem notAfter_of_widerTill {wide narrow : Option UInt64} {time : UInt64}
    (h : widerTill wide narrow = true) (htime : notAfter narrow time = true) :
    notAfter wide time = true := by
  cases wide <;> cases narrow <;>
    simp only [widerTill, notAfter, Nat.ble_eq, Bool.false_eq_true] at *
  omega

section Tags

variable {a b c : SortedMap String (SortedSet String)}

/-- Tag constraints are as wide as others when every key is constrained there too, by no more
values. -/
theorem widerTags_iff {wide narrow : SortedMap String (SortedSet String)} :
    widerTags wide narrow = true ↔
      ∀ key values, wide.find? key = some values →
        ∃ others, narrow.find? key = some others ∧ ∀ a ∈ others, a ∈ values := by
  simp only [widerTags, List.all_eq_true, Prod.forall, SortedMap.mem_entries]
  refine forall_congr' fun key => forall_congr' fun values => imp_congr_right fun _ => ?_
  cases narrow.find? key <;> simp

/-- **Tag constraints are compared key by key**, as sets that may be absent. -/
theorem widerTags_iff_find? {wide narrow : SortedMap String (SortedSet String)} :
    widerTags wide narrow = true ↔
      ∀ key, widerSet (wide.find? key) (narrow.find? key) = true := by
  simp only [widerTags_iff, widerSet_iff]

/-- Tag constraints are as wide as themselves. -/
theorem widerTags_refl (tags : SortedMap String (SortedSet String)) :
    widerTags tags tags = true :=
  widerTags_iff_find?.mpr fun _ => widerSet_refl _

/-- Being as wide is transitive for tag constraints. -/
theorem widerTags_trans (hab : widerTags a b = true) (hbc : widerTags b c = true) :
    widerTags a c = true := by
  rw [widerTags_iff_find?] at *
  intro key
  exact widerSet_trans (hab key) (hbc key)

/-- Tag constraints as wide as one another are equal. -/
theorem widerTags_antisymm (hab : widerTags a b = true) (hba : widerTags b a = true) : a = b := by
  rw [widerTags_iff_find?] at hab hba
  apply SortedMap.ext
  intro key
  exact widerSet_antisymm (hab key) (hba key)

/-- Wider tag constraints admit what narrower ones admit. -/
theorem tagsAdmit_of_widerTags {event : Event} {assignment : Assignment event}
    (h : widerTags a b = true) (hb : TagsAdmit b assignment) : TagsAdmit a assignment := by
  intro key values hvalues
  obtain ⟨others, hothers, hsub⟩ := widerTags_iff.mp h key values hvalues
  obtain ⟨value, hvalue, hassigned⟩ := hb key others hothers
  exact ⟨value, hsub value hvalue, hassigned⟩

end Tags

/-! ### Whole filters -/

/-- Every constraint of the first filter, limits aside, is as wide as that of the second. -/
structure Wider (wide narrow : Filter) : Prop where
  /-- The ids are. -/
  ids : widerSet wide.ids narrow.ids = true
  /-- The authors are. -/
  authors : widerSet wide.authors narrow.authors = true
  /-- The kinds are. -/
  kinds : widerSet wide.kinds narrow.kinds = true
  /-- The earliest time is. -/
  since : widerSince wide.since narrow.since = true
  /-- The latest time is. -/
  till : widerTill wide.till narrow.till = true
  /-- The search is absent or the same. -/
  search : wide.search = none ∨ wide.search = narrow.search
  /-- The tag constraints are. -/
  tags : widerTags wide.tags narrow.tags = true

namespace Wider

variable {a b c : Filter}

/-- Every filter is as wide as itself. -/
theorem refl (filter : Filter) : Wider filter filter :=
  ⟨widerSet_refl _, widerSet_refl _, widerSet_refl _, widerSince_refl _, widerTill_refl _,
    Or.inr rfl, widerTags_refl _⟩

/-- Being as wide is transitive. -/
theorem trans (hab : Wider a b) (hbc : Wider b c) : Wider a c where
  ids := widerSet_trans hab.ids hbc.ids
  authors := widerSet_trans hab.authors hbc.authors
  kinds := widerSet_trans hab.kinds hbc.kinds
  since := widerSince_trans hab.since hbc.since
  till := widerTill_trans hab.till hbc.till
  search := by
    rcases hab.search with h | h
    · exact Or.inl h
    · rw [h]
      exact hbc.search
  tags := widerTags_trans hab.tags hbc.tags

/-- Filters of one limit that are as wide as one another are equal. -/
theorem antisymm (hlimit : a.limit = b.limit) (hab : Wider a b) (hba : Wider b a) : a = b := by
  have hids : a.ids = b.ids := widerSet_antisymm hab.ids hba.ids
  have hauthors : a.authors = b.authors := widerSet_antisymm hab.authors hba.authors
  have hkinds : a.kinds = b.kinds := widerSet_antisymm hab.kinds hba.kinds
  have hsince : a.since = b.since := widerSince_antisymm hab.since hba.since
  have htill : a.till = b.till := widerTill_antisymm hab.till hba.till
  have htags : a.tags = b.tags := widerTags_antisymm hab.tags hba.tags
  -- a search may be dropped on either side, but not on both
  have hsearch : a.search = b.search := by
    rcases hab.search with ha | hsame
    · rcases hba.search with hb | hsame
      · rw [ha, hb]
      · exact hsame.symm
    · exact hsame
  cases a
  cases b
  simp only [Filter.mk.injEq]
  exact ⟨hids, hauthors, hkinds, hsince, htill, hlimit, hsearch, htags⟩

/-- A wider filter admits what a narrower one admits. -/
theorem admits {event : Event} {assignment : Assignment event} (h : Wider a b)
    (hb : b.Admits assignment) : a.Admits assignment where
  ids := allows_of_widerSet h.ids hb.ids
  authors := allows_of_widerSet h.authors hb.authors
  kinds := allows_of_widerSet h.kinds hb.kinds
  since := notBefore_of_widerSince h.since hb.since
  till := notAfter_of_widerTill h.till hb.till
  search := by
    rcases h.search with hnone | hsame
    · rw [hnone]
      exact finds_none event.content
    · rw [hsame]
      exact hb.search
  tags := tagsAdmit_of_widerTags h.tags hb.tags

end Wider

/-- Covering is equality, or being wider where neither filter has a limit. -/
theorem covers_iff {wide narrow : Filter} :
    covers wide narrow = true ↔
      wide = narrow ∨ (wide.limit = none ∧ narrow.limit = none ∧ Wider wide narrow) := by
  by_cases hlimit : (wide.limit.isSome || narrow.limit.isSome) = true
  · rw [covers, if_pos hlimit, decide_eq_true_iff]
    constructor
    · exact Or.inl
    · rintro (heq | ⟨hwide, hnarrow, -⟩)
      · exact heq
      · rw [hwide, hnarrow] at hlimit
        cases hlimit
  · have hnone : wide.limit = none ∧ narrow.limit = none := by
      simpa using hlimit
    rw [covers, if_neg hlimit]
    simp only [Bool.and_eq_true, Bool.or_eq_true, Option.isNone_iff_eq_none, decide_eq_true_iff]
    constructor
    · rintro ⟨⟨⟨⟨⟨⟨hids, hauthors⟩, hkinds⟩, hsince⟩, htill⟩, hsearch⟩, htags⟩
      exact Or.inr ⟨hnone.1, hnone.2, hids, hauthors, hkinds, hsince, htill, hsearch, htags⟩
    · intro h
      have hwider : Wider wide narrow := by
        rcases h with rfl | ⟨-, -, hwider⟩
        · exact Wider.refl wide
        · exact hwider
      exact ⟨⟨⟨⟨⟨⟨hwider.ids, hwider.authors⟩, hwider.kinds⟩, hwider.since⟩, hwider.till⟩,
        hwider.search⟩, hwider.tags⟩

variable {a b c : Filter}

/-- Covering among filters without a limit is being wider. -/
theorem covers_iff_wider (ha : a.limit = none) (hb : b.limit = none) :
    covers a b = true ↔ Wider a b := by
  rw [covers_iff]
  constructor
  · rintro (rfl | ⟨-, -, hwider⟩)
    · exact Wider.refl a
    · exact hwider
  · exact fun hwider => Or.inr ⟨ha, hb, hwider⟩

/-- **Every filter covers itself.** -/
theorem covers_refl (filter : Filter) : covers filter filter = true :=
  covers_iff.mpr (Or.inl rfl)

/-- **Covering is transitive.** -/
theorem covers_trans (hab : covers a b = true) (hbc : covers b c = true) : covers a c = true := by
  rcases covers_iff.mp hab with rfl | ⟨ha, hb, hwider⟩
  · exact hbc
  · rcases covers_iff.mp hbc with rfl | ⟨-, hc, hwider'⟩
    · exact hab
    · exact covers_iff.mpr (Or.inr ⟨ha, hc, hwider.trans hwider'⟩)

/-- **Filters that cover one another are equal.** -/
theorem covers_antisymm (hab : covers a b = true) (hba : covers b a = true) : a = b := by
  rcases covers_iff.mp hab with heq | ⟨ha, hb, hwider⟩
  · exact heq
  · rcases covers_iff.mp hba with heq | ⟨-, -, hwider'⟩
    · exact heq.symm
    · exact Wider.antisymm (ha.trans hb.symm) hwider hwider'

/-- **Filters of different limits do not cover one another.** -/
theorem limit_eq_of_covers (h : covers a b = true) : a.limit = b.limit := by
  rcases covers_iff.mp h with rfl | ⟨ha, hb, -⟩
  · rfl
  · rw [ha, hb]

/-- A filter with a limit is covered by itself only. -/
theorem eq_of_covers_of_limit (h : covers a b = true) (hlimit : b.limit ≠ none) : a = b := by
  rcases covers_iff.mp h with heq | ⟨-, hb, -⟩
  · exact heq
  · exact absurd hb hlimit

/-- **A filter admits what a filter that it covers admits.** -/
theorem admits_of_covers {event : Event} {assignment : Assignment event}
    (h : covers a b = true) (hb : b.Admits assignment) : a.Admits assignment := by
  rcases covers_iff.mp h with rfl | ⟨-, -, hwider⟩
  · exact hb
  · exact hwider.admits hb

/-- **Covering is a partial order that matching respects**: every filter covers itself, covering is
transitive, filters that cover one another are equal, and a filter matches every event that a filter
it covers matches. -/
theorem covers_partial_order_sound :
    (∀ a : Filter, covers a a = true) ∧
      (∀ a b c : Filter, covers a b = true → covers b c = true → covers a c = true) ∧
      (∀ a b : Filter, covers a b = true → covers b a = true → a = b) ∧
      ∀ (a b : Filter) (event : Event),
        covers a b = true → b.isMatch event = true → a.isMatch event = true := by
  refine ⟨covers_refl, fun a b c => covers_trans, fun a b => covers_antisymm, ?_⟩
  intro a b event hcovers hmatch
  obtain ⟨assignment, hadmits⟩ := isMatch_iff_exists_admits.mp hmatch
  exact isMatch_iff_exists_admits.mpr ⟨assignment, admits_of_covers hcovers hadmits⟩

/-- Notes on some topics from a time on. -/
def notesSince (time : UInt64) (topics : List String) : Filter :=
  withTag { kinds := some (.singleton 1), since := some time } "t" topics

/-- A note on some topics. -/
def noteOn (topics : List String) : Event where
  id := HexKey.zero
  author := HexKey.zero
  createdAt := 30
  kind := 1
  tags := topics.map (fun topic => ⟨"t", [topic]⟩)
  content := "rust and async"

/-- Covering by an earlier start and by more topics add up; the order in which topics were given makes
no difference, and a note on one of the topics passes on to the wider filter. -/
theorem covers_notes_since :
    covers (notesSince 10 ["a", "b"]) (notesSince 20 ["b", "a"]) = true ∧
      covers (notesSince 20 ["b", "a"]) (notesSince 20 ["a"]) = true ∧
      covers (notesSince 10 ["a", "b"]) (notesSince 20 ["a"]) = true ∧
      covers (notesSince 10 ["a", "b"]) (notesSince 10 ["b", "a"]) = true ∧
      covers (notesSince 10 ["b", "a"]) (notesSince 10 ["a", "b"]) = true ∧
      notesSince 10 ["a", "b"] = notesSince 10 ["b", "a"] ∧
      (notesSince 20 ["a"]).isMatch (noteOn ["c", "a"]) = true ∧
      (notesSince 10 ["a", "b"]).isMatch (noteOn ["c", "a"]) = true := by
  obtain ⟨-, htrans, hantisymm, hsound⟩ := covers_partial_order_sound
  have hstart : covers (notesSince 10 ["a", "b"]) (notesSince 20 ["b", "a"]) = true := by
    decide +kernel
  have htopics : covers (notesSince 20 ["b", "a"]) (notesSince 20 ["a"]) = true := by
    decide +kernel
  have hboth := htrans _ _ _ hstart htopics
  have hto : covers (notesSince 10 ["a", "b"]) (notesSince 10 ["b", "a"]) = true := by
    decide +kernel
  have hfrom : covers (notesSince 10 ["b", "a"]) (notesSince 10 ["a", "b"]) = true := by
    decide +kernel
  have hmatch : (notesSince 20 ["a"]).isMatch (noteOn ["c", "a"]) = true := by decide +kernel
  exact ⟨hstart, htopics, hboth, hto, hfrom, hantisymm _ _ hto hfrom, hmatch,
    hsound _ _ _ hboth hmatch⟩

end RelayFeeds.Filter
