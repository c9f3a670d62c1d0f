import RelayFeeds.Proofs.Filter.Satisfiability

/-! # Conjunctions of filters

The conjunction of two filters is taken constraint by constraint and refused when some constraint is
left impossible. At an assignment nothing is lost and nothing is added:

* **`Conjunctive`** — the properties of single constraints that conjoining respects.
* **`exists_intersect_admits`** — the conjunction of two filters admits what both admit.
* **`exists_mem_intersectAll_admits`** — the intersection of lists admits what every list admits.
* **`isUnsatisfiable_of_mem_intersectAll`** — that of two lists or more has possible filters only.
* **`exists_admits_both_iff`** — two filters admit a common assignment when the event matches both
  and every tag key that both constrain has a carried value that both allow. -/

namespace RelayFeeds

namespace Filter

/-! ### Conjunctions of single constraints -/

/-- Both searches are found in a text when each is. -/
theorem found_bothSearches (a b : Option String) (content : String) :
    found (bothSearches a b) content = (found a content && found b content) := by
  cases a with
  | none => rw [bothSearches, found, Bool.true_and]
  | some s =>
    cases b with
    | none => exact (Bool.and_true _).symm
    | some t =>
      have hspace : Text.isBlank ' ' = true := by decide
      rw [bothSearches]
      split
      next heq => rw [heq, Bool.and_self]
      next =>
        simp only [found, String.toList_append]
        rw [List.append_assoc, show " ".toList = [' '] from rfl, List.singleton_append,
          Text.words_append_blank hspace, List.all_append]

/-- Both searches are met by a text when each is. -/
theorem finds_bothSearches (a b : Option String) (content : String) :
    Finds (bothSearches a b) content ↔ Finds a content ∧ Finds b content := by
  rw [← found_iff, found_bothSearches, Bool.and_eq_true, found_iff, found_iff]

/-- A time is not before the later of two bounds when it is before neither. -/
theorem notBefore_latest (a b : Option UInt64) (time : UInt64) :
    notBefore (latest a b) time = (notBefore a time && notBefore b time) := by
  cases a with
  | none => rw [latest, notBefore, Bool.true_and]
  | some m =>
    cases b with
    | none => exact (Bool.and_true _).symm
    | some n =>
      rw [Bool.eq_iff_iff]
      simp only [latest, notBefore, Bool.and_eq_true, Nat.ble_eq, Nat.blt_eq]
      split <;> omega

/-- A time is not after the smaller of two bounds when it is after neither. -/
theorem notAfter_smallest (a b : Option UInt64) (time : UInt64) :
    notAfter (smallest a b) time = (notAfter a time && notAfter b time) := by
  cases a with
  | none => rw [smallest, notAfter, Bool.true_and]
  | some m =>
    cases b with
    | none => exact (Bool.and_true _).symm
    | some n =>
      rw [Bool.eq_iff_iff]
      simp only [smallest, notAfter, Bool.and_eq_true, Nat.ble_eq, Nat.blt_eq]
      split <;> omega

/-! ### Properties that conjoining respects -/

/-- A property of constraints on values that conjoining them respects: an absent constraint has it,
shared values have it when both sets have it, and no empty set has it. -/
structure Conjunctive {α : Type} [Ordered α] [DecidableEq α]
    (holds : Option (SortedSet α) → Prop) : Prop where
  /-- An absent constraint has it. -/
  absent : holds none
  /-- Shared values have it when both sets have it. -/
  shared : ∀ s t, holds (some (s.inter t)) ↔ holds (some s) ∧ holds (some t)
  /-- No empty set has it. -/
  occupied : ∀ s : SortedSet α, s.isEmpty = true → ¬holds (some s)

/-- **Conjoined sets have a property that conjoining respects when both sets have it.** -/
theorem Conjunctive.exists_intersectSets {α : Type} [Ordered α] [DecidableEq α]
    {holds : Option (SortedSet α) → Prop} (h : Conjunctive holds) {a b : Option (SortedSet α)} :
    (∃ shared, intersectSets a b = some shared ∧ holds shared) ↔ holds a ∧ holds b := by
  cases a with
  | none => simp [intersectSets, h.absent]
  | some s =>
    cases b with
    | none => simp [intersectSets, h.absent]
    | some t =>
      rw [← h.shared, intersectSets]
      split
      next hempty => simp [h.occupied _ hempty]
      next => simp

section Tags

variable {holds : String → Option (SortedSet String) → Prop}

/-- Narrowing the set under one key adds what the narrowing adds. -/
theorem forall_find?_insert {tags : SortedMap String (SortedSet String)} {key : String}
    {values narrowed : SortedSet String}
    (h : holds key (some narrowed) ↔ holds key (tags.find? key) ∧ holds key (some values)) :
    (∀ other, holds other ((tags.insert key narrowed).find? other)) ↔
      (∀ other, holds other (tags.find? other)) ∧ holds key (some values) := by
  simp only [SortedMap.find?_insert]
  constructor
  · intro hall
    have hkey := hall key
    rw [if_pos rfl, h] at hkey
    refine ⟨?_, hkey.2⟩
    intro other
    by_cases heq : other = key
    · rw [heq]
      exact hkey.1
    · have hother := hall other
      rwa [if_neg heq] at hother
  · rintro ⟨hall, hvalues⟩ other
    by_cases heq : other = key
    · rw [if_pos heq, heq, h]
      exact ⟨hall key, hvalues⟩
    · rw [if_neg heq]
      exact hall other

/-- Narrowed tag constraints have a property that conjoining respects, key by key, when the
constraints and the further ones have it. -/
theorem exists_intersectTags_entries (h : ∀ key, Conjunctive (holds key))
    {tags : SortedMap String (SortedSet String)} {entries : List (String × SortedSet String)} :
    (∃ shared, intersectTags tags entries = some shared ∧
        ∀ key, holds key (shared.find? key)) ↔
      (∀ key, holds key (tags.find? key)) ∧ ∀ entry ∈ entries, holds entry.1 (some entry.2) := by
  -- induction on the further constraints, each of which is taken into the narrowed ones
  induction entries generalizing tags with
  | nil => simp [intersectTags]
  | cons entry rest ih =>
    obtain ⟨key, values⟩ := entry
    rw [List.forall_mem_cons, ← and_assoc, intersectTags]
    cases hfind : tags.find? key with
    | none =>
      have hnew : holds key (some values) ↔
          holds key (tags.find? key) ∧ holds key (some values) := by
        rw [hfind, and_iff_right (h key).absent]
      rw [← forall_find?_insert hnew]
      exact ih
    | some others =>
      have hshared : holds key (some (others.inter values)) ↔
          holds key (tags.find? key) ∧ holds key (some values) := by
        rw [hfind, (h key).shared]
      rw [← forall_find?_insert hshared]
      dsimp only
      split
      next hempty =>
        -- nothing is left under the key, and no empty set has the property
        have hnot : ¬∀ other,
            holds other ((tags.insert key (others.inter values)).find? other) := by
          intro hall
          have hkey := hall key
          rw [SortedMap.find?_insert, if_pos rfl] at hkey
          exact (h key).occupied _ hempty hkey
        simp [hnot]
      next => exact ih

/-- **Conjoined tag constraints have a property that conjoining respects, key by key, when both
have it.** -/
theorem exists_intersectTags (h : ∀ key, Conjunctive (holds key))
    {as bs : SortedMap String (SortedSet String)} :
    (∃ shared, intersectTags as bs.entries = some shared ∧
        ∀ key, holds key (shared.find? key)) ↔
      (∀ key, holds key (as.find? key)) ∧ ∀ key, holds key (bs.find? key) := by
  rw [exists_intersectTags_entries h, and_congr_right_iff]
  intro _
  simp only [Prod.forall, SortedMap.mem_entries]
  refine forall_congr' fun key => ?_
  cases bs.find? key with
  | none => simp [(h key).absent]
  | some values => simp

end Tags

/-- Allowing a value is respected by conjoining. -/
theorem conjunctive_allows {α : Type} [Ordered α] [DecidableEq α] (x : α) :
    Conjunctive fun allowed => allows allowed x = true where
  absent := rfl
  shared s t := by simp only [allows_some, SortedSet.mem_inter]
  occupied s hempty := by
    rw [allows_some]
    exact SortedSet.isEmpty_iff.mp hempty x

variable {event : Event} {assignment : Assignment event}

/-- Admitting the value assigned to a tag key is respected by conjoining. -/
theorem conjunctive_admits (assignment : Assignment event) (key : String) :
    Conjunctive fun wanted => ∀ values, wanted = some values →
      ∃ value ∈ values, assignment.value? key = some value where
  absent := by
    intro values hvalues
    cases hvalues
  shared s t := by
    -- the key has one value at the assignment, which both sets then allow
    simp only [Option.some.injEq, forall_eq', SortedSet.mem_inter]
    constructor
    · rintro ⟨value, ⟨hs, ht⟩, hassigned⟩
      exact ⟨⟨value, hs, hassigned⟩, value, ht, hassigned⟩
    · rintro ⟨⟨value, hs, hassigned⟩, other, ht, hother⟩
      rw [hassigned, Option.some.injEq] at hother
      rw [← hother] at ht
      exact ⟨value, ⟨hs, ht⟩, hassigned⟩
  occupied s hempty h := by
    obtain ⟨value, hvalue, -⟩ := h s rfl
    exact SortedSet.isEmpty_iff.mp hempty value hvalue

/-- Conjoined tag constraints admit what both admit. -/
theorem exists_intersectTags_admits {as bs : SortedMap String (SortedSet String)} :
    (∃ shared, intersectTags as bs.entries = some shared ∧ TagsAdmit shared assignment) ↔
      TagsAdmit as assignment ∧ TagsAdmit bs assignment :=
  exists_intersectTags (conjunctive_admits assignment)

/-! ### Conjunctions of filters -/

/-- The conjunction of two filters with the narrowed sets and tag constraints given. -/
def conjoin (a b : Filter) (ids authors : Option (SortedSet String))
    (kinds : Option (SortedSet UInt16)) (tags : SortedMap String (SortedSet String)) : Filter where
  ids
  authors
  kinds
  tags
  since := latest a.since b.since
  till := smallest a.till b.till
  limit := smallest a.limit b.limit
  search := bothSearches a.search b.search

/-- What a conjunction is made of: each constraint narrowed, and none of them impossible. -/
theorem intersect_eq_some_iff {a b both : Filter} :
    intersect a b = some both ↔
      ∃ ids authors kinds tags, intersectSets a.ids b.ids = some ids ∧
        intersectSets a.authors b.authors = some authors ∧
        intersectSets a.kinds b.kinds = some kinds ∧
        intersectTags a.tags b.tags.entries = some tags ∧
        both = conjoin a b ids authors kinds tags ∧ both.isUnsatisfiable = false := by
  rw [intersect]
  constructor
  · intro h
    split at h
    next tags ids authors kinds htags hids hauthors hkinds =>
      dsimp only at h
      split at h
      next => cases h
      next hsat =>
        cases h
        exact ⟨ids, authors, kinds, tags, hids, hauthors, hkinds, htags, rfl,
          Bool.eq_false_iff.mpr hsat⟩
    next => cases h
  · rintro ⟨ids, authors, kinds, tags, hids, hauthors, hkinds, htags, rfl, hsat⟩
    rw [hids, hauthors, hkinds, htags]
    exact if_neg (Bool.eq_false_iff.mp hsat)

/-- **The conjunction of two filters admits what both admit.** -/
theorem exists_intersect_admits {a b : Filter} :
    (∃ both, intersect a b = some both ∧ both.Admits assignment) ↔
      a.Admits assignment ∧ b.Admits assignment := by
  constructor
  · rintro ⟨both, hboth, hadmits⟩
    obtain ⟨ids, authors, kinds, tags, hids, hauthors, hkinds, htags, rfl, -⟩ :=
      intersect_eq_some_iff.mp hboth
    -- each constraint of the conjunction is read back as the two that it comes from
    have hids' := (conjunctive_allows _).exists_intersectSets.mp ⟨ids, hids, hadmits.ids⟩
    have hauthors' :=
      (conjunctive_allows _).exists_intersectSets.mp ⟨authors, hauthors, hadmits.authors⟩
    have hkinds' := (conjunctive_allows _).exists_intersectSets.mp ⟨kinds, hkinds, hadmits.kinds⟩
    have htags' := exists_intersectTags_admits.mp ⟨tags, htags, hadmits.tags⟩
    have hsince := Bool.and_eq_true_iff.mp ((notBefore_latest ..).symm.trans hadmits.since)
    have htill := Bool.and_eq_true_iff.mp ((notAfter_smallest ..).symm.trans hadmits.till)
    have hsearch := (finds_bothSearches ..).mp hadmits.search
    exact ⟨⟨⟨hids'.1, hauthors'.1, hkinds'.1, hsince.1, htill.1, hsearch.1⟩, htags'.1⟩,
      ⟨hids'.2, hauthors'.2, hkinds'.2, hsince.2, htill.2, hsearch.2⟩, htags'.2⟩
  · rintro ⟨ha, hb⟩
    obtain ⟨ids, hids, hids'⟩ := (conjunctive_allows _).exists_intersectSets.mpr ⟨ha.ids, hb.ids⟩
    obtain ⟨authors, hauthors, hauthors'⟩ :=
      (conjunctive_allows _).exists_intersectSets.mpr ⟨ha.authors, hb.authors⟩
    obtain ⟨kinds, hkinds, hkinds'⟩ :=
      (conjunctive_allows _).exists_intersectSets.mpr ⟨ha.kinds, hb.kinds⟩
    obtain ⟨tags, htags, htags'⟩ := exists_intersectTags_admits.mpr ⟨ha.tags, hb.tags⟩
    have hadmits : (conjoin a b ids authors kinds tags).Admits assignment := by
      refine ⟨⟨hids', hauthors', hkinds', ?_, ?_, ?_⟩, htags'⟩
      · rw [conjoin, notBefore_latest, ha.since, hb.since, Bool.and_self]
      · rw [conjoin, notAfter_smallest, ha.till, hb.till, Bool.and_self]
      · exact (finds_bothSearches ..).mpr ⟨ha.search, hb.search⟩
    -- it admits an assignment, so it is not refused as impossible
    exact ⟨_, intersect_eq_some_iff.mpr ⟨ids, authors, kinds, tags, hids, hauthors, hkinds, htags,
      rfl, isUnsatisfiable_eq_false_iff.mpr (Possible.of_admits hadmits)⟩, hadmits⟩

/-! ### Intersections of lists -/

/-- The conjunctions of two lists admit what both lists admit. -/
theorem exists_mem_conjunctions_admits {as bs : List Filter} :
    (∃ filter ∈ conjunctions as bs, filter.Admits assignment) ↔
      (∃ a ∈ as, a.Admits assignment) ∧ ∃ b ∈ bs, b.Admits assignment := by
  simp only [conjunctions, List.mem_flatMap, List.mem_filterMap]
  constructor
  · rintro ⟨both, ⟨a, ha, b, hb, hboth⟩, hadmits⟩
    obtain ⟨ha', hb'⟩ := exists_intersect_admits.mp ⟨both, hboth, hadmits⟩
    exact ⟨⟨a, ha, ha'⟩, b, hb, hb'⟩
  · rintro ⟨⟨a, ha, ha'⟩, b, hb, hb'⟩
    obtain ⟨both, hboth, hadmits⟩ := exists_intersect_admits.mpr ⟨ha', hb'⟩
    exact ⟨both, ⟨a, ha, b, hb, hboth⟩, hadmits⟩

/-- Conjoining lists one after another admits what all of them admit. -/
theorem exists_mem_foldl_conjunctions_admits {first : List Filter} {rest : List (List Filter)} :
    (∃ filter ∈ rest.foldl conjunctions first, filter.Admits assignment) ↔
      ∀ group ∈ first :: rest, ∃ filter ∈ group, filter.Admits assignment := by
  induction rest generalizing first with
  | nil => simp
  | cons group rest ih =>
    rw [List.foldl_cons, ih, List.forall_mem_cons, exists_mem_conjunctions_admits,
      List.forall_mem_cons, List.forall_mem_cons, and_assoc]

/-- **The intersection of lists admits what every list admits**, if there are lists at all. -/
theorem exists_mem_intersectAll_admits {groups : List (List Filter)} :
    (∃ filter ∈ intersectAll groups, filter.Admits assignment) ↔
      groups ≠ [] ∧ ∀ group ∈ groups, ∃ filter ∈ group, filter.Admits assignment := by
  cases groups with
  | nil => simp [intersectAll]
  | cons first rest =>
    rw [intersectAll, exists_mem_union_admits, exists_mem_foldl_conjunctions_admits]
    simp

/-- The intersection of two lists admits what both admit. -/
theorem exists_mem_intersectAll_pair_admits {as bs : List Filter} :
    (∃ filter ∈ intersectAll [as, bs], filter.Admits assignment) ↔
      (∃ a ∈ as, a.Admits assignment) ∧ ∃ b ∈ bs, b.Admits assignment := by
  simp [exists_mem_intersectAll_admits]

/-! ### Conjunctions are possible -/

/-- A conjunction is possible. -/
theorem isUnsatisfiable_of_mem_conjunctions {as bs : List Filter} {filter : Filter}
    (h : filter ∈ conjunctions as bs) : filter.isUnsatisfiable = false := by
  simp only [conjunctions, List.mem_flatMap, List.mem_filterMap] at h
  obtain ⟨a, -, b, -, hboth⟩ := h
  obtain ⟨-, -, -, -, -, -, -, -, -, hpossible⟩ := intersect_eq_some_iff.mp hboth
  exact hpossible

/-- Conjoining further lists keeps filters possible. -/
theorem isUnsatisfiable_of_mem_foldl_conjunctions {rest : List (List Filter)} :
    ∀ first : List Filter, (∀ filter ∈ first, filter.isUnsatisfiable = false) →
      ∀ filter ∈ rest.foldl conjunctions first, filter.isUnsatisfiable = false := by
  induction rest with
  | nil => exact fun _ h => h
  | cons group rest ih =>
    intro first _
    exact ih _ fun _ => isUnsatisfiable_of_mem_conjunctions

/-- **The intersection of two lists or more has possible filters only.** -/
theorem isUnsatisfiable_of_mem_intersectAll {groups : List (List Filter)}
    (h : 2 ≤ groups.length) : ∀ filter ∈ intersectAll groups, filter.isUnsatisfiable = false := by
  match groups, h with
  | first :: second :: rest, _ =>
    rw [intersectAll, List.foldl_cons]
    exact isUnsatisfiable_of_mem_union
      (isUnsatisfiable_of_mem_foldl_conjunctions _ fun _ => isUnsatisfiable_of_mem_conjunctions)

/-! ### Two filters and one event -/

/-- Two filters agree on an event when every tag key that both constrain has a carried value that
both allow. -/
def Agree (a b : Filter) (event : Event) : Prop :=
  ∀ key as bs, a.tags.find? key = some as → b.tags.find? key = some bs →
    ∃ value, value ∈ as ∧ value ∈ bs ∧ event.Carries (tagName key) value

/-- **Two filters admit a common assignment** when the event matches both and they agree on it. -/
theorem exists_admits_both_iff {a b : Filter} {event : Event} :
    (∃ assignment : Assignment event, a.Admits assignment ∧ b.Admits assignment) ↔
      a.isMatch event = true ∧ b.isMatch event = true ∧ Agree a b event := by
  constructor
  · rintro ⟨assignment, ha, hb⟩
    refine ⟨isMatch_iff_exists_admits.mpr ⟨assignment, ha⟩,
      isMatch_iff_exists_admits.mpr ⟨assignment, hb⟩, ?_⟩
    intro key as bs has hbs
    obtain ⟨value, hvalue, hassigned⟩ := ha.tags key as has
    exact ⟨value, hvalue, hb.tags.mem hbs hassigned, assignment.carried hassigned⟩
  · rintro ⟨ha, hb, hagree⟩
    obtain ⟨hafits, hatags⟩ := isMatch_iff.mp ha
    obtain ⟨hbfits, hbtags⟩ := isMatch_iff.mp hb
    have hcommon : ∃ assignment : Assignment event,
        ∀ filter ∈ [a, b], filter.Admits assignment := by
      refine exists_common_assignment.mpr ⟨?_, ?_⟩
      · simp only [List.forall_mem_cons]
        exact ⟨hafits, hbfits, fun _ h => absurd h List.not_mem_nil⟩
      · intro key hkey
        simp only [CommonValue, List.forall_mem_cons, List.not_mem_nil, false_implies,
          implies_true, and_true]
        -- which of the two constrain the key decides whose value it is given
        cases has : a.tags.find? key with
        | some as =>
          cases hbs : b.tags.find? key with
          | some bs =>
            obtain ⟨value, hvalue, hvalue', hcarries⟩ := hagree key as bs has hbs
            refine ⟨value, hcarries, ?_, ?_⟩
            · rintro _ ⟨⟩
              exact hvalue
            · rintro _ ⟨⟩
              exact hvalue'
          | none =>
            obtain ⟨value, hvalue, hcarries⟩ := hatags key as has
            refine ⟨value, hcarries, ?_, ?_⟩
            · rintro _ ⟨⟩
              exact hvalue
            · rintro _ ⟨⟩
        | none =>
          cases hbs : b.tags.find? key with
          | some bs =>
            obtain ⟨value, hvalue, hcarries⟩ := hbtags key bs hbs
            refine ⟨value, hcarries, ?_, ?_⟩
            · rintro _ ⟨⟩
            · rintro _ ⟨⟩
              exact hvalue
          | none =>
            simp [SortedMap.mem_keys, has, hbs] at hkey
    obtain ⟨assignment, hadmits⟩ := hcommon
    exact ⟨assignment, hadmits a List.mem_cons_self,
      hadmits b (List.mem_cons_of_mem a List.mem_cons_self)⟩

end Filter

end RelayFeeds
