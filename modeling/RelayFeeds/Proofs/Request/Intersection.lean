import RelayFeeds.Proofs.Filter.Intersection
import RelayFeeds.Proofs.Request.Selection
import RelayFeeds.Request.Combine

/-! # The intersection of request items

Each item of the first child is narrowed by every choice of one compatible item of each other child.
At an assignment nothing that all children select is lost. Nothing is added either where relays meet
on the way; relays that share none with those of a later child are replaced by them, so with three or
more children this needs that at most one of them names relays.

* **`exists_mem_choices`** — a choice with a property throughout is a member with it in each list.
* **`exists_narrow?_selectsAt`** — what all items select, the narrowed item selects.
* **`exists_mem_intersection_of_all`** — the intersection selects what all children select.
* **`exists_mem_intersection_selectsAt`** — and nothing else, where the relays of the children are
  apart. -/

namespace RelayFeeds.RequestItem

/-! ### Choices -/

/-- A choice from a list and further ones is a member of the list before a choice from these. -/
theorem mem_choices_cons {α : Type} {group : List α} {groups : List (List α)} {chosen : List α} :
    chosen ∈ choices (group :: groups) ↔
      ∃ a ∈ group, ∃ others ∈ choices groups, chosen = a :: others := by
  simp only [choices, List.mem_flatMap, List.mem_map, @eq_comm _ _ chosen]

/-- **A choice with a property throughout** is a member with it in each list. -/
theorem exists_mem_choices {α : Type} {P : α → Prop} {groups : List (List α)} :
    (∃ chosen ∈ choices groups, ∀ a ∈ chosen, P a) ↔ ∀ group ∈ groups, ∃ a ∈ group, P a := by
  induction groups with
  | nil => simp [choices]
  | cons group rest ih =>
    rw [List.forall_mem_cons, ← ih]
    simp only [mem_choices_cons]
    constructor
    · rintro ⟨_, ⟨a, ha, chosen, hchosen, rfl⟩, hall⟩
      rw [List.forall_mem_cons] at hall
      exact ⟨⟨a, ha, hall.1⟩, chosen, hchosen, hall.2⟩
    · rintro ⟨⟨a, ha, hPa⟩, chosen, hchosen, hall⟩
      exact ⟨a :: chosen, ⟨a, ha, chosen, hchosen, rfl⟩, List.forall_mem_cons.mpr ⟨hPa, hall⟩⟩

/-- A choice has one member for each list. -/
theorem length_of_mem_choices {α : Type} {groups : List (List α)} {chosen : List α}
    (h : chosen ∈ choices groups) : chosen.length = groups.length := by
  induction groups generalizing chosen with
  | nil =>
    rw [List.mem_singleton.mp h]
    rfl
  | cons group groups ih =>
    obtain ⟨a, -, others, hothers, rfl⟩ := mem_choices_cons.mp h
    rw [List.length_cons, List.length_cons, ih hothers]

/-- The members of a choice are members of the lists. -/
theorem exists_mem_of_mem_choices {α : Type} {groups : List (List α)} {chosen : List α}
    (h : chosen ∈ choices groups) : ∀ a ∈ chosen, ∃ group ∈ groups, a ∈ group := by
  induction groups generalizing chosen with
  | nil =>
    rw [List.mem_singleton.mp h]
    simp
  | cons group groups ih =>
    obtain ⟨a, ha, others, hothers, rfl⟩ := mem_choices_cons.mp h
    rw [List.forall_mem_cons]
    refine ⟨⟨group, List.mem_cons_self, ha⟩, ?_⟩
    intro b hb
    obtain ⟨other, hother, hmem⟩ := ih hothers b hb
    exact ⟨other, List.mem_cons_of_mem group hother, hmem⟩

/-- What holds between members of different lists holds between the members of a choice. -/
theorem pairwise_of_mem_choices {α : Type} {R : α → α → Prop} {groups : List (List α)}
    {chosen : List α} (hgroups : groups.Pairwise (fun as bs => ∀ a ∈ as, ∀ b ∈ bs, R a b))
    (h : chosen ∈ choices groups) : chosen.Pairwise R := by
  induction groups generalizing chosen with
  | nil =>
    rw [List.mem_singleton.mp h]
    exact List.Pairwise.nil
  | cons group groups ih =>
    obtain ⟨a, ha, others, hothers, rfl⟩ := mem_choices_cons.mp h
    obtain ⟨hgroup, hrest⟩ := List.pairwise_cons.mp hgroups
    refine List.pairwise_cons.mpr ⟨?_, ih hrest hothers⟩
    intro b hb
    obtain ⟨other, hother, hmem⟩ := exists_mem_of_mem_choices hothers b hb
    exact hgroup other hother a ha b hmem

/-! ### Narrowing relays and filters -/

variable {relay : String} {event : Event} {assignment : Assignment event}

/-- Relays meet when one of them is absent or some relay is in both. -/
def Meet (current further : Option (List String)) : Prop :=
  ∀ as bs, current = some as → further = some bs → ∃ relay ∈ as, relay ∈ bs

/-- Where a relay is in both, narrowing leaves the shared relays. -/
theorem narrowRelays_of_shared {as bs : List String} (h : ∃ relay ∈ as, relay ∈ bs) :
    narrowRelays (some as) (some bs) = some (as.filter bs.contains) := by
  obtain ⟨shared, has, hbs⟩ := h
  have hmem : shared ∈ as.filter bs.contains :=
    List.mem_filter.mpr ⟨has, List.contains_iff_mem.mpr hbs⟩
  rw [narrowRelays]
  -- the fallback to the further relays is not taken
  cases hfilter : as.filter bs.contains with
  | nil =>
    rw [hfilter] at hmem
    cases hmem
  | cons first rest => rfl

/-- Relays that meet are narrowed to those that both allow. -/
theorem allowsRelay_narrowRelays {current further : Option (List String)}
    (h : Meet current further) :
    AllowsRelay (narrowRelays current further) relay ↔
      AllowsRelay current relay ∧ AllowsRelay further relay := by
  cases current with
  | none => cases further <;> simp [narrowRelays]
  | some as =>
    cases further with
    | none => simp [narrowRelays]
    | some bs =>
      rw [narrowRelays_of_shared (h as bs rfl rfl)]
      simp

/-- Relays that allow a common one meet. -/
theorem meet_of_allowsRelay {current further : Option (List String)}
    (hcurrent : AllowsRelay current relay) (hfurther : AllowsRelay further relay) :
    Meet current further :=
  fun as bs has hbs => ⟨relay, hcurrent as has, hfurther bs hbs⟩

/-- **Narrowed filters admit what both admit.** -/
theorem exists_narrowFilters_admitsSome {current further : Option (List Filter)} :
    (∃ narrowed, narrowFilters current further = some narrowed ∧ AdmitsSome narrowed assignment) ↔
      AdmitsSome current assignment ∧ AdmitsSome further assignment := by
  cases current with
  | none => cases further <;> simp [narrowFilters]
  | some as =>
    cases further with
    | none => simp [narrowFilters]
    | some bs =>
      rw [admitsSome_some, admitsSome_some, ← Filter.exists_mem_intersectAll_pair_admits,
        narrowFilters]
      cases Filter.intersectAll [as, bs] with
      | nil => simp
      | cons first rest => simp

/-- Narrowing keeps filters and relays present, so that no item becomes a no-op. -/
theorem isNoop_narrow {item further : RequestItem} {filters : Option (List Filter)}
    (h : narrowFilters item.filters further.filters = some filters) :
    (⟨filters, narrowRelays item.relays further.relays⟩ : RequestItem).isNoop =
      (item.isNoop && further.isNoop) := by
  obtain ⟨as, rs⟩ := item
  obtain ⟨bs, ss⟩ := further
  have hfilters : filters.isNone = (as.isNone && bs.isNone) := by
    cases as with
    | none =>
      cases bs <;> cases h <;> rfl
    | some as =>
      cases bs with
      | none =>
        cases h
        rfl
      | some bs =>
        simp only [narrowFilters] at h
        split at h
        next => cases h
        next =>
          cases h
          rfl
  have hrelays : (narrowRelays rs ss).isNone = (rs.isNone && ss.isNone) := by
    cases rs <;> cases ss <;> rfl
  simp only [isNoop, hfilters, hrelays]
  cases as.isNone <;> cases bs.isNone <;> cases rs.isNone <;> cases ss.isNone <;> rfl

/-! ### Narrowing items -/

/-- The relays of an item meet those of further ones, one after another. -/
def MeetAll (current : Option (List String)) : List RequestItem → Prop
  | [] => True
  | further :: rest =>
    Meet current further.relays ∧ MeetAll (narrowRelays current further.relays) rest

/-- An item is left as it is when nothing narrows it, unless it is a no-op. -/
theorem narrow?_nil_eq_some {item narrowed : RequestItem} :
    narrow? item [] = some narrowed ↔ item.isNoop = false ∧ item = narrowed := by
  rw [narrow?]
  cases item.isNoop <;> simp

/-- An item is narrowed by a further one, if filters are left, and then by the rest. -/
theorem narrow?_cons_eq_some {item further narrowed : RequestItem} {rest : List RequestItem} :
    narrow? item (further :: rest) = some narrowed ↔
      ∃ filters, narrowFilters item.filters further.filters = some filters ∧
        narrow? ⟨filters, narrowRelays item.relays further.relays⟩ rest = some narrowed := by
  rw [narrow?]
  cases narrowFilters item.filters further.filters <;> simp

/-- **What all items select, the narrowed item selects.** -/
theorem exists_narrow?_selectsAt {item : RequestItem} {rest : List RequestItem}
    (hitem : item.SelectsAt relay assignment)
    (hrest : ∀ further ∈ rest, further.SelectsAt relay assignment) :
    ∃ narrowed, narrow? item rest = some narrowed ∧ narrowed.SelectsAt relay assignment := by
  induction rest generalizing item with
  | nil => exact ⟨item, narrow?_nil_eq_some.mpr ⟨hitem.demands, rfl⟩, hitem⟩
  | cons further rest ih =>
    rw [List.forall_mem_cons] at hrest
    obtain ⟨filters, hfilters, hadmits⟩ :=
      exists_narrowFilters_admitsSome.mpr ⟨hitem.filters, hrest.1.filters⟩
    -- both allow the relay, so their relays meet there and it is among the narrowed ones
    have hmeet := meet_of_allowsRelay hitem.relays hrest.1.relays
    have hrelays := (allowsRelay_narrowRelays hmeet).mpr ⟨hitem.relays, hrest.1.relays⟩
    have hnoop := isNoop_narrow hfilters
    rw [hitem.demands, Bool.false_and] at hnoop
    obtain ⟨narrowed, hnarrow, hselects⟩ := ih ⟨hnoop, hrelays, hadmits⟩ hrest.2
    exact ⟨narrowed, narrow?_cons_eq_some.mpr ⟨filters, hfilters, hnarrow⟩, hselects⟩

/-- **What a narrowed item selects, all items select**, where their relays meet and none is a
no-op. -/
theorem selectsAt_of_narrow? {item narrowed : RequestItem} {rest : List RequestItem}
    (hmeet : MeetAll item.relays rest) (hdemands : ∀ other ∈ item :: rest, other.isNoop = false)
    (h : narrow? item rest = some narrowed) (hselects : narrowed.SelectsAt relay assignment) :
    ∀ other ∈ item :: rest, other.SelectsAt relay assignment := by
  induction rest generalizing item with
  | nil =>
    obtain ⟨-, rfl⟩ := narrow?_nil_eq_some.mp h
    rw [List.forall_mem_singleton]
    exact hselects
  | cons further rest ih =>
    obtain ⟨filters, hfilters, hnarrow⟩ := narrow?_cons_eq_some.mp h
    rw [List.forall_mem_cons, List.forall_mem_cons] at hdemands
    have hnoop := isNoop_narrow hfilters
    rw [hdemands.1, Bool.false_and] at hnoop
    have hall := ih hmeet.2 (List.forall_mem_cons.mpr ⟨hnoop, hdemands.2.2⟩) hnarrow
    rw [List.forall_mem_cons] at hall
    -- the item narrowed once selects it, and so do the two that it comes from
    have hrelays := (allowsRelay_narrowRelays hmeet.1).mp hall.1.relays
    have hadmits := exists_narrowFilters_admitsSome.mp ⟨filters, hfilters, hall.1.filters⟩
    rw [List.forall_mem_cons, List.forall_mem_cons]
    exact ⟨⟨hdemands.1, hrelays.1, hadmits.1⟩, ⟨hdemands.2.1, hrelays.2, hadmits.2⟩, hall.2⟩

/-- A narrowed item asks for something. -/
theorem isNoop_of_narrow? {item narrowed : RequestItem} {rest : List RequestItem}
    (h : narrow? item rest = some narrowed) : narrowed.isNoop = false := by
  induction rest generalizing item with
  | nil =>
    obtain ⟨hnoop, rfl⟩ := narrow?_nil_eq_some.mp h
    exact hnoop
  | cons further rest ih =>
    obtain ⟨filters, -, hnarrow⟩ := narrow?_cons_eq_some.mp h
    exact ih hnarrow

/-- What the relays of all items have and narrowing keeps, the relays of the narrowed item have. -/
theorem relays_of_narrow? {P : Option (List String) → Prop}
    (hkeeps : ∀ current further, P current → P further → P (narrowRelays current further))
    {item narrowed : RequestItem} {rest : List RequestItem}
    (hall : ∀ other ∈ item :: rest, P other.relays) (h : narrow? item rest = some narrowed) :
    P narrowed.relays := by
  induction rest generalizing item with
  | nil =>
    obtain ⟨-, rfl⟩ := narrow?_nil_eq_some.mp h
    exact hall item List.mem_cons_self
  | cons further rest ih =>
    obtain ⟨filters, -, hnarrow⟩ := narrow?_cons_eq_some.mp h
    rw [List.forall_mem_cons, List.forall_mem_cons] at hall
    exact ih (List.forall_mem_cons.mpr ⟨hkeeps _ _ hall.1 hall.2.1, hall.2.2⟩) hnarrow

/-- Relays meet where of two items at most one names relays. -/
theorem meetAll_of_pairwise {item : RequestItem} {rest : List RequestItem}
    (h : (item :: rest).Pairwise (fun a b => a.relays = none ∨ b.relays = none)) :
    MeetAll item.relays rest := by
  induction rest generalizing item with
  | nil => trivial
  | cons further rest ih =>
    obtain ⟨hitem, hrest⟩ := List.pairwise_cons.mp h
    have hfurther := hitem further List.mem_cons_self
    refine ⟨?_, @ih ⟨none, narrowRelays item.relays further.relays⟩ ?_⟩
    · intro as bs has hbs
      rw [has, hbs] at hfurther
      obtain hnone | hnone := hfurther <;> cases hnone
    · obtain ⟨hfurther', hrest'⟩ := List.pairwise_cons.mp hrest
      rw [List.pairwise_cons]
      refine ⟨?_, hrest'⟩
      intro other hother
      -- the narrowed relays are those of the one item that names any
      obtain hnone | hnone := hfurther
      · rw [hnone]
        obtain hnone' | hnone' := hfurther' other hother
        · exact Or.inl (by rw [hnone']; rfl)
        · exact Or.inr hnone'
      · rw [hnone]
        exact hitem other (List.mem_cons_of_mem further hother)

/-! ### The intersection of children -/

/-- Items that select the same are compatible. -/
theorem compatible_of_selectsAt {a b : RequestItem} (ha : a.SelectsAt relay assignment)
    (hb : b.SelectsAt relay assignment) : compatible a b = true := by
  obtain ⟨as, rs⟩ := a
  obtain ⟨bs, ss⟩ := b
  rw [compatible, Bool.and_eq_true]
  constructor
  · cases rs with
    | none => rfl
    | some rs =>
      cases ss with
      | none => rfl
      | some ss =>
        exact List.any_eq_true.mpr ⟨relay, ha.relays rs rfl,
          List.contains_iff_mem.mpr (hb.relays ss rfl)⟩
  · cases as with
    | none => rfl
    | some as =>
      cases bs with
      | none => rfl
      | some bs =>
        obtain ⟨filter, hfilter, -⟩ := Filter.exists_mem_intersectAll_pair_admits.mpr
          ⟨ha.filters as rfl, hb.filters bs rfl⟩
        rw [Bool.not_eq_true', List.isEmpty_eq_false_iff]
        exact List.ne_nil_of_mem hfilter

/-- Compatible items have relays that meet. -/
theorem meet_of_compatible {a b : RequestItem} (h : compatible a b = true) :
    Meet a.relays b.relays := by
  intro rs ss hrs hss
  rw [compatible, hrs, hss, Bool.and_eq_true] at h
  obtain ⟨relay, hrelay, hcontains⟩ := List.any_eq_true.mp h.1
  exact ⟨relay, hrelay, List.contains_iff_mem.mp hcontains⟩

/-- The items of an intersection: an item of the first child narrowed by a choice of compatible
items of the others. -/
theorem mem_intersection {narrowed : RequestItem} {groups : List (List RequestItem)} :
    narrowed ∈ intersection groups ↔
      ∃ first others item chosen, groups = first :: others ∧ item ∈ first ∧
        chosen ∈ choices (others.map (List.filter (compatible item))) ∧
        narrow? item chosen = some narrowed := by
  cases groups with
  | nil => simp [intersection]
  | cons first others =>
    rw [intersection, Filter.mem_distinct]
    simp only [List.mem_flatMap, narrowings, List.mem_filterMap]
    constructor
    · rintro ⟨item, hitem, chosen, hchosen, hnarrow⟩
      exact ⟨first, others, item, chosen, rfl, hitem, hchosen, hnarrow⟩
    · rintro ⟨_, _, item, chosen, ⟨⟩, hitem, hchosen, hnarrow⟩
      exact ⟨item, hitem, chosen, hchosen, hnarrow⟩

/-- A choice of compatible items takes compatible items from the lists. -/
theorem compatible_of_mem_choices {item : RequestItem} {others : List (List RequestItem)}
    {chosen : List RequestItem}
    (h : chosen ∈ choices (others.map (List.filter (compatible item)))) :
    ∀ further ∈ chosen, compatible item further = true ∧ ∃ group ∈ others, further ∈ group := by
  intro further hfurther
  obtain ⟨group, hgroup, hmem⟩ := exists_mem_of_mem_choices h further hfurther
  obtain ⟨all, hall, rfl⟩ := List.mem_map.mp hgroup
  rw [List.mem_filter] at hmem
  exact ⟨hmem.2, all, hall, hmem.1⟩

/-- **The intersection selects what all children select.** -/
theorem exists_mem_intersection_of_all {groups : List (List RequestItem)} (hne : groups ≠ [])
    (h : ∀ group ∈ groups, ∃ item ∈ group, item.SelectsAt relay assignment) :
    ∃ item ∈ intersection groups, item.SelectsAt relay assignment := by
  cases groups with
  | nil => exact absurd rfl hne
  | cons first others =>
    obtain ⟨⟨item, hitem, hselects⟩, hothers⟩ := List.forall_mem_cons.mp h
    -- what selects the same is compatible, so that a choice of selecting items passes the test
    have hcompatible : ∀ group ∈ others.map (List.filter (compatible item)),
        ∃ further ∈ group, further.SelectsAt relay assignment := by
      intro group hgroup
      obtain ⟨all, hall, rfl⟩ := List.mem_map.mp hgroup
      obtain ⟨further, hfurther, hselects'⟩ := hothers all hall
      exact ⟨further, List.mem_filter.mpr
        ⟨hfurther, compatible_of_selectsAt hselects hselects'⟩, hselects'⟩
    obtain ⟨chosen, hchosen, hall⟩ := exists_mem_choices.mpr hcompatible
    obtain ⟨narrowed, hnarrowed, hselects'⟩ := exists_narrow?_selectsAt hselects hall
    exact ⟨narrowed, mem_intersection.mpr
      ⟨first, others, item, chosen, rfl, hitem, hchosen, hnarrowed⟩, hselects'⟩

/-- An intersection asks for something in each item. -/
theorem isNoop_of_mem_intersection {groups : List (List RequestItem)} {item : RequestItem}
    (h : item ∈ intersection groups) : item.isNoop = false := by
  obtain ⟨first, others, source, chosen, -, -, -, hnarrow⟩ := mem_intersection.mp h
  exact isNoop_of_narrow? hnarrow

/-- The relays of some children are apart: there are two children at most, or at most one of them
names relays. -/
def RelaysApart (groups : List (List RequestItem)) : Prop :=
  groups.length ≤ 2 ∨ groups.Pairwise (fun as bs => RelayFree as ∨ RelayFree bs)

/-- The relays of an item and of a choice of compatible ones meet where those of the children are
apart. -/
theorem meetAll_of_relaysApart {first : List RequestItem} {others : List (List RequestItem)}
    (h : RelaysApart (first :: others)) {item : RequestItem} (hitem : item ∈ first)
    {chosen : List RequestItem}
    (hchosen : chosen ∈ choices (others.map (List.filter (compatible item)))) :
    MeetAll item.relays chosen := by
  obtain hlength | hpairwise := h
  · -- two children: the one further item is compatible
    have hshort := length_of_mem_choices hchosen
    rw [List.length_map] at hshort
    rw [List.length_cons] at hlength
    match chosen, hchosen, hshort with
    | [], _, _ => trivial
    | [further], hchosen, _ =>
      have hcompatible := (compatible_of_mem_choices hchosen further List.mem_cons_self).1
      exact ⟨meet_of_compatible hcompatible, trivial⟩
    | _ :: _ :: _, _, hshort =>
      simp only [List.length_cons] at hshort
      omega
  · obtain ⟨hfirst, hothers⟩ := List.pairwise_cons.mp hpairwise
    refine meetAll_of_pairwise (List.pairwise_cons.mpr ⟨?_, ?_⟩)
    · intro further hfurther
      obtain ⟨-, group, hgroup, hmem⟩ := compatible_of_mem_choices hchosen further hfurther
      exact (hfirst group hgroup).imp (fun hfree => hfree item hitem)
        (fun hfree => hfree further hmem)
    · refine pairwise_of_mem_choices ?_ hchosen
      rw [List.pairwise_map]
      refine hothers.imp ?_
      intro as bs hfree a ha b hb
      exact hfree.imp (fun hfree => hfree a (List.mem_filter.mp ha).1)
        (fun hfree => hfree b (List.mem_filter.mp hb).1)

/-- **The intersection selects exactly what all children select**, where the relays of the children
are apart and no item is a no-op. -/
theorem exists_mem_intersection_selectsAt {groups : List (List RequestItem)}
    (hapart : RelaysApart groups)
    (hdemands : ∀ group ∈ groups, ∀ item ∈ group, item.isNoop = false) :
    (∃ item ∈ intersection groups, item.SelectsAt relay assignment) ↔
      groups ≠ [] ∧ ∀ group ∈ groups, ∃ item ∈ group, item.SelectsAt relay assignment := by
  constructor
  · rintro ⟨narrowed, hnarrowed, hselects⟩
    obtain ⟨first, others, item, chosen, rfl, hitem, hchosen, hnarrow⟩ :=
      mem_intersection.mp hnarrowed
    have hdemands' : ∀ other ∈ item :: chosen, other.isNoop = false := by
      rw [List.forall_mem_cons]
      refine ⟨hdemands first List.mem_cons_self item hitem, ?_⟩
      intro further hfurther
      obtain ⟨-, group, hgroup, hmem⟩ := compatible_of_mem_choices hchosen further hfurther
      exact hdemands group (List.mem_cons_of_mem first hgroup) further hmem
    -- relays are apart, so narrowing kept only relays that all of them name
    have hmeet := meetAll_of_relaysApart hapart hitem hchosen
    have hall := selectsAt_of_narrow? hmeet hdemands' hnarrow hselects
    rw [List.forall_mem_cons] at hall
    refine ⟨List.cons_ne_nil first others, ?_⟩
    rw [List.forall_mem_cons]
    refine ⟨⟨item, hitem, hall.1⟩, ?_⟩
    intro group hgroup
    obtain ⟨further, hfurther, hselects'⟩ := exists_mem_choices.mp ⟨chosen, hchosen, hall.2⟩ _
      (List.mem_map_of_mem hgroup)
    exact ⟨further, (List.mem_filter.mp hfurther).1, hselects'⟩
  · rintro ⟨hne, hall⟩
    exact exists_mem_intersection_of_all hne hall

/-- What the relays of all children have and narrowing keeps, the relays of the intersection have. -/
theorem relays_of_mem_intersection {P : Option (List String) → Prop}
    (hkeeps : ∀ current further, P current → P further → P (narrowRelays current further))
    {groups : List (List RequestItem)} (h : ∀ group ∈ groups, ∀ item ∈ group, P item.relays)
    {narrowed : RequestItem} (hnarrowed : narrowed ∈ intersection groups) : P narrowed.relays := by
  obtain ⟨first, others, item, chosen, rfl, hitem, hchosen, hnarrow⟩ :=
    mem_intersection.mp hnarrowed
  refine relays_of_narrow? hkeeps (List.forall_mem_cons.mpr ⟨?_, ?_⟩) hnarrow
  · exact h first List.mem_cons_self item hitem
  · intro further hfurther
    obtain ⟨-, group, hgroup, hmem⟩ := compatible_of_mem_choices hchosen further hfurther
    exact h group (List.mem_cons_of_mem first hgroup) further hmem

/-- The intersection of children that name no relays names none. -/
theorem intersection_relayFree {groups : List (List RequestItem)}
    (h : ∀ group ∈ groups, RelayFree group) : RelayFree (intersection groups) := by
  intro narrowed hnarrowed
  refine relays_of_mem_intersection (P := fun relays => relays = none) ?_ h hnarrowed
  rintro current further rfl rfl
  rfl

/-- Relays narrowed by further ones are not left without an entry when neither are. -/
theorem narrowRelays_ne_nil (current further : Option (List String)) (hcurrent : current ≠ some [])
    (hfurther : further ≠ some []) : narrowRelays current further ≠ some [] := by
  cases current with
  | none =>
    cases further with
    | none => exact hcurrent
    | some bs => exact hfurther
  | some as =>
    cases further with
    | none => exact hcurrent
    | some bs =>
      rw [narrowRelays]
      cases hshared : as.filter bs.contains with
      | nil => exact hfurther
      | cons first rest => simp

end RelayFeeds.RequestItem
