import Mathlib.Data.List.Basic
import RelayFeeds.Proofs.Request.Intersection

/-! # Which relays a narrowed item names

Narrowing takes the relay lists of a combination one after another. A list that shares a relay with
what is left of those before it keeps what is shared; one that shares none takes their place. So the
relays of the narrowed item come from one of the lists, the last that took the place of those before
it, and are its relays that occur in all later ones.

* **`mem_intersection_cons`** — an intersection has the narrowed items of all combinations.
* **`relays_of_narrow?_eq`** — the relays of a narrowed item are those of its combination, narrowed.
* **`narrowLists_of_shared`** — lists that share a relay leave the relays of the first one that are in
  all others.
* **`exists_narrowLists_eq`** — in general they leave the relays of one list that are in all later
  ones.
* **`narrowLists_concat`** — what is left is in the last list, and is nothing only if that list is. -/

namespace RelayFeeds.RequestItem

/-! ### Combinations -/

/-- The choices are the lists with one member of each group, in their order. -/
theorem mem_choices_iff_forall₂ {α : Type} {groups : List (List α)} {chosen : List α} :
    chosen ∈ choices groups ↔ List.Forall₂ (fun a group => a ∈ group) chosen groups := by
  induction groups generalizing chosen with
  | nil => rw [List.forall₂_nil_right_iff, choices, List.mem_singleton]
  | cons group groups ih =>
    rw [mem_choices_cons]
    constructor
    · rintro ⟨a, ha, others, hothers, rfl⟩
      exact List.Forall₂.cons ha (ih.mp hothers)
    · intro h
      cases h with
      | cons ha hothers => exact ⟨_, ha, _, ih.mpr hothers, rfl⟩

/-- A combination: one item of each of some lists, each compatible with a given item. -/
def Combines (item : RequestItem) (chosen : List RequestItem) (others : List (List RequestItem)) :
    Prop :=
  List.Forall₂ (fun further group => further ∈ group ∧ compatible item further = true) chosen others

/-- The choices of compatible items are the combinations. -/
theorem mem_choices_compatible {item : RequestItem} {chosen : List RequestItem}
    {others : List (List RequestItem)} :
    chosen ∈ choices (others.map (List.filter (compatible item))) ↔ Combines item chosen others := by
  rw [mem_choices_iff_forall₂, List.forall₂_map_right_iff, Combines]
  simp only [List.mem_filter]

/-- **An intersection has the narrowed items of all combinations** of an item of the first child with
compatible items of the others. -/
theorem mem_intersection_cons {first : List RequestItem} {others : List (List RequestItem)}
    {narrowed : RequestItem} :
    narrowed ∈ intersection (first :: others) ↔
      ∃ item ∈ first, ∃ chosen, Combines item chosen others ∧
        narrow? item chosen = some narrowed := by
  rw [mem_intersection]
  constructor
  · rintro ⟨_, _, item, chosen, ⟨⟩, hitem, hchosen, hnarrow⟩
    exact ⟨item, hitem, chosen, mem_choices_compatible.mp hchosen, hnarrow⟩
  · rintro ⟨item, hitem, chosen, hchosen, hnarrow⟩
    exact ⟨first, others, item, chosen, rfl, hitem, mem_choices_compatible.mpr hchosen, hnarrow⟩

/-- An intersection has no item twice. -/
theorem nodup_intersection (groups : List (List RequestItem)) : (intersection groups).Nodup := by
  cases groups with
  | nil => exact List.nodup_nil
  | cons first others => exact Filter.nodup_distinct _

/-! ### One list after another -/

variable {current further : List String} {relay : String}

/-- The relays that a further list leaves of those at hand: the shared ones, or else its own. -/
def keepShared (current further : List String) : List String :=
  let shared := current.filter further.contains
  if shared.isEmpty then further else shared

/-- Where a relay is shared, the shared ones are left. -/
theorem keepShared_of_shared (h : ∃ relay ∈ current, relay ∈ further) :
    keepShared current further = current.filter further.contains :=
  Option.some.inj (narrowRelays_of_shared h)

/-- Where no relay is shared, the further list takes the place of the one at hand. -/
theorem keepShared_of_not_shared (h : ¬ ∃ relay ∈ current, relay ∈ further) :
    keepShared current further = further := by
  have hnone : current.filter further.contains = [] := by
    rw [List.filter_eq_nil_iff]
    intro relay hrelay hcontains
    exact h ⟨relay, hrelay, List.contains_iff_mem.mp hcontains⟩
  rw [keepShared, hnone]
  rfl

/-- What is left is in the further list. -/
theorem mem_of_mem_keepShared (h : relay ∈ keepShared current further) : relay ∈ further := by
  by_cases hshared : ∃ relay ∈ current, relay ∈ further
  · rw [keepShared_of_shared hshared, List.mem_filter] at h
    exact List.contains_iff_mem.mp h.2
  · rwa [keepShared_of_not_shared hshared] at h

/-- Nothing is left only if the further list has nothing. -/
theorem keepShared_eq_nil_iff : keepShared current further = [] ↔ further = [] := by
  constructor
  · intro h
    by_cases hshared : ∃ relay ∈ current, relay ∈ further
    · obtain ⟨relay, hcurrent, hfurther⟩ := hshared
      have hmem : relay ∈ keepShared current further := by
        rw [keepShared_of_shared ⟨relay, hcurrent, hfurther⟩, List.mem_filter]
        exact ⟨hcurrent, List.contains_iff_mem.mpr hfurther⟩
      rw [h] at hmem
      cases hmem
    · rwa [keepShared_of_not_shared hshared] at h
  · rintro rfl
    rw [List.eq_nil_iff_forall_not_mem]
    intro relay hmem
    cases mem_of_mem_keepShared hmem

/-- The relays that some lists leave, taken one after another; none without lists. -/
def narrowLists : List (List String) → Option (List String)
  | [] => none
  | first :: others => some (others.foldl keepShared first)

/-- Two lists leave what the second leaves of the first. -/
theorem narrowLists_cons_cons (first second : List String) (others : List (List String)) :
    narrowLists (first :: second :: others) = narrowLists (keepShared first second :: others) := rfl

/-- **The relays of a narrowed item are those of its combination, narrowed.** -/
theorem relays_of_narrow?_eq {item narrowed : RequestItem} {chosen : List RequestItem}
    (h : narrow? item chosen = some narrowed) :
    narrowed.relays = narrowLists ((item :: chosen).filterMap RequestItem.relays) := by
  induction chosen generalizing item with
  | nil =>
    obtain ⟨-, rfl⟩ := narrow?_nil_eq_some.mp h
    cases hrelays : item.relays <;> simp [hrelays, narrowLists]
  | cons further rest ih =>
    obtain ⟨filters, -, hnarrow⟩ := narrow?_cons_eq_some.mp h
    rw [ih hnarrow]
    -- the narrowed relays stand for the lists of both items
    cases hitem : item.relays with
    | none => cases hfurther : further.relays <;> simp [narrowRelays, hitem, hfurther]
    | some as =>
      cases hfurther : further.relays with
      | none => simp [narrowRelays, hitem, hfurther]
      | some bs =>
        rw [List.filterMap_cons_some hitem, List.filterMap_cons_some hfurther,
          narrowLists_cons_cons]
        rfl

/-- A narrowed item names relays when some item of its combination does. -/
theorem relays_of_narrow?_eq_none_iff {item narrowed : RequestItem} {chosen : List RequestItem}
    (h : narrow? item chosen = some narrowed) :
    narrowed.relays = none ↔ ∀ other ∈ item :: chosen, other.relays = none := by
  rw [relays_of_narrow?_eq h, ← List.filterMap_eq_nil_iff]
  cases (item :: chosen).filterMap RequestItem.relays with
  | nil => exact iff_of_true rfl rfl
  | cons first others => exact iff_of_false (Option.some_ne_none _) (List.cons_ne_nil first others)

/-! ### Where lists are taken anew -/

/-- The relays of a list that are in all of some others, in the order of the list. -/
def inAll (list : List String) (others : List (List String)) : List String :=
  list.filter (fun relay => decide (∀ other ∈ others, relay ∈ other))

/-- Without other lists all relays are left. -/
@[simp] theorem inAll_nil (list : List String) : inAll list [] = list := by
  rw [inAll, List.filter_eq_self]
  intro relay _
  simp

/-- What is in a list and in all others is in all of them. -/
theorem inAll_filter_contains (list further : List String) (others : List (List String)) :
    inAll (list.filter further.contains) others = inAll list (further :: others) := by
  rw [inAll, inAll, List.filter_filter]
  refine List.filter_congr ?_
  intro relay _
  simp only [List.forall_mem_cons, Bool.decide_and, List.contains_eq_mem]
  exact Bool.and_comm _ _

/-- **Lists that share a relay leave the relays of the first one that are in all others.** -/
theorem narrowLists_of_shared {first : List String} {others : List (List String)}
    (h : ∀ list ∈ first :: others, relay ∈ list) :
    narrowLists (first :: others) = some (inAll first others) := by
  induction others generalizing first with
  | nil => rw [narrowLists, inAll_nil, List.foldl_nil]
  | cons second rest ih =>
    obtain ⟨hfirst, hsecond, hrest⟩ := List.forall_mem_cons.mp h |>.imp_right List.forall_mem_cons.mp
    have hleft : relay ∈ first.filter second.contains :=
      List.mem_filter.mpr ⟨hfirst, List.contains_iff_mem.mpr hsecond⟩
    rw [narrowLists_cons_cons, keepShared_of_shared ⟨relay, hfirst, hsecond⟩,
      ih (List.forall_mem_cons.mpr ⟨hleft, hrest⟩), inAll_filter_contains]

/-- **Lists leave the relays of one of them that are in all later ones.** -/
theorem exists_narrowLists_eq (first : List String) (others : List (List String)) :
    ∃ before list after, first :: others = before ++ list :: after ∧
      narrowLists (first :: others) = some (inAll list after) := by
  induction others generalizing first with
  | nil => exact ⟨[], first, [], rfl, by rw [inAll_nil, narrowLists, List.foldl_nil]⟩
  | cons second rest ih =>
    rw [narrowLists_cons_cons]
    by_cases hshared : ∃ relay ∈ first, relay ∈ second
    · obtain ⟨before, list, after, hsplit, hleft⟩ := ih (keepShared first second)
      rw [hleft]
      cases before with
      | nil =>
        -- the shared relays of the first two are never replaced, so the first list is the one
        cases hsplit
        refine ⟨[], first, second :: rest, rfl, ?_⟩
        rw [keepShared_of_shared hshared, inAll_filter_contains]
      | cons head before =>
        cases hsplit
        exact ⟨first :: second :: before, list, after, rfl, rfl⟩
    · -- the second list takes the place of the first
      rw [keepShared_of_not_shared hshared]
      obtain ⟨before, list, after, hsplit, hleft⟩ := ih second
      exact ⟨first :: before, list, after, congrArg (first :: ·) hsplit, hleft⟩

/-- **What lists leave is in the last one, and is nothing only if that one is.** -/
theorem narrowLists_concat {lists : List (List String)} {last relays : List String}
    (h : narrowLists (lists ++ [last]) = some relays) :
    (∀ relay ∈ relays, relay ∈ last) ∧ (relays = [] ↔ last = []) := by
  cases lists with
  | nil =>
    cases h
    exact ⟨fun _ hrelay => hrelay, Iff.rfl⟩
  | cons first others =>
    rw [List.cons_append, narrowLists, List.foldl_append, List.foldl_cons, List.foldl_nil] at h
    cases h
    exact ⟨fun _ hrelay => mem_of_mem_keepShared hrelay, keepShared_eq_nil_iff⟩

end RelayFeeds.RequestItem
