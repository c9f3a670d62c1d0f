import RelayFeeds.Proofs.Filter.NormalForm
import RelayFeeds.Request.Plan

/-! # Plans regroup without loss or gain

A plan has one subscription for each relay, whose filters are the union form of everything sent to
that relay. What the union form keeps, the plan keeps:

* **`anyMatch_subscriptionFor`** — a relay's subscription matches what the subscriptions naming the
  relay match.
* **`plan_plan`** — a plan is its own plan.
* **`Plan.toList_drop`**, **`Plan.size_drop`** — some steps give out the subscriptions one by one
  and leave the rest.
* **`plan_regroups`** — all of this for the plan of any subscriptions. -/

namespace RelayFeeds

/-! ### The walk -/

namespace Plan

/-- A walk that has given out no more subscriptions than it has relays. -/
def Valid (plan : Plan) : Prop := plan.walked ≤ plan.relays.length

/-- A walk starts valid. -/
theorem valid_ofSubscriptions (subscriptions : List Subscription) :
    (ofSubscriptions subscriptions).Valid := Nat.zero_le _

/-- What a step does: nothing at the end, else it counts one relay more. -/
theorem advance_cases (plan : Plan) :
    (plan.relays.length ≤ plan.walked ∧ plan.advance = plan) ∨
      (plan.walked < plan.relays.length ∧
        plan.advance = { plan with walked := plan.walked + 1 }) := by
  rw [advance, next?]
  cases h : plan.relays[plan.walked]? with
  | none => exact Or.inl ⟨List.getElem?_eq_none_iff.mp h, rfl⟩
  | some relay =>
    obtain ⟨hlt, -⟩ := List.getElem?_eq_some_iff.mp h
    exact Or.inr ⟨hlt, rfl⟩

/-- A step keeps a walk valid. -/
theorem Valid.advance {plan : Plan} (h : plan.Valid) : plan.advance.Valid := by
  obtain ⟨-, heq⟩ | ⟨hlt, heq⟩ := plan.advance_cases
  · rw [heq]
    exact h
  · rw [heq]
    exact hlt

/-- Some steps keep a walk valid. -/
theorem Valid.drop {plan : Plan} (h : plan.Valid) (steps : Nat) : (plan.drop steps).Valid := by
  induction steps generalizing plan with
  | zero => exact h
  | succ steps ih => exact ih h.advance

/-- A step gives out the first subscription that is left. -/
theorem toList_advance (plan : Plan) : plan.advance.toList = plan.toList.tail := by
  rw [toList_eq plan, advance]
  cases h : plan.next? with
  | none =>
    rw [toList_eq, h]
    rfl
  | some given => rfl

/-- **Some steps give out the first subscriptions that are left.** -/
theorem toList_drop (plan : Plan) (steps : Nat) :
    (plan.drop steps).toList = plan.toList.drop steps := by
  induction steps generalizing plan with
  | zero => rfl
  | succ steps ih => rw [drop, ih, toList_advance, List.drop_tail]

/-- The next subscription is the first one left. -/
theorem next?_eq_head? (plan : Plan) : plan.next?.map Prod.fst = plan.toList.head? := by
  rw [toList_eq]
  cases plan.next? with
  | none => rfl
  | some given => rfl

/-- The size is the number of subscriptions left. -/
theorem size_eq_length (plan : Plan) : plan.size = plan.toList.length := by
  rw [size, toList, List.length_map, List.length_drop]

/-- **Some steps leave so many subscriptions less.** -/
theorem size_drop (plan : Plan) (steps : Nat) :
    (plan.drop steps).size = plan.size - min steps plan.size := by
  rw [size_eq_length, size_eq_length, toList_drop, List.length_drop]
  omega

/-! ### The subscription of one relay -/

variable {subscriptions : List Subscription} {relay : String}

/-- The filters sent to a relay. -/
theorem mem_filters_sentTo {filter : Filter} :
    filter ∈ (subscriptions.filter (fun s => s.relays.contains relay)).flatMap
        Subscription.filters ↔
      ∃ s ∈ subscriptions, relay ∈ s.relays ∧ filter ∈ s.filters := by
  simp only [List.mem_flatMap, List.mem_filter, List.contains_iff_mem, and_assoc]

/-- **A relay's subscription matches what the subscriptions naming the relay match.** -/
theorem anyMatch_subscriptionFor (event : Event) :
    Filter.anyMatch (subscriptionFor subscriptions relay).filters event = true ↔
      ∃ s ∈ subscriptions, relay ∈ s.relays ∧ ∃ filter ∈ s.filters, filter.isMatch event = true := by
  rw [subscriptionFor, Filter.anyMatch_union, Filter.anyMatch, List.any_eq_true]
  simp only [mem_filters_sentTo]
  constructor
  · rintro ⟨filter, ⟨s, hs, hrelay, hfilter⟩, hmatch⟩
    exact ⟨s, hs, hrelay, filter, hfilter, hmatch⟩
  · rintro ⟨s, hs, hrelay, filter, hfilter, hmatch⟩
    exact ⟨filter, ⟨s, hs, hrelay, hfilter⟩, hmatch⟩

/-- A filter sent to a relay is covered by the relay's subscription. -/
theorem exists_covers_subscriptionFor {s : Subscription} (hs : s ∈ subscriptions)
    (hrelay : relay ∈ s.relays) {filter : Filter} (hfilter : filter ∈ s.filters) :
    ∃ other ∈ (subscriptionFor subscriptions relay).filters,
      Filter.covers other filter = true :=
  Filter.exists_mem_union_covers (mem_filters_sentTo.mpr ⟨s, hs, hrelay, hfilter⟩)

/-- A filter with a limit that is sent to a relay stays as it is. -/
theorem mem_subscriptionFor_of_limit {s : Subscription} (hs : s ∈ subscriptions)
    (hrelay : relay ∈ s.relays) {filter : Filter} (hfilter : filter ∈ s.filters)
    (hlimit : filter.limit ≠ none) : filter ∈ (subscriptionFor subscriptions relay).filters := by
  obtain ⟨other, hother, hcovers⟩ := exists_covers_subscriptionFor hs hrelay hfilter
  rwa [Filter.eq_of_covers_of_limit hcovers hlimit] at hother

end Plan

/-! ### Plans -/

variable {subscriptions : List Subscription}

/-- A plan has the subscription of each relay, in order of first appearance. -/
theorem plan_eq_map (subscriptions : List Subscription) :
    plan subscriptions = (Filter.distinct (subscriptions.flatMap Subscription.relays)).map
      (Plan.subscriptionFor subscriptions) := rfl

/-- The relays of a plan's subscriptions are single. -/
theorem relays_plan (subscriptions : List Subscription) :
    (plan subscriptions).map Subscription.relays =
      (Filter.distinct (subscriptions.flatMap Subscription.relays)).map (fun relay => [relay]) := by
  rw [plan_eq_map, List.map_map]
  rfl

/-- Subscriptions that name no relay make no difference to a plan. -/
theorem plan_filter_routed (subscriptions : List Subscription) :
    plan (subscriptions.filter (fun s => decide (s ∉ unrouted subscriptions))) =
      plan subscriptions := by
  -- routed subscriptions name the same relays, and the others send nothing anywhere
  have hrouted : subscriptions.filter (fun s => decide (s ∉ unrouted subscriptions)) =
      subscriptions.filter (fun s => !s.relays.isEmpty) := by
    apply List.filter_congr
    intro s hs
    cases hrelays : s.relays <;> simp [unrouted, hs, hrelays]
  have hrelays : ∀ subs : List Subscription,
      (subs.filter (fun s => !s.relays.isEmpty)).flatMap Subscription.relays =
        subs.flatMap Subscription.relays := by
    intro subs
    induction subs with
    | nil => rfl
    | cons s rest ih =>
      rw [List.filter_cons, List.flatMap_cons]
      cases hs : s.relays with
      | nil => simpa [hs] using ih
      | cons relay relays => simpa [hs] using ih
  have hsent : Plan.subscriptionFor (subscriptions.filter (fun s => !s.relays.isEmpty)) =
      Plan.subscriptionFor subscriptions := by
    funext relay
    rw [Plan.subscriptionFor, Plan.subscriptionFor, List.filter_filter]
    congr 3
    apply List.filter_congr
    intro s _
    cases s.relays <;> simp
  rw [hrouted, plan_eq_map, plan_eq_map, hrelays, hsent]

/-- The subscription of a plan that names a relay. -/
theorem filter_plan_contains {relay : String}
    (h : relay ∈ subscriptions.flatMap Subscription.relays) :
    (plan subscriptions).filter (fun s => s.relays.contains relay) =
      [Plan.subscriptionFor subscriptions relay] := by
  have hnodup := Filter.nodup_distinct (subscriptions.flatMap Subscription.relays)
  -- a relay occurs once among the distinct ones, and each subscription names its own relay only
  have hcontains : (fun s : Subscription => s.relays.contains relay) ∘
      Plan.subscriptionFor subscriptions = (fun other => other == relay) := by
    funext other
    rw [Function.comp_apply, Plan.subscriptionFor, List.contains_cons, List.contains_nil,
      Bool.or_false, BEq.comm]
  rw [plan_eq_map, List.filter_map, hcontains, List.filter_beq, hnodup.count,
    if_pos (Filter.mem_distinct.mpr h)]
  rfl

/-- **A plan is its own plan.** -/
theorem plan_plan (subscriptions : List Subscription) :
    plan (plan subscriptions) = plan subscriptions := by
  have hrelays : (plan subscriptions).flatMap Subscription.relays =
      Filter.distinct (subscriptions.flatMap Subscription.relays) := by
    rw [List.flatMap_def, relays_plan, ← List.flatMap_def, List.flatMap_singleton']
  rw [plan_eq_map (plan subscriptions), hrelays, Filter.distinct_eq_self (Filter.nodup_distinct _),
    plan_eq_map subscriptions]
  refine List.map_congr_left ?_
  intro relay hrelay
  -- the one subscription to the relay holds a union form, which stays as it is
  rw [← plan_eq_map, Plan.subscriptionFor, filter_plan_contains (Filter.mem_distinct.mp hrelay),
    List.flatMap_singleton, Plan.subscriptionFor, Filter.union_union]

/-- **Plans regroup without loss or gain.** A plan has one subscription to each relay, which
subscriptions without relays do not change; a relay's subscription matches what was asked of the
relay, covers each of the filters and keeps those with a limit; a plan is its own plan; and each step
of the walk gives out one subscription and leaves one less, down to none. -/
theorem plan_regroups (subscriptions : List Subscription) :
    (plan subscriptions).map Subscription.relays =
        (subscriptions.flatMap Subscription.relays).eraseDups.map (fun relay => [relay]) ∧
      (unrouted subscriptions = subscriptions.filter (fun s => decide (s.relays = [])) ∧
        plan (subscriptions.filter (fun s => decide (s ∉ unrouted subscriptions))) =
          plan subscriptions) ∧
      (∀ merged ∈ plan subscriptions, ∀ relay ∈ merged.relays,
        (∀ event, Filter.anyMatch merged.filters event = true ↔
          ∃ s ∈ subscriptions, relay ∈ s.relays ∧
            ∃ filter ∈ s.filters, filter.isMatch event = true) ∧
        ∀ s ∈ subscriptions, relay ∈ s.relays → ∀ filter ∈ s.filters,
          (∃ other ∈ merged.filters, Filter.covers other filter = true) ∧
            (filter.limit ≠ none → filter ∈ merged.filters)) ∧
      plan (plan subscriptions) = plan subscriptions ∧
      ∀ steps, ((Plan.ofSubscriptions subscriptions).drop steps).next?.map Prod.fst =
          (plan subscriptions)[steps]? ∧
        ((Plan.ofSubscriptions subscriptions).drop steps).Valid ∧
        ((Plan.ofSubscriptions subscriptions).drop steps).size =
          (subscriptions.flatMap Subscription.relays).eraseDups.length -
            min steps (subscriptions.flatMap Subscription.relays).eraseDups.length := by
  refine ⟨?_, ⟨?_, plan_filter_routed subscriptions⟩, ?_, plan_plan subscriptions, ?_⟩
  · rw [relays_plan, Filter.distinct_eq_eraseDups]
  · rw [unrouted]
    refine List.filter_congr ?_
    intro s _
    rw [Bool.eq_iff_iff, List.isEmpty_iff, decide_eq_true_iff]
  · intro merged hmerged relay hrelay
    rw [plan_eq_map] at hmerged
    obtain ⟨named, -, rfl⟩ := List.mem_map.mp hmerged
    rw [Plan.subscriptionFor, List.mem_singleton] at hrelay
    subst hrelay
    refine ⟨Plan.anyMatch_subscriptionFor, ?_⟩
    intro s hs hnamed filter hfilter
    exact ⟨Plan.exists_covers_subscriptionFor hs hnamed hfilter,
      Plan.mem_subscriptionFor_of_limit hs hnamed hfilter⟩
  · intro steps
    refine ⟨?_, (Plan.valid_ofSubscriptions subscriptions).drop steps, ?_⟩
    · rw [Plan.next?_eq_head?, Plan.toList_drop, List.head?_drop, plan]
    · rw [Plan.size_drop, ← Filter.distinct_eq_eraseDups]
      rfl

end RelayFeeds
