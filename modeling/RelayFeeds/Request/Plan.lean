import RelayFeeds.Filter.Algebra
import RelayFeeds.Request.Basic

/-! # Plans — one merged subscription for each relay

A plan regroups subscriptions by relay: for each relay, in order of first appearance, there is one
subscription to that relay alone, whose filters are the union form of all filters sent to it. It is
walked one subscription at a time and always knows how many are left. -/

namespace RelayFeeds

/-- A walk over the merged subscriptions of a plan. -/
structure Plan where
  /-- The subscriptions to regroup. -/
  subscriptions : List Subscription
  /-- The relays in order of first appearance. -/
  relays : List String
  /-- The number of relays whose subscription has been given out. -/
  walked : Nat

namespace Plan

/-- The merged subscription of one relay. -/
def subscriptionFor (subscriptions : List Subscription) (relay : String) : Subscription where
  relays := [relay]
  filters := Filter.union
    ((subscriptions.filter (fun subscription => subscription.relays.contains relay)).flatMap
      Subscription.filters)

/-- The walk from the start. -/
def ofSubscriptions (subscriptions : List Subscription) : Plan where
  subscriptions
  relays := Filter.distinct (subscriptions.flatMap Subscription.relays)
  walked := 0

/-- The next subscription and the walk after it. -/
def next? (plan : Plan) : Option (Subscription × Plan) :=
  match plan.relays[plan.walked]? with
  | none => none
  | some relay =>
    some (subscriptionFor plan.subscriptions relay, { plan with walked := plan.walked + 1 })

/-- The number of subscriptions left. -/
def size (plan : Plan) : Nat := plan.relays.length - plan.walked

/-- The subscriptions left. -/
def toList (plan : Plan) : List Subscription :=
  (plan.relays.drop plan.walked).map (subscriptionFor plan.subscriptions)

/-- The walk after a step; at its end it stays where it is. -/
def advance (plan : Plan) : Plan :=
  match plan.next? with
  | none => plan
  | some (_, rest) => rest

/-- The walk after some steps. -/
def drop (plan : Plan) : Nat → Plan
  | 0 => plan
  | steps + 1 => plan.advance.drop steps

/-- The subscriptions left are the next one and those after it. -/
theorem toList_eq (plan : Plan) :
    plan.toList = match plan.next? with
      | none => []
      | some (subscription, rest) => subscription :: rest.toList := by
  simp only [next?, toList]
  cases h : plan.relays[plan.walked]? with
  | none =>
    rw [List.drop_eq_nil_of_le (List.getElem?_eq_none_iff.mp h)]
    rfl
  | some relay =>
    obtain ⟨hlt, hget⟩ := List.getElem?_eq_some_iff.mp h
    rw [List.drop_eq_getElem_cons hlt, hget]
    rfl

end Plan

/-- One merged subscription for each relay. -/
def plan (subscriptions : List Subscription) : List Subscription :=
  (Plan.ofSubscriptions subscriptions).toList

/-- The subscriptions that name no relay and so have no place in a plan. -/
def unrouted (subscriptions : List Subscription) : List Subscription :=
  subscriptions.filter (fun subscription => subscription.relays.isEmpty)

end RelayFeeds
