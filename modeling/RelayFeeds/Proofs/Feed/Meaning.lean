import RelayFeeds.Feed.Services
import RelayFeeds.Proofs.Filter.Assignment

/-! # What a feed asks for

A feed that asks nothing of the outside has a plain reading at a relay and an assignment: a union
holds when some child does, an intersection when it has children and all hold, a relay leaf when it
lists the relay, and any other leaf when one of its alternatives is met, the assignment giving the
values of tags.

* **`TimeWindow.resolve_eq`** — an offset counts back from the present, no further than the start of
  time.
* **`Holds`** — the plain reading.
* **`treeInduction`** — what a feed has as soon as its children have it, every feed has.
* **`nodes_eq_cons`** — the nodes of a feed are itself and those of its children.
* **`isPlain`**, **`hasRelayLeaf`**, **`relaysApart`** — the shapes of feeds that compile as they
  read. -/

namespace RelayFeeds

/-- A name names an event: an address by its kind, its author and, unless it is empty, its identifier
as the value of the `d` tag; any other name by its id. -/
def NamedBy {event : Event} (assignment : Assignment event) (name : String) : Prop :=
  match Address.parse? name with
  | none => event.id.text = name
  | some address => event.kind = address.kind ∧ event.author.text = address.author ∧
    (address.identifier ≠ "" → assignment.value? (tagKey "d") = some address.identifier)

/-- What a selector asks for at a relay, the assignment giving the values of tags. -/
def Selector.Holds (relay : String) {event : Event} (assignment : Assignment event) :
    Selector → Prop
  | .id ids => event.id.text ∈ ids
  | .author authors => event.author.text ∈ authors
  | .kind kinds => event.kind ∈ kinds
  | .tag key values => ∃ value ∈ values, assignment.value? (tagKey key) = some value
  | .address names => ∃ name ∈ names, NamedBy assignment name
  | .relay relays => relay ∈ relays
  | .search searches => ∃ search ∈ searches, Filter.Finds (some search) event.content

namespace TimeWindow

/-- The time that a bound of a window stands for at a present time: an offset counts back from the
present, no further than the start of time. -/
def moment (window : TimeWindow) (bound : Bound) (now time : UInt64) : UInt64 :=
  if bound ∉ window.relative then time else if time ≤ now then now - time else 0

/-- A time window asks for the times between those that its bounds stand for at a present time;
without bounds it asks for none. -/
def Holds (window : TimeWindow) (now time : UInt64) : Prop :=
  (window.since ≠ none ∨ window.till ≠ none) ∧
    (∀ since, window.since = some since → window.moment .since now since ≤ time) ∧
      ∀ till, window.till = some till → time ≤ window.moment .till now till

/-- A bound is resolved to the time that it stands for. -/
theorem resolveBound_eq_moment (window : TimeWindow) (bound : Bound) (now time : UInt64) :
    window.resolveBound bound now time = window.moment bound now time := by
  rw [resolveBound, moment, ite_not]
  split
  next =>
    split
    next hle =>
      rw [UInt64.ofNat_sub (UInt64.le_iff_toNat_le.mp hle), UInt64.ofNat_toNat, UInt64.ofNat_toNat]
    next hlt =>
      have hzero : now.toNat - time.toNat = 0 :=
        Nat.sub_eq_zero_of_le (Nat.le_of_not_le (hlt ∘ UInt64.le_iff_toNat_le.mpr))
      rw [hzero]
      rfl
  next => rfl

/-- **A window is resolved to the times that its bounds stand for.** -/
theorem resolve_eq (window : TimeWindow) (now : UInt64) :
    window.resolve now = (window.since.map (window.moment .since now),
      window.till.map (window.moment .till now)) := by
  rw [resolve]
  congr 2 <;> exact funext fun time => window.resolveBound_eq_moment _ now time

end TimeWindow

namespace Feed

/-! ### The plain reading -/

mutual

/-- The plain reading of a feed at a relay and an assignment. -/
def Holds (services : Services) (now : UInt64) (relay : String) {event : Event}
    (assignment : Assignment event) : Feed → Prop
  | .union feeds => HoldsSome services now relay assignment feeds
  | .intersection feeds => feeds ≠ [] ∧ HoldsAll services now relay assignment feeds
  | .selector chosen => chosen.Holds relay assignment
  | .scope scopes => ∃ scope ∈ scopes, event.author.text ∈ services.scope scope
  | .time windows => ∃ window ∈ windows, window.Holds now event.createdAt
  | .trust windows => ∃ window ∈ windows, event.author.text ∈ services.trust window
  | .provider _ | .list _ | .unknown _ _ => False

/-- Some feed of a list holds. -/
def HoldsSome (services : Services) (now : UInt64) (relay : String) {event : Event}
    (assignment : Assignment event) : List Feed → Prop
  | [] => False
  | feed :: rest =>
    Holds services now relay assignment feed ∨ HoldsSome services now relay assignment rest

/-- All feeds of a list hold. -/
def HoldsAll (services : Services) (now : UInt64) (relay : String) {event : Event}
    (assignment : Assignment event) : List Feed → Prop
  | [] => True
  | feed :: rest =>
    Holds services now relay assignment feed ∧ HoldsAll services now relay assignment rest

end

section

variable {services : Services} {now : UInt64} {relay : String} {event : Event}
  {assignment : Assignment event}

/-- A union holds when some child does. -/
theorem holds_union {feeds : List Feed} :
    Holds services now relay assignment (.union feeds) ↔
      ∃ feed ∈ feeds, Holds services now relay assignment feed := by
  rw [Holds]
  induction feeds with
  | nil => simp [HoldsSome]
  | cons feed rest ih => simp [HoldsSome, ih]

/-- An intersection holds when it has children and all hold. -/
theorem holds_intersection {feeds : List Feed} :
    Holds services now relay assignment (.intersection feeds) ↔
      feeds ≠ [] ∧ ∀ feed ∈ feeds, Holds services now relay assignment feed := by
  have hall : HoldsAll services now relay assignment feeds ↔
      ∀ feed ∈ feeds, Holds services now relay assignment feed := by
    induction feeds with
    | nil => simp [HoldsAll]
    | cons feed rest ih => simp [HoldsAll, ih]
  rw [Holds, hall]

end

/-! ### Induction on children -/

/-- The children of a feed are smaller than it. -/
theorem sizeOf_lt_of_mem_children {feed child : Feed} (h : child ∈ feed.children) :
    sizeOf child < sizeOf feed := by
  cases feed with
  | union feeds =>
    have hsize := List.sizeOf_lt_of_mem h
    rw [children] at hsize
    rw [Feed.union.sizeOf_spec]
    omega
  | intersection feeds =>
    have hsize := List.sizeOf_lt_of_mem h
    rw [children] at hsize
    rw [Feed.intersection.sizeOf_spec]
    omega
  | _ => cases h

/-- **What a feed has as soon as its children have it, every feed has.** -/
theorem treeInduction {motive : Feed → Prop}
    (node : ∀ feed, (∀ child ∈ feed.children, motive child) → motive feed) (feed : Feed) :
    motive feed :=
  node feed fun child _ => treeInduction node child
termination_by sizeOf feed
decreasing_by
  apply sizeOf_lt_of_mem_children
  assumption

/-- What a feed has as soon as its children have it, every feed has, for each kind of node. -/
theorem childrenInduction {motive : Feed → Prop}
    (union : ∀ feeds, (∀ feed ∈ feeds, motive feed) → motive (.union feeds))
    (intersection : ∀ feeds, (∀ feed ∈ feeds, motive feed) → motive (.intersection feeds))
    (selector : ∀ chosen, motive (.selector chosen)) (scope : ∀ scopes, motive (.scope scopes))
    (time : ∀ windows, motive (.time windows)) (trust : ∀ windows, motive (.trust windows))
    (provider : ∀ items, motive (.provider items)) (list : ∀ items, motive (.list items))
    (unknown : ∀ tag arguments, motive (.unknown tag arguments)) (feed : Feed) : motive feed := by
  induction feed using treeInduction with
  | node feed ih =>
    cases feed with
    | union feeds => exact union feeds ih
    | intersection feeds => exact intersection feeds ih
    | selector chosen => exact selector chosen
    | scope scopes => exact scope scopes
    | time windows => exact time windows
    | trust windows => exact trust windows
    | provider items => exact provider items
    | list items => exact list items
    | unknown tag arguments => exact unknown tag arguments

/-! ### Shapes of feeds -/

/-- The nodes of some feeds are those of each. -/
theorem nodesAll_eq_flatMap (feeds : List Feed) : nodesAll feeds = feeds.flatMap nodes := by
  induction feeds with
  | nil => rfl
  | cons feed rest ih => rw [nodesAll, ih, List.flatMap_cons]

/-- **The nodes of a feed are itself and those of its children.** -/
theorem nodes_eq_cons (feed : Feed) : feed.nodes = feed :: feed.children.flatMap nodes := by
  cases feed with
  | union feeds => rw [nodes, nodesAll_eq_flatMap, children]
  | intersection feeds => rw [nodes, nodesAll_eq_flatMap, children]
  | _ => rfl

/-- All nodes of a feed have a property when it has it and all nodes of its children do. -/
theorem all_nodes (p : Feed → Bool) (feed : Feed) :
    feed.nodes.all p = (p feed && feed.children.all (fun child => child.nodes.all p)) := by
  rw [nodes_eq_cons, List.all_cons, List.all_flatMap]

/-- Some node of a feed has a property when it has it or some node of a child does. -/
theorem any_nodes (p : Feed → Bool) (feed : Feed) :
    feed.nodes.any p = (p feed || feed.children.any (fun child => child.nodes.any p)) := by
  rw [nodes_eq_cons, List.any_cons, List.any_flatMap]

/-- Whether a node can be compiled without asking the outside for events. -/
def isPlainNode : Feed → Bool
  | .provider _ | .list _ | .unknown _ _ => false
  | _ => true

/-- Whether a feed is built from unions, intersections and leaves that ask for no events. -/
def isPlain (feed : Feed) : Bool := feed.nodes.all isPlainNode

/-- Whether a node is a relay leaf. -/
def isRelayLeaf : Feed → Bool
  | .selector (.relay _) => true
  | _ => false

/-- Whether a feed has a relay leaf. -/
def hasRelayLeaf (feed : Feed) : Bool := feed.nodes.any isRelayLeaf

/-- Whether a node, when it is an intersection of three or more children, has a relay leaf in one
child at most. -/
def relaysApartAt : Feed → Bool
  | .intersection feeds =>
    decide (feeds.length ≤ 2) || decide (feeds.countP hasRelayLeaf ≤ 1)
  | _ => true

/-- Whether every intersection of three or more children has a relay leaf in one child at most. -/
def relaysApart (feed : Feed) : Bool := feed.nodes.all relaysApartAt

/-- A union is plain when its children are. -/
@[simp] theorem isPlain_union (feeds : List Feed) : isPlain (.union feeds) = feeds.all isPlain := by
  rw [isPlain, all_nodes]
  rfl

/-- An intersection is plain when its children are. -/
@[simp] theorem isPlain_intersection (feeds : List Feed) :
    isPlain (.intersection feeds) = feeds.all isPlain := by
  rw [isPlain, all_nodes]
  rfl

/-- A union has a relay leaf when a child has one. -/
@[simp] theorem hasRelayLeaf_union (feeds : List Feed) :
    hasRelayLeaf (.union feeds) = feeds.any hasRelayLeaf := by
  rw [hasRelayLeaf, any_nodes]
  rfl

/-- An intersection has a relay leaf when a child has one. -/
@[simp] theorem hasRelayLeaf_intersection (feeds : List Feed) :
    hasRelayLeaf (.intersection feeds) = feeds.any hasRelayLeaf := by
  rw [hasRelayLeaf, any_nodes]
  rfl

/-- The relays of a union are apart when those of its children are. -/
@[simp] theorem relaysApart_union (feeds : List Feed) :
    relaysApart (.union feeds) = feeds.all relaysApart := by
  rw [relaysApart, all_nodes]
  rfl

/-- The relays of an intersection are apart when they are at the node and in its children. -/
@[simp] theorem relaysApart_intersection (feeds : List Feed) :
    relaysApart (.intersection feeds) =
      (relaysApartAt (.intersection feeds) && feeds.all relaysApart) := by
  rw [relaysApart, all_nodes]
  rfl

end Feed

end RelayFeeds
