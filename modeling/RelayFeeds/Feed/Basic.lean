import RelayFeeds.Feed.Item

/-! # Feeds — trees that describe which events a client wants

A feed is a tree of unions and intersections over leaves. A node of an unrecognised type is kept as
it was written, so that a tree of a newer client can still be inspected and refused cleanly. -/

namespace RelayFeeds

/-- A node of a feed. -/
inductive Feed where
  /-- What some child wants. -/
  | union (feeds : List Feed)
  /-- What all children want. -/
  | intersection (feeds : List Feed)
  /-- Events named outright. -/
  | selector (selector : Selector)
  /-- Events of authors relative to the user. -/
  | scope (scopes : List Scope)
  /-- Events of time windows. -/
  | time (windows : List TimeWindow)
  /-- Events of authors within trust windows. -/
  | trust (windows : List TrustWindow)
  /-- What data vending machines respond with. -/
  | provider (items : List ProviderItem)
  /-- What lists hold. -/
  | list (items : List ListItem)
  /-- A node of an unrecognised type, with its arguments. -/
  | unknown (tag : String) (arguments : List Json)

namespace Feed

instance : Inhabited Feed := ⟨.union []⟩

mutual

/-- Equality of feeds, as a truth value. -/
def same : Feed → Feed → Bool
  | .union as, .union bs => sameAll as bs
  | .intersection as, .intersection bs => sameAll as bs
  | .selector a, .selector b => decide (a = b)
  | .scope as, .scope bs => decide (as = bs)
  | .time as, .time bs => decide (as = bs)
  | .trust as, .trust bs => decide (as = bs)
  | .provider as, .provider bs => decide (as = bs)
  | .list as, .list bs => decide (as = bs)
  | .unknown s as, .unknown t bs => decide (s = t) && decide (as = bs)
  | _, _ => false

/-- Equality of lists of feeds, as a truth value. -/
def sameAll : List Feed → List Feed → Bool
  | [], [] => true
  | a :: as, b :: bs => same a b && sameAll as bs
  | _, _ => false

end

mutual

/-- The truth value of equality is that of being equal. -/
theorem same_iff : ∀ a b : Feed, same a b = true ↔ a = b
  | .union as, b => by cases b <;> simp [same, sameAll_iff as]
  | .intersection as, b => by cases b <;> simp [same, sameAll_iff as]
  | .selector a, b => by cases b <;> simp [same]
  | .scope as, b => by cases b <;> simp [same]
  | .time as, b => by cases b <;> simp [same]
  | .trust as, b => by cases b <;> simp [same]
  | .provider as, b => by cases b <;> simp [same]
  | .list as, b => by cases b <;> simp [same]
  | .unknown s as, b => by cases b <;> simp [same]

/-- The truth value of equality of lists is that of being equal. -/
theorem sameAll_iff : ∀ as bs : List Feed, sameAll as bs = true ↔ as = bs
  | [], bs => by cases bs <;> simp [sameAll]
  | a :: as, bs => by
    cases bs with
    | nil => simp [sameAll]
    | cons b bs => simp [sameAll, same_iff a b, sameAll_iff as bs]

end

instance : DecidableEq Feed := fun a b => decidable_of_iff _ (same_iff a b)

/-- The type tag of a node. -/
def typeName : Feed → String
  | .union _ => "union"
  | .intersection _ => "intersection"
  | .selector chosen => chosen.typeName
  | .scope _ => "scope"
  | .time _ => "created_at"
  | .trust _ => "wot"
  | .provider _ => "dvm"
  | .list _ => "list"
  | .unknown tag _ => tag

/-- The children of a node. -/
def children : Feed → List Feed
  | .union feeds | .intersection feeds => feeds
  | _ => []

mutual

/-- A node followed by all its descendants, depth first. -/
def nodes : Feed → List Feed
  | .union feeds => .union feeds :: nodesAll feeds
  | .intersection feeds => .intersection feeds :: nodesAll feeds
  | leaf => [leaf]

/-- The nodes of feeds one after another. -/
def nodesAll : List Feed → List Feed
  | [] => []
  | feed :: rest => nodes feed ++ nodesAll rest

end

mutual

/-- Whether every node has a recognised type. -/
def canCompile : Feed → Bool
  | .union feeds | .intersection feeds => canCompileAll feeds
  | .unknown _ _ => false
  | _ => true

/-- Whether every node of every feed has a recognised type. -/
def canCompileAll : List Feed → Bool
  | [] => true
  | feed :: rest => canCompile feed && canCompileAll rest

end

/-- The type tags that are recognised. -/
def knownTags : List String :=
  ["union", "intersection", "address", "author", "id", "kind", "relay", "tag", "search", "scope",
    "created_at", "wot", "dvm", "list"]

/-- Whether a feed compiles and how many nodes of each type it has. -/
structure Report where
  /-- Whether every node has a recognised type. -/
  compilable : Bool
  /-- The number of nodes by type tag. -/
  nodes : SortedMap String Nat

/-- The report of a feed. -/
def report (feed : Feed) : Report where
  compilable := feed.canCompile
  nodes := feed.nodes.foldl (fun counts node => counts.alter node.typeName (·.getD 0 + 1))
    SortedMap.empty

/-- A report as an object. -/
def Report.toJson (report : Report) : Json :=
  .object [("compilable", .bool report.compilable),
    ("nodes", .object (report.nodes.entries.map (fun entry =>
      (entry.1, .number (.ofInt (Int.ofNat entry.2))))))]

end Feed

end RelayFeeds
