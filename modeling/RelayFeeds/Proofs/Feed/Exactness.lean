import RelayFeeds.Proofs.Feed.Leaves
import RelayFeeds.Proofs.Request.Intersection
import RelayFeeds.Proofs.Request.Union

/-! # Compiled feeds select what they read as

A plain feed compiles without asking for events. Its items select whatever the plain reading holds
of; where relays are apart they select nothing else.

* **`compile_of_isPlain`** — a plain feed compiles to its items after one look at the clock.
* **`exists_mem_plainItems_of_holds`** — nothing that the reading holds of is lost.
* **`exists_mem_plainItems_selectsAt`** — nothing is added, where relays are apart.
* **`compile_exact`** — both, for relays and events. -/

namespace RelayFeeds.Feed

/-! ### The items of plain feeds -/

mutual

/-- The items of a plain feed at a present time. -/
def plainItems (services : Services) (now : UInt64) : Feed → List RequestItem
  | .union feeds => RequestItem.union (plainItemsAll services now feeds).flatten
  | .intersection feeds => RequestItem.intersection (plainItemsAll services now feeds)
  | .selector chosen => chosen.items
  | .scope scopes => scopeItems services scopes
  | .time windows => timeItems windows now
  | .trust windows => trustItems services windows
  | .provider _ | .list _ | .unknown _ _ => []

/-- The items of plain feeds one after another. -/
def plainItemsAll (services : Services) (now : UInt64) : List Feed → List (List RequestItem)
  | [] => []
  | feed :: rest => plainItems services now feed :: plainItemsAll services now rest

end

variable {services : Services} {now : UInt64}

/-- The items of some feeds are those of each. -/
theorem plainItemsAll_eq_map (feeds : List Feed) :
    plainItemsAll services now feeds = feeds.map (plainItems services now) := by
  induction feeds with
  | nil => rfl
  | cons feed rest ih => rw [plainItemsAll, ih, List.map_cons]

/-- The items of a union. -/
theorem plainItems_union (feeds : List Feed) :
    plainItems services now (.union feeds) =
      RequestItem.union (feeds.flatMap (plainItems services now)) := by
  rw [plainItems, plainItemsAll_eq_map, List.flatMap_def]

/-- The items of an intersection. -/
theorem plainItems_intersection (feeds : List Feed) :
    plainItems services now (.intersection feeds) =
      RequestItem.intersection (feeds.map (plainItems services now)) := by
  rw [plainItems, plainItemsAll_eq_map]

/-- Feeds that compile to their items without a call do so one after another. -/
theorem compileNodes_eq_pure {feeds : List Feed}
    (h : ∀ feed ∈ feeds, compileNode services now feed = pure (plainItems services now feed)) :
    compileNodes services now feeds = pure (feeds.map (plainItems services now)) := by
  induction feeds with
  | nil => rfl
  | cons feed rest ih =>
    rw [List.forall_mem_cons] at h
    rw [compileNodes, h.1, ih h.2]
    rfl

/-- **A plain feed compiles to its items without a call.** -/
theorem compileNode_of_isPlain (feed : Feed) (h : feed.isPlain = true) :
    compileNode services now feed = pure (plainItems services now feed) := by
  induction feed using childrenInduction with
  | union feeds ih =>
    rw [isPlain_union, List.all_eq_true] at h
    rw [compileNode, compileNodes_eq_pure fun feed hfeed => ih feed hfeed (h feed hfeed),
      plainItems_union]
    rfl
  | intersection feeds ih =>
    rw [isPlain_intersection, List.all_eq_true] at h
    rw [compileNode, compileNodes_eq_pure fun feed hfeed => ih feed hfeed (h feed hfeed),
      plainItems_intersection]
    rfl
  | selector chosen => rfl
  | scope scopes => rfl
  | time windows => rfl
  | trust windows => rfl
  | provider items => cases h
  | list items => cases h
  | unknown tag arguments => cases h

/-- **A plain feed compiles to its items after one look at the clock.** -/
theorem compile_of_isPlain {feed : Feed} (h : feed.isPlain = true) :
    compile services feed =
      ⟨[Call.clock], .ok (plainItems services (services.clock []) feed)⟩ := by
  have hsession : session services feed =
      services.readClock >>= fun now => pure (plainItems services now feed) := by
    rw [session]
    congr 1
    funext now
    exact compileNode_of_isPlain feed h
  rw [compile, hsession]
  rfl

/-! ### What the items select -/

open RequestItem

/-- The items of a plain feed ask for something. -/
theorem isNoop_of_mem_plainItems (feed : Feed) :
    ∀ item ∈ plainItems services now feed, item.isNoop = false := by
  cases feed with
  | union feeds =>
    intro item hitem
    rw [plainItems_union] at hitem
    exact isNoop_of_mem_union hitem
  | intersection feeds =>
    intro item hitem
    rw [plainItems_intersection] at hitem
    exact isNoop_of_mem_intersection hitem
  | selector chosen => cases chosen <;> exact List.forall_mem_singleton.mpr rfl
  | scope scopes => exact List.forall_mem_singleton.mpr rfl
  | time windows => exact List.forall_mem_singleton.mpr rfl
  | trust windows => exact List.forall_mem_singleton.mpr rfl
  | provider items => exact fun _ h => absurd h List.not_mem_nil
  | list items => exact fun _ h => absurd h List.not_mem_nil
  | unknown tag arguments => exact fun _ h => absurd h List.not_mem_nil

/-- **A feed without a relay leaf names no relays.** -/
theorem plainItems_relayFree (feed : Feed) (h : feed.hasRelayLeaf = false) :
    RelayFree (plainItems services now feed) := by
  induction feed using childrenInduction with
  | union feeds ih =>
    rw [hasRelayLeaf_union, List.any_eq_false] at h
    rw [plainItems_union]
    refine union_relayFree ?_
    intro item hitem
    obtain ⟨feed, hfeed, hmem⟩ := List.mem_flatMap.mp hitem
    exact ih feed hfeed (Bool.eq_false_iff.mpr (h feed hfeed)) item hmem
  | intersection feeds ih =>
    rw [hasRelayLeaf_intersection, List.any_eq_false] at h
    rw [plainItems_intersection]
    refine intersection_relayFree ?_
    rw [List.forall_mem_map]
    intro feed hfeed
    exact ih feed hfeed (Bool.eq_false_iff.mpr (h feed hfeed))
  | selector chosen =>
    cases chosen with
    | relay relays => cases h
    | address names => exact List.forall_mem_singleton.mpr rfl
    | author authors => exact List.forall_mem_singleton.mpr rfl
    | id ids => exact List.forall_mem_singleton.mpr rfl
    | kind kinds => exact List.forall_mem_singleton.mpr rfl
    | tag key values => exact List.forall_mem_singleton.mpr rfl
    | search searches => exact List.forall_mem_singleton.mpr rfl
  | scope scopes => exact List.forall_mem_singleton.mpr rfl
  | time windows => exact List.forall_mem_singleton.mpr rfl
  | trust windows => exact List.forall_mem_singleton.mpr rfl
  | provider items => exact fun _ h => absurd h List.not_mem_nil
  | list items => exact fun _ h => absurd h List.not_mem_nil
  | unknown tag arguments => exact fun _ h => absurd h List.not_mem_nil

/-- In a list with at most one member of some kind, one of any two members is of the other kind. -/
theorem pairwise_of_countP_le_one {α : Type} {p : α → Bool} {values : List α}
    (h : values.countP p ≤ 1) : values.Pairwise (fun a b => p a = false ∨ p b = false) := by
  induction values with
  | nil => exact List.Pairwise.nil
  | cons a rest ih =>
    rw [List.countP_cons] at h
    refine List.pairwise_cons.mpr ⟨?_, ih (by omega)⟩
    intro b hb
    cases ha : p a with
    | false => exact Or.inl rfl
    | true =>
      -- the head is the one member of its kind
      have hnone : rest.countP p = 0 := by
        rw [if_pos ha] at h
        omega
      exact Or.inr (Bool.eq_false_iff.mpr (List.countP_eq_zero.mp hnone b hb))

/-- The relays of an intersection's children are apart where they are at its node. -/
theorem relaysApart_of_relaysApartAt {feeds : List Feed}
    (h : relaysApartAt (.intersection feeds) = true) :
    RelaysApart (feeds.map (plainItems services now)) := by
  rw [relaysApartAt, Bool.or_eq_true, decide_eq_true_iff, decide_eq_true_iff] at h
  rw [RelaysApart, List.length_map, List.pairwise_map]
  refine h.imp_right fun hcount => (pairwise_of_countP_le_one hcount).imp ?_
  intro a b hleaf
  exact hleaf.imp (plainItems_relayFree a) (plainItems_relayFree b)

variable {relay : String} {event : Event} {assignment : Assignment event}

/-- Nothing that the plain reading of a feed holds of is lost, and nothing is added where relays are
apart. -/
theorem plainItems_select (feed : Feed) :
    (Holds services now relay assignment feed →
      ∃ item ∈ plainItems services now feed, item.SelectsAt relay assignment) ∧
    (feed.relaysApart = true →
      (∃ item ∈ plainItems services now feed, item.SelectsAt relay assignment) →
        Holds services now relay assignment feed) := by
  induction feed using childrenInduction with
  | union feeds ih =>
    rw [holds_union, plainItems_union, exists_mem_union_selectsAt, relaysApart_union,
      List.all_eq_true]
    constructor
    · rintro ⟨feed, hfeed, hholds⟩
      obtain ⟨item, hitem, hselects⟩ := (ih feed hfeed).1 hholds
      exact ⟨item, List.mem_flatMap.mpr ⟨feed, hfeed, hitem⟩, hselects⟩
    · rintro hapart ⟨item, hitem, hselects⟩
      obtain ⟨feed, hfeed, hmem⟩ := List.mem_flatMap.mp hitem
      exact ⟨feed, hfeed, (ih feed hfeed).2 (hapart feed hfeed) ⟨item, hmem, hselects⟩⟩
  | intersection feeds ih =>
    rw [holds_intersection, plainItems_intersection, relaysApart_intersection, Bool.and_eq_true,
      List.all_eq_true]
    constructor
    · rintro ⟨hne, hholds⟩
      refine exists_mem_intersection_of_all (fun h => hne (List.map_eq_nil_iff.mp h)) ?_
      rw [List.forall_mem_map]
      intro feed hfeed
      exact (ih feed hfeed).1 (hholds feed hfeed)
    · rintro ⟨hnode, hapart⟩ hselects
      -- the children's relays are apart at this node, and their items are no no-ops
      have hdemands : ∀ group ∈ feeds.map (plainItems services now),
          ∀ item ∈ group, item.isNoop = false := by
        rw [List.forall_mem_map]
        exact fun feed _ => isNoop_of_mem_plainItems feed
      obtain ⟨hne, hall⟩ := (exists_mem_intersection_selectsAt
        (relaysApart_of_relaysApartAt hnode) hdemands).mp hselects
      rw [List.forall_mem_map] at hall
      refine ⟨fun h => hne (List.map_eq_nil_iff.mpr h), ?_⟩
      intro feed hfeed
      exact (ih feed hfeed).2 (hapart feed hfeed) (hall feed hfeed)
  | selector chosen =>
    exact ⟨Selector.exists_mem_items_selectsAt.mpr, fun _ => Selector.exists_mem_items_selectsAt.mp⟩
  | scope scopes =>
    exact ⟨exists_mem_scopeItems_selectsAt.mpr, fun _ => exists_mem_scopeItems_selectsAt.mp⟩
  | time windows =>
    exact ⟨exists_mem_timeItems_selectsAt.mpr, fun _ => exists_mem_timeItems_selectsAt.mp⟩
  | trust windows =>
    exact ⟨exists_mem_trustItems_selectsAt.mpr, fun _ => exists_mem_trustItems_selectsAt.mp⟩
  | provider items => exact ⟨False.elim, fun _ h => by simp [plainItems] at h⟩
  | list items => exact ⟨False.elim, fun _ h => by simp [plainItems] at h⟩
  | unknown tag arguments => exact ⟨False.elim, fun _ h => by simp [plainItems] at h⟩

/-- **Compilation is exact.** A plain feed compiles; at every relay, for every event, some item
selects it if the feed holds at some assignment for it; and only if, where every intersection of
three or more children has a relay leaf in one child at most. -/
theorem compile_exact (services : Services) (feed : Feed) (hplain : feed.isPlain = true) :
    ∃ items, (compile services feed).result = .ok items ∧
      ∀ (relay : String) (event : Event),
        ((∃ assignment : Assignment event,
            Holds services (services.clock []) relay assignment feed) →
          ∃ item ∈ items, item.Selects relay event) ∧
        (feed.relaysApart = true → (∃ item ∈ items, item.Selects relay event) →
          ∃ assignment : Assignment event,
            Holds services (services.clock []) relay assignment feed) := by
  refine ⟨plainItems services (services.clock []) feed, ?_, ?_⟩
  · rw [compile_of_isPlain hplain]
  · intro relay event
    simp only [selects_iff_exists_selectsAt]
    constructor
    · rintro ⟨assignment, hholds⟩
      obtain ⟨item, hitem, hselects⟩ := (plainItems_select feed).1 hholds
      exact ⟨item, hitem, assignment, hselects⟩
    · rintro hapart ⟨item, hitem, assignment, hselects⟩
      exact ⟨assignment, (plainItems_select feed).2 hapart ⟨item, hitem, hselects⟩⟩

/-- An intersection of three children, one of which is a relay leaf; the last takes in the events of
the hour before the present. -/
def threeChildren : Feed :=
  .intersection [.selector (.kind [1]), .selector (.relay ["wss://one.example"]),
    .union [.selector (.tag "#t" ["a"]), .scope [.follows], .time [⟨some 3600, none, [.since]⟩]]]

/-- At three children with one relay leaf, both halves meet. -/
theorem compile_exact_three_children :
    threeChildren.isPlain = true ∧ threeChildren.relaysApart = true ∧
      ∃ items, (compile (Services.offline { user := none } 10000) threeChildren).result =
          .ok items ∧
        ∀ (relay : String) (event : Event), (∃ item ∈ items, item.Selects relay event) ↔
          ∃ assignment : Assignment event,
            Holds (Services.offline { user := none } 10000) 10000 relay assignment
              threeChildren := by
  have hplain : threeChildren.isPlain = true := by decide
  have hapart : threeChildren.relaysApart = true := by decide
  obtain ⟨items, hresult, hexact⟩ :=
    compile_exact (Services.offline { user := none } 10000) threeChildren hplain
  exact ⟨hplain, hapart, items, hresult, fun relay event =>
    ⟨(hexact relay event).2 hapart, (hexact relay event).1⟩⟩

end RelayFeeds.Feed
