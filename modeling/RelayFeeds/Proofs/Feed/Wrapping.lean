import RelayFeeds.Proofs.Feed.Exactness
import RelayFeeds.Proofs.Request.Routing

/-! # A union of one feed

A feed and the union of it alone ask for the same events wherever their items name relays or leave
them open. They part at an item with an empty list of relays, which a relay leaf without relays
gives: the router sends it to the fallback relays, and a union has no relay to gather it under.

* **`relays_ne_nil_of_mem_plainItems`** — where every relay leaf lists a relay, no item has an empty
  list of relays.
* **`plan_union_singleton`** — the plan of the feed has what its items reach, the plan of the union
  what those of them reach whose list of relays is not empty.
* **`wrapping_loses_fallback_pair`** — a feed that loses all it asks for. -/

namespace RelayFeeds.Feed

open RequestItem

/-- Whether a node lists a relay, if it is a relay leaf. -/
def listsRelay : Feed → Bool
  | .selector (.relay relays) => !relays.isEmpty
  | _ => true

/-- Whether every relay leaf of a feed lists a relay. -/
def relaysListed (feed : Feed) : Bool := feed.nodes.all listsRelay

/-- The relay leaves of an intersection list relays when those of its children do. -/
@[simp] theorem relaysListed_intersection (feeds : List Feed) :
    relaysListed (.intersection feeds) = feeds.all relaysListed := by
  rw [relaysListed, all_nodes]
  rfl

variable {services : Services} {now : UInt64}

/-- **Where every relay leaf lists a relay, no item has an empty list of relays.** -/
theorem relays_ne_nil_of_mem_plainItems (feed : Feed) (h : feed.relaysListed = true) :
    ∀ item ∈ plainItems services now feed, item.relays ≠ some [] := by
  have hfilters : ∀ filters : List Filter, (ofFilters filters).relays ≠ some [] := by
    rintro filters ⟨⟩
  induction feed using childrenInduction with
  | union feeds _ =>
    intro item hitem
    rw [plainItems_union] at hitem
    exact relays_ne_nil_of_mem_union hitem
  | intersection feeds ih =>
    rw [relaysListed_intersection, List.all_eq_true] at h
    intro item hitem
    rw [plainItems_intersection] at hitem
    refine relays_of_mem_intersection narrowRelays_ne_nil ?_ hitem
    rw [List.forall_mem_map]
    intro feed hfeed
    exact ih feed hfeed (h feed hfeed)
  | selector chosen =>
    cases chosen with
    | relay relays =>
      refine List.forall_mem_singleton.mpr ?_
      rintro ⟨⟩
      cases h
    | address names => exact List.forall_mem_singleton.mpr (hfilters _)
    | author authors => exact List.forall_mem_singleton.mpr (hfilters _)
    | id ids => exact List.forall_mem_singleton.mpr (hfilters _)
    | kind kinds => exact List.forall_mem_singleton.mpr (hfilters _)
    | tag key values => exact List.forall_mem_singleton.mpr (hfilters _)
    | search searches => exact List.forall_mem_singleton.mpr (hfilters _)
  | scope scopes => exact List.forall_mem_singleton.mpr (hfilters _)
  | time windows => exact List.forall_mem_singleton.mpr (hfilters _)
  | trust windows => exact List.forall_mem_singleton.mpr (hfilters _)
  | provider items => exact fun _ h => absurd h List.not_mem_nil
  | list items => exact fun _ h => absurd h List.not_mem_nil
  | unknown tag arguments => exact fun _ h => absurd h List.not_mem_nil

/-- The items of a union of one feed are the union of its items. -/
theorem plainItems_union_singleton (feed : Feed) :
    plainItems services now (.union [feed]) = RequestItem.union (plainItems services now feed) := by
  rw [plainItems_union, List.flatMap_singleton]

/-- **Wrapping a feed in a union of one loses the items with an empty list of relays, and nothing
else.** Both compile. For the plans of their routed items, the feed's plan subscribes to the pairs
that some item reaches, and the union's plan to those that some item reaches whose list of relays is
not empty. So the feed's plan has in addition what an item with an empty list of relays reaches, which
needs a fallback relay, and both subscribe to the same pairs where every relay leaf lists a relay or
there are no fallback relays. -/
theorem plan_union_singleton (services : Services) {feed : Feed} (hplain : feed.isPlain = true) :
    ∃ items wrapped, (compile services feed).result = .ok items ∧
      (compile services (.union [feed])).result = .ok wrapped ∧
      ∀ (fallback : List String) (relay : String) (event : Event),
        (Subscribes (plan (routed fallback items)) relay event ↔
          ∃ item ∈ items, item.Reaches fallback relay event) ∧
        (Subscribes (plan (routed fallback wrapped)) relay event ↔
          ∃ item ∈ items, item.relays ≠ some [] ∧ item.Reaches fallback relay event) ∧
        (Subscribes (plan (routed fallback items)) relay event ↔
          Subscribes (plan (routed fallback wrapped)) relay event ∨
            relay ∈ fallback ∧
              ∃ item ∈ items, item.relays = some [] ∧ item.Reaches fallback relay event) ∧
        (feed.relaysListed = true ∨ fallback = [] →
          (Subscribes (plan (routed fallback items)) relay event ↔
            Subscribes (plan (routed fallback wrapped)) relay event)) := by
  have hunion : isPlain (.union [feed]) = true := by simp [hplain]
  refine ⟨_, _, by rw [compile_of_isPlain hplain], by rw [compile_of_isPlain hunion], ?_⟩
  intro fallback relay event
  rw [plainItems_union_singleton, subscribes_plan, subscribes_plan, subscribes_routed,
    subscribes_routed, exists_mem_union_reaches]
  have hexact : (∃ item ∈ plainItems services (services.clock []) feed,
        item.Reaches fallback relay event) ↔
      (∃ item ∈ plainItems services (services.clock []) feed,
        item.relays ≠ some [] ∧ item.Reaches fallback relay event) ∨
      relay ∈ fallback ∧ ∃ item ∈ plainItems services (services.clock []) feed,
        item.relays = some [] ∧ item.Reaches fallback relay event := by
    constructor
    · rintro ⟨item, hitem, hreaches⟩
      by_cases hempty : item.relays = some []
      · -- an empty list names no relay, so that the relay is a fallback one
        right
        obtain ⟨relays, hrelays, hmem⟩ | ⟨-, hfallback⟩ := hreaches.relays
        · rw [hempty] at hrelays
          cases hrelays
          cases hmem
        · exact ⟨hfallback, item, hitem, hempty, hreaches⟩
      · exact Or.inl ⟨item, hitem, hempty, hreaches⟩
    · rintro (⟨item, hitem, -, hreaches⟩ | ⟨-, item, hitem, -, hreaches⟩)
      · exact ⟨item, hitem, hreaches⟩
      · exact ⟨item, hitem, hreaches⟩
  refine ⟨Iff.rfl, Iff.rfl, hexact, ?_⟩
  rintro (hlisted | rfl)
  · rw [hexact, or_iff_left]
    rintro ⟨-, item, hitem, hempty, -⟩
    exact relays_ne_nil_of_mem_plainItems feed hlisted item hitem hempty
  · rw [hexact, or_iff_left]
    rintro ⟨hfallback, -⟩
    cases hfallback

/-- At a feed whose relay leaf lists a relay, the two plans subscribe to the same pairs. -/
theorem plan_union_three_children :
    threeChildren.isPlain = true ∧ threeChildren.relaysListed = true ∧
      ∃ items wrapped,
        (compile (Services.offline { user := none } 10000) threeChildren).result = .ok items ∧
        (compile (Services.offline { user := none } 10000) (.union [threeChildren])).result =
          .ok wrapped ∧
        ∀ (fallback : List String) (relay : String) (event : Event),
          Subscribes (plan (routed fallback items)) relay event ↔
            Subscribes (plan (routed fallback wrapped)) relay event := by
  have hplain : threeChildren.isPlain = true := by decide
  have hlisted : threeChildren.relaysListed = true := by decide
  obtain ⟨items, wrapped, hitems, hwrapped, hplans⟩ :=
    plan_union_singleton (Services.offline { user := none } 10000) hplain
  exact ⟨hplain, hlisted, items, wrapped, hitems, hwrapped, fun fallback relay event =>
    (hplans fallback relay event).2.2.2 (Or.inl hlisted)⟩

/-- Notes on no relay: an intersection with a relay leaf that lists none. -/
def notesOnNoRelay : Feed := .intersection [.selector (.kind [1]), .selector (.relay [])]

/-- A note without tags or text. -/
def emptyNote : Event where
  id := HexKey.zero
  author := HexKey.zero
  createdAt := 0
  kind := 1
  tags := []
  content := ""

/-- **A union of one feed loses what the feed asks of a fallback relay.** The one item of the feed has
an empty list of relays, so its notes are subscribed to at the fallback relay; the union has no item
at all. -/
theorem wrapping_loses_fallback_pair :
    ∃ items wrapped,
      (compile (Services.offline { user := none } 0) notesOnNoRelay).result = .ok items ∧
      (compile (Services.offline { user := none } 0) (.union [notesOnNoRelay])).result =
        .ok wrapped ∧
      Subscribes (plan (routed ["wss://one.example"] items)) "wss://one.example" emptyNote ∧
      ¬ Subscribes (plan (routed ["wss://one.example"] wrapped)) "wss://one.example" emptyNote := by
  have hitems : plainItems (Services.offline { user := none } 0) 0 notesOnNoRelay =
      [⟨some [{ kinds := some (SortedSet.singleton 1) }], some []⟩] := by decide +kernel
  have hwrapped : plainItems (Services.offline { user := none } 0) 0 (.union [notesOnNoRelay]) =
      [] := by
    rw [plainItems_union_singleton, hitems]
    rfl
  refine ⟨[⟨some [{ kinds := some (SortedSet.singleton 1) }], some []⟩], [], ?_, ?_, ?_, ?_⟩
  · rw [compile_of_isPlain (by decide)]
    exact congrArg Except.ok hitems
  · rw [compile_of_isPlain (by decide)]
    exact congrArg Except.ok hwrapped
  · rw [subscribes_plan, subscribes_routed]
    refine ⟨_, List.mem_singleton_self _, rfl, Or.inr ⟨Or.inr rfl, List.mem_singleton_self _⟩, ?_⟩
    rintro _ ⟨⟩
    decide
  · rintro ⟨s, hs, -⟩
    cases hs

end RelayFeeds.Feed
