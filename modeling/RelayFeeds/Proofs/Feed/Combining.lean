import RelayFeeds.Proofs.Feed.Calls
import RelayFeeds.Proofs.Request.Narrowing
import RelayFeeds.Proofs.Request.Routing
import RelayFeeds.Proofs.Request.UnionForm

/-! # Unions and intersections of compiled feeds

A union node lays out what its children ask for, an intersection node narrows their items by one
another. The layout is the same however unions are nested; what a narrowed item asks of relays is told
by the relay lists of its combination.

* **`union_lossless_canonical`** — unions lose nothing, have one layout and do not change when they
  are nested.
* **`compile_intersection_combinations`** — the items of an intersection are the narrowed
  combinations, and what relays they name. -/

namespace RelayFeeds

open Ordered (Ascending)

/-! ### Unions -/

/-- A union within a union compiles as the inner one. -/
theorem Feed.compileNode_union_union {services : Services} {now : UInt64} (feeds : List Feed) :
    compileNode services now (.union [.union feeds]) = compileNode services now (.union feeds) := by
  rw [compileNode, compileNodes, compileNodes, compileNode]
  simp only [bind_assoc, pure_bind, List.flatten_cons, List.flatten_nil, List.append_nil,
    RequestItem.union_union]

namespace RequestItem

/-- **A union loses nothing and has one layout.** Its items select what the given ones select, and
every pair of a relay and a filter of a given item is covered in the relay's item. There is one item
for each relay that is named along with filters, in ascending order of the relays, with that relay
alone and some filters; then one item of filters without relays at most; then one item of relays
without filters at most, each listed once. A further union changes nothing, so that a union within a
union compiles as the inner one, with the same calls and the same result. -/
theorem union_lossless_canonical (items : List RequestItem) :
    ((∀ (relay : String) (event : Event),
        (∃ item ∈ union items, item.Selects relay event) ↔
          ∃ item ∈ items, item.Selects relay event) ∧
      ∀ relays filters, (⟨some filters, some relays⟩ : RequestItem) ∈ items →
        ∀ relay ∈ relays, ∀ filter ∈ filters,
          ∃ merged, (⟨some merged, some [relay]⟩ : RequestItem) ∈ union items ∧
            ∃ other ∈ merged, Filter.covers other filter = true) ∧
    ((∃ (buckets : List (String × List Filter)) (anywhere : Option (List Filter))
        (whole : Option (List String)),
        union items = buckets.map (fun bucket => ⟨some bucket.2, some [bucket.1]⟩) ++
          (anywhere.map (fun filters => ⟨some filters, none⟩)).toList ++
          (whole.map (fun relays => ⟨none, some relays⟩)).toList ∧
        Ascending (buckets.map Prod.fst) ∧
        (∀ relay, relay ∈ buckets.map Prod.fst ↔
          ∃ relays filters, (⟨some filters, some relays⟩ : RequestItem) ∈ items ∧ relay ∈ relays ∧
            filters ≠ []) ∧
        (∀ bucket ∈ buckets, bucket.2 ≠ []) ∧
        (∀ filters, anywhere = some filters → filters ≠ []) ∧
        ∀ relays, whole = some relays → relays ≠ [] ∧ relays.Nodup) ∧
      ∀ item ∈ union items, item.isNoop = false) ∧
    union (union items) = union items ∧
    ∀ (services : Services) (feeds : List Feed),
      Feed.compile services (.union [.union feeds]) = Feed.compile services (.union feeds) := by
  refine ⟨⟨fun relay event => exists_mem_union_selects, ?covered⟩, ⟨?layout, ?demands⟩,
    union_union items, ?nested⟩
  case covered =>
    intro relays filters hitem relay hrelay filter hfilter
    exact exists_mem_union_covers hitem hrelay hfilter
  case layout =>
    refine ⟨(unionForm items).buckets.entries, present (unionForm items).anywhere,
      present (unionForm items).whole, (items_unionForm items).symm,
      (unionForm items).buckets.ascending, ?relays, ?filters, ?anywhere, ?whole⟩
    case relays =>
      intro relay
      rw [← mem_keys_filtersByRelay, ← SortedMap.keys, SortedMap.mem_keys, SortedMap.mem_keys]
      simp [unionForm, SortedMap.find?_mapValues]
    case filters =>
      rintro ⟨relay, filters⟩ hbucket
      exact (unionForm items).buckets_ne_nil relay filters (SortedMap.mem_entries.mp hbucket)
    case anywhere =>
      intro filters hfilters
      exact (present_eq_some_iff.mp hfilters).1
    case whole =>
      intro relays hrelays
      obtain ⟨hne, rfl⟩ := present_eq_some_iff.mp hrelays
      exact ⟨hne, (unionForm items).whole_nodup⟩
  case demands =>
    intro item hitem
    exact isNoop_of_mem_union hitem
  case nested =>
    intro services feeds
    rw [Feed.compile_eq_run, Feed.compile_eq_run, Feed.compileNode_union_union]

end RequestItem

/-! ### Intersections -/

namespace Feed

open RequestItem (compatible narrow?)

variable {services : Services} {now : UInt64}

/-- Children that compile to lists of items make an intersection that compiles to theirs. -/
theorem compileNode_intersection_run {feeds : List Feed} {earlier later : List Call}
    {groups : List (List RequestItem)}
    (h : (compileNodes services now feeds).run.run earlier = (.ok groups, later)) :
    (compileNode services now (.intersection feeds)).run.run earlier =
      (.ok (RequestItem.intersection groups), later) := by
  rw [compileNode, Session.run_bind, h]
  rfl

/-- **The items of an intersection are its narrowed combinations.** Where the children compile to
items, the intersection does too: to the items, each of them once and none a no-op, that come from
narrowing an item of the first child by one item of each other child, all compatible with it. Such an
item names relays when one of its combination does. Where the relay lists of the combination share a
relay, it names those of the first list that are in all others, in the order of the first. Otherwise
it names those of one of the lists that are in all later ones: they are in the last list, and there
are some if the last list has some. -/
theorem compile_intersection_combinations {feeds : List Feed} {earlier later : List Call}
    {first : List RequestItem} {others : List (List RequestItem)}
    (h : (compileNodes services now feeds).run.run earlier = (.ok (first :: others), later)) :
    ∃ items, (compileNode services now (.intersection feeds)).run.run earlier = (.ok items, later) ∧
      items.Nodup ∧ (∀ item ∈ items, item.isNoop = false) ∧
      (∀ narrowed, narrowed ∈ items ↔
        ∃ item ∈ first, ∃ chosen,
          List.Forall₂ (fun further group => further ∈ group ∧ compatible item further = true)
            chosen others ∧
          narrow? item chosen = some narrowed) ∧
      ∀ item chosen narrowed, narrow? item chosen = some narrowed →
        (narrowed.relays = none ↔ ∀ other ∈ item :: chosen, other.relays = none) ∧
        ∀ list lists, (item :: chosen).filterMap RequestItem.relays = list :: lists →
          ((∃ relay, ∀ named ∈ list :: lists, relay ∈ named) →
            narrowed.relays =
              some (list.filter (fun relay => decide (∀ named ∈ lists, relay ∈ named)))) ∧
          ((¬ ∃ relay, ∀ named ∈ list :: lists, relay ∈ named) →
            ∃ relays, narrowed.relays = some relays ∧
              (∀ relay ∈ relays, relay ∈ (list :: lists).getLast (List.cons_ne_nil list lists)) ∧
              ((list :: lists).getLast (List.cons_ne_nil list lists) ≠ [] → relays ≠ []) ∧
              ∃ before source after, list :: lists = before ++ source :: after ∧
                relays = source.filter (fun relay => decide (∀ named ∈ after, relay ∈ named))) := by
  refine ⟨_, compileNode_intersection_run h, RequestItem.nodup_intersection _,
    fun item hitem => RequestItem.isNoop_of_mem_intersection hitem,
    fun narrowed => RequestItem.mem_intersection_cons, ?_⟩
  intro item chosen narrowed hnarrow
  refine ⟨RequestItem.relays_of_narrow?_eq_none_iff hnarrow, ?_⟩
  intro list lists hlists
  rw [RequestItem.relays_of_narrow?_eq hnarrow, hlists]
  constructor
  · rintro ⟨relay, hrelay⟩
    exact RequestItem.narrowLists_of_shared hrelay
  · intro _
    obtain ⟨before, source, after, hsplit, hleft⟩ := RequestItem.exists_narrowLists_eq list lists
    have hlast := List.dropLast_append_getLast (List.cons_ne_nil list lists)
    have hconcat := hleft
    rw [← hlast] at hconcat
    obtain ⟨hmem, hempty⟩ := RequestItem.narrowLists_concat hconcat
    exact ⟨_, hleft, hmem, fun hne hnil => hne (hempty.mp hnil), before, source, after, hsplit, rfl⟩

/-- The filter of notes. -/
def noteFilter : Filter := { kinds := some (SortedSet.ofList [1]) }

/-- At notes on two lists of relays that share one, the intersection asks for notes there alone. -/
theorem compile_intersection_notes_on_relays :
    (compileNodes (Services.offline { user := none } 0) 0
        [.selector (.kind [1]), .selector (.relay ["wss://a", "wss://b"]),
          .selector (.relay ["wss://b", "wss://c"])]).run.run [.clock] =
      (.ok [[.ofFilters [noteFilter]], [.ofRelays ["wss://a", "wss://b"]],
        [.ofRelays ["wss://b", "wss://c"]]], [.clock]) ∧
    ∃ items, (compileNode (Services.offline { user := none } 0) 0
        (.intersection [.selector (.kind [1]), .selector (.relay ["wss://a", "wss://b"]),
          .selector (.relay ["wss://b", "wss://c"])])).run.run [.clock] = (.ok items, [.clock]) ∧
      items.Nodup ∧ (∀ item ∈ items, item.isNoop = false) ∧
      ∃ narrowed ∈ items, narrowed.relays = some ["wss://b"] := by
  have hchildren : (compileNodes (Services.offline { user := none } 0) 0
      [.selector (.kind [1]), .selector (.relay ["wss://a", "wss://b"]),
        .selector (.relay ["wss://b", "wss://c"])]).run.run [.clock] =
      (.ok [[.ofFilters [noteFilter]], [.ofRelays ["wss://a", "wss://b"]],
        [.ofRelays ["wss://b", "wss://c"]]], [.clock]) := rfl
  obtain ⟨items, hrun, hnodup, hdemands, hitems, hrelays⟩ :=
    compile_intersection_combinations hchildren
  have hnarrow : narrow? (.ofFilters [noteFilter])
      [.ofRelays ["wss://a", "wss://b"], .ofRelays ["wss://b", "wss://c"]] =
        some ⟨some [noteFilter], some ["wss://b"]⟩ := by decide
  refine ⟨hchildren, items, hrun, hnodup, hdemands, _, (hitems _).mpr
    ⟨_, List.mem_singleton_self _, _, ?_, hnarrow⟩, ?_⟩
  · exact .cons (by decide) (.cons (by decide) .nil)
  · rw [((hrelays _ _ _ hnarrow).2 _ _ rfl).1 ⟨"wss://b", by decide⟩]
    decide

/-- **A relay that a list names twice is named twice, although the last list names it once.** No relay
is in all three lists, so the second takes the place of the first, and the third keeps both of its
entries. -/
theorem intersection_repeats_relay :
    (compileNodes (Services.offline { user := none } 0) 0
        [.selector (.kind [1]), .selector (.relay ["wss://a"]),
          .selector (.relay ["wss://b", "wss://b"]), .selector (.relay ["wss://b"])]).run.run
        [.clock] =
      (.ok [[.ofFilters [noteFilter]], [.ofRelays ["wss://a"]],
        [.ofRelays ["wss://b", "wss://b"]], [.ofRelays ["wss://b"]]], [.clock]) ∧
    (compile (Services.offline { user := none } 0)
        (.intersection [.selector (.kind [1]), .selector (.relay ["wss://a"]),
          .selector (.relay ["wss://b", "wss://b"]), .selector (.relay ["wss://b"])])).result =
      .ok [⟨some [noteFilter], some ["wss://b", "wss://b"]⟩] ∧
    (¬ ∃ relay, ∀ named ∈ [["wss://a"], ["wss://b", "wss://b"], ["wss://b"]], relay ∈ named) ∧
    ¬ ["wss://b", "wss://b"].Sublist ["wss://b"] := by
  refine ⟨rfl, rfl, ?_, by decide⟩
  rintro ⟨relay, hnamed⟩
  simp at hnamed
  obtain ⟨rfl, hne⟩ := hnamed
  exact absurd hne (by decide)

end Feed

end RelayFeeds
