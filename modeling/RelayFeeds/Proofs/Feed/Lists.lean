import RelayFeeds.Proofs.Address
import RelayFeeds.Proofs.Feed.Calls

/-! # Lists — entries and the events that answer them

A list node asks once for all that its entries name. Of the events that come back the last of each
address counts, and an entry stands for the event whose address has the entry as its text. The
filters of an entry can match more than that: an address without an identifier is asked for without
one, and an event may have several `d` tags. What they match beyond the address is not looked up.

* **`find?_byAddress`** — the last event of an address is found under its text.
* **`compile_list`** — a list node whose request is answered compiles the tags of the events found.
* **`compile_list_entry`** — an entry and the one event that is delivered for it.
* **`list_drops_event_with_identifier`** — an event that the filters of an entry match and that is not
  found under it. -/

namespace RelayFeeds

namespace Feed

/-! ### Looking up -/

/-- **The last event of an address is found under the text of the address.** -/
theorem find?_byAddress (events : List Event) (text : String) :
    (byAddress events).find? text =
      (events.filter (fun event => (Address.ofEvent event).text = text)).getLast? := by
  rw [byAddress, SortedMap.find?_ofList, List.filter_map, List.getLast?_map, Option.map_map]
  exact Option.map_id'

/-- One event is found under the text of its address and nowhere else. -/
theorem listSelectors_singleton (event : Event) (text : String) (mappings : List TagMapping) :
    listSelectors (byAddress [event]) ⟨[text], mappings⟩ =
      if text = (Address.ofEvent event).text then TagMapping.selectors event.tagTexts mappings
      else [] := by
  simp only [listSelectors, List.filterMap_cons, List.filterMap_nil, find?_byAddress]
  by_cases htext : text = (Address.ofEvent event).text
  · simp [htext]
  · simp [htext, Ne.symm htext]

/-! ### Compiling -/

variable {services : Services}

/-- Selectors compile as a union to their items. -/
theorem compile_selectors (services : Services) (selectors : List Selector) :
    compile services (.union (selectors.map .selector)) = ⟨[.clock], .ok (selectorItems selectors)⟩ := by
  rw [compile_eq_run, compileNode_selectors]
  rfl

section Request

variable {items : List ListItem} {events : List Event}

/-- Asking for lists that are delivered takes the selectors of the events found. -/
theorem run_askLists {earlier : List Call} (hnamed : items.flatMap ListItem.addresses ≠ [])
    (hanswer : services.request earlier
      ⟨[], nameFilters (items.flatMap ListItem.addresses).eraseDups⟩ = .ok events) :
    (askLists services items).run.run earlier =
      (.ok (items.flatMap (listSelectors (byAddress events))),
        earlier ++ [.request ⟨[], nameFilters (items.flatMap ListItem.addresses).eraseDups⟩]) := by
  have hasked : ((items.flatMap ListItem.addresses).eraseDups).isEmpty = false := by
    cases hflat : items.flatMap ListItem.addresses with
    | nil => exact absurd hflat hnamed
    | cons address rest => rw [List.eraseDups_cons, List.isEmpty_cons]
  rw [askLists, Filter.distinct_eq_eraseDups]
  simp only [hasked, Bool.false_eq_true, if_false]
  rw [Session.run_bind, run_askEvents, hanswer]
  rfl

/-- **A list node whose request is answered compiles the tags of the events found.** -/
theorem compile_list (hnamed : items.flatMap ListItem.addresses ≠ [])
    (hanswer : services.request [.clock]
      ⟨[], nameFilters (items.flatMap ListItem.addresses).eraseDups⟩ = .ok events) :
    (compile services (.list items)).result =
      .ok (selectorItems (items.flatMap (listSelectors (byAddress events)))) := by
  rw [compile_eq_run, compileNode, Session.run_bind, run_askLists hnamed hanswer]
  rfl

end Request

/-- **An entry and the one event that is delivered for it.** When the entry is the text of the event's
address, the filters of the entry match the event and the list compiles, to what the selectors that
the event's tags become compile to as a union. When it is not a spelling of the event's address at
all, the list compiles to nothing. -/
theorem compile_list_entry {event : Event} {text : String} (mappings : List TagMapping)
    (hdelivers : services.request [.clock] ⟨[], nameFilters [text]⟩ = .ok [event]) :
    (text = (Address.ofEvent event).text →
      Filter.anyMatch (nameFilters [text]) event = true ∧
        ∃ items, (compile services (.list [⟨[text], mappings⟩])).result = .ok items ∧
          (compile services (.union
            ((TagMapping.selectors event.tagTexts mappings).map .selector))).result = .ok items) ∧
      (Address.parse? text ≠ some (Address.ofEvent event) →
        (compile services (.list [⟨[text], mappings⟩])).result = .ok []) := by
  have hlist : (compile services (.list [⟨[text], mappings⟩])).result =
      .ok (selectorItems (listSelectors (byAddress [event]) ⟨[text], mappings⟩)) := by
    have hnames : [(⟨[text], mappings⟩ : ListItem)].flatMap ListItem.addresses = [text] := rfl
    have hresult := @compile_list services [⟨[text], mappings⟩] [event]
    rw [hnames, List.flatMap_singleton] at hresult
    exact hresult (List.cons_ne_nil _ _) hdelivers
  rw [hlist, listSelectors_singleton]
  constructor
  · rintro rfl
    refine ⟨Address.anyMatch_nameFilters_ofEvent event, _, rfl, ?_⟩
    rw [if_pos rfl, compile_selectors]
  · intro hparse
    have htext : text ≠ (Address.ofEvent event).text := by
      rintro rfl
      exact hparse (Address.parse?_text_ofEvent event)
    rw [if_neg htext]
    rfl

/-- Services that answer every request for stored events with the same ones. -/
def delivering (events : List Event) : Services :=
  { Services.offline { user := none } 0 with request := fun _ _ => .ok events }

/-- A list of one friend. -/
def friends : Event where
  id := HexKey.zero
  author := HexKey.zero
  createdAt := 0
  kind := 30000
  tags := [⟨"d", ["friends"]⟩, ⟨"p", ["alice"]⟩]
  content := ""

/-- The items of all events of Alice. -/
def aliceItems : List RequestItem := [.ofFilters [{ authors := some (SortedSet.ofList ["alice"]) }]]

/-- The friends on the list become a selector of authors. -/
theorem compile_friends : (compile (delivering [friends]) (.union
    ((TagMapping.selectors friends.tagTexts [⟨"p", .author⟩]).map .selector))).result =
      .ok aliceItems := by
  rw [compile_selectors]
  exact congrArg Except.ok (by decide +kernel)

/-- At a list of friends that is named by its address. -/
theorem compile_list_entry_friends :
    (delivering [friends]).request [.clock] ⟨[], nameFilters [(Address.ofEvent friends).text]⟩ =
      .ok [friends] ∧
    Filter.anyMatch (nameFilters [(Address.ofEvent friends).text]) friends = true ∧
    (compile (delivering [friends])
      (.list [⟨[(Address.ofEvent friends).text], [⟨"p", .author⟩]⟩])).result = .ok aliceItems := by
  have hdelivers : (delivering [friends]).request [.clock]
      ⟨[], nameFilters [(Address.ofEvent friends).text]⟩ = .ok [friends] := rfl
  obtain ⟨hmatch, items, hlist, hunion⟩ :=
    (compile_list_entry [⟨"p", .author⟩] hdelivers).1 rfl
  have hitems : .ok items = (.ok aliceItems : Except FeedError (List RequestItem)) :=
    hunion.symm.trans compile_friends
  exact ⟨rfl, hmatch, hlist.trans hitems⟩

/-- **An event with an identifier is dropped when it is asked for without one.** The filters of the
entry match it, but it lies at another address. -/
theorem list_drops_event_with_identifier :
    Filter.anyMatch (nameFilters ["30000:" ++ HexKey.zero.text ++ ":"]) friends = true ∧
    (delivering [friends]).request [.clock]
      ⟨[], nameFilters ["30000:" ++ HexKey.zero.text ++ ":"]⟩ = .ok [friends] ∧
    (compile (delivering [friends])
      (.list [⟨["30000:" ++ HexKey.zero.text ++ ":"], [⟨"p", .author⟩]⟩])).result = .ok [] ∧
    (compile (delivering [friends]) (.union
      ((TagMapping.selectors friends.tagTexts [⟨"p", .author⟩]).map .selector))).result =
        .ok aliceItems := by
  refine ⟨?_, rfl, rfl, compile_friends⟩
  decide +kernel

end Feed

end RelayFeeds
