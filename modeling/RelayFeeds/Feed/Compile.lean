import RelayFeeds.Feed.Services
import RelayFeeds.Request.Combine

/-! # Compiling feeds — from a tree to request items

Leaves become filters or relays directly, unions and intersections combine the items of their
children. List and provider nodes first ask for events, whose tags become selectors that are
compiled as a union. Children are compiled one after another and the first error ends the call. -/

namespace RelayFeeds.Feed

/-- The filter of a time window at a present time; none when it has no bounds. -/
def windowFilter? (now : UInt64) (window : TimeWindow) : Option Filter :=
  match window.resolve now with
  | (none, none) => none
  | (since, till) => some { since, till }

/-- The items of time windows at a present time; a window without bounds is dropped. -/
def timeItems (windows : List TimeWindow) (now : UInt64) : List RequestItem :=
  [.ofFilters (windows.filterMap (windowFilter? now))]

/-- The items of scopes. -/
def scopeItems (services : Services) (scopes : List Scope) : List RequestItem :=
  let authors := SortedSet.ofList (scopes.flatMap (fun scope => (services.scope scope).toList))
  [.ofFilters [{ authors := some authors }]]

/-- The items of trust windows. -/
def trustItems (services : Services) (windows : List TrustWindow) : List RequestItem :=
  [.ofFilters (windows.map (fun window => { authors := some (services.trust window) }))]

/-- The items of selectors, as a union. -/
def selectorItems (selectors : List Selector) : List RequestItem :=
  RequestItem.union (selectors.flatMap Selector.items)

/-- The selectors of a provider response; none when it cannot be read. -/
def responseSelectors (event : Event) (mappings : List TagMapping) : List Selector :=
  match responseTags? event with
  | some tags => TagMapping.selectors tags mappings
  | none => []

/-- Asks every provider in order for its selectors. -/
def askProviders (services : Services) : List ProviderItem → Session (List Selector)
  | [] => return []
  | item :: rest => do
    let event ← services.askProvider item.request
    let others ← askProviders services rest
    return responseSelectors event item.mappings ++ others

/-- Events by the text of their address, the last of an address counting. -/
def byAddress (events : List Event) : SortedMap String Event :=
  SortedMap.ofList (events.map (fun event => ((Address.ofEvent event).text, event)))

/-- The selectors of the lists among some events that an item names. -/
def listSelectors (found : SortedMap String Event) (item : ListItem) : List Selector :=
  (item.addresses.filterMap found.find?).flatMap (fun event =>
    TagMapping.selectors event.tagTexts item.mappings)

/-- Asks for the lists that some items name and takes their selectors; nothing is asked when no list
is named. -/
def askLists (services : Services) (items : List ListItem) : Session (List Selector) := do
  let addresses := Filter.distinct (items.flatMap ListItem.addresses)
  let events ←
    if addresses.isEmpty then pure []
    else services.askEvents ⟨[], nameFilters addresses⟩
  return items.flatMap (listSelectors (byAddress events))

mutual

/-- The items of a node at a present time. -/
def compileNode (services : Services) (now : UInt64) : Feed → Session (List RequestItem)
  | .union feeds => do
    let compiled ← compileNodes services now feeds
    return RequestItem.union compiled.flatten
  | .intersection feeds => do
    let compiled ← compileNodes services now feeds
    return RequestItem.intersection compiled
  | .selector chosen => return chosen.items
  | .scope scopes => return scopeItems services scopes
  | .time windows => return timeItems windows now
  | .trust windows => return trustItems services windows
  | .provider items => do
    let selectors ← askProviders services items
    return selectorItems selectors
  | .list items => do
    let selectors ← askLists services items
    return selectorItems selectors
  | .unknown tag _ => throw (.unsupportedFeedType tag)

/-- The items of nodes one after another. -/
def compileNodes (services : Services) (now : UInt64) : List Feed → Session (List (List RequestItem))
  | [] => return []
  | feed :: rest => do
    let items ← compileNode services now feed
    let others ← compileNodes services now rest
    return items :: others

end

/-- What compiling a feed came to: the calls made, and the items or the error. -/
structure Outcome where
  /-- The calls to services in order. -/
  calls : List Call
  /-- The items, or why there are none. -/
  result : Except FeedError (List RequestItem)

/-- The items of a feed, relative times being resolved against one present time read at the
start. -/
def session (services : Services) (feed : Feed) : Session (List RequestItem) := do
  let now ← services.readClock
  compileNode services now feed

/-- Compiles a feed. -/
def compile (services : Services) (feed : Feed) : Outcome :=
  let ended := ((session services feed).run).run []
  ⟨ended.2, ended.1⟩

end RelayFeeds.Feed
