import RelayFeeds.Address
import RelayFeeds.Request.Basic

/-! # Selectors — leaves that name their events outright

A selector lists ids, authors, kinds, addresses, relays, tag values or searches. It needs nothing
from outside to become request items. -/

namespace RelayFeeds

/-- A leaf of a feed that stands for filters or relays directly. -/
inductive Selector where
  /-- Events at addresses, or with ids among them. -/
  | address (names : List String)
  /-- Events by authors. -/
  | author (authors : List String)
  /-- Events with ids. -/
  | id (ids : List String)
  /-- Events of kinds. -/
  | kind (kinds : List UInt16)
  /-- Anything on relays. -/
  | relay (relays : List String)
  /-- Events with one of some values under a tag key. -/
  | tag (key : String) (values : List String)
  /-- Events with the words of one of some searches. -/
  | search (searches : List String)
  deriving DecidableEq

namespace Selector

/-- The type tag of a selector. -/
def typeName : Selector → String
  | .address _ => "address"
  | .author _ => "author"
  | .id _ => "id"
  | .kind _ => "kind"
  | .relay _ => "relay"
  | .tag _ _ => "tag"
  | .search _ => "search"

/-- The request items of a selector. -/
def items : Selector → List RequestItem
  | .address names => [.ofFilters (nameFilters names)]
  | .author authors => [.ofFilters [{ authors := some (SortedSet.ofList authors) }]]
  | .id ids => [.ofFilters [{ ids := some (SortedSet.ofList ids) }]]
  | .kind kinds => [.ofFilters [{ kinds := some (SortedSet.ofList kinds) }]]
  | .relay relays => [.ofRelays relays]
  | .tag key values => [.ofFilters [Filter.all.withTag key values]]
  | .search searches => [.ofFilters (searches.map (fun search => { search := some search }))]

/-- The arguments of a selector after its type tag. -/
def arguments : Selector → List Json
  | .address values | .author values | .id values | .relay values | .search values =>
    values.map .string
  | .kind kinds => kinds.map (fun kind => .number (.ofUInt16 kind))
  | .tag key values => .string key :: values.map .string

end Selector

end RelayFeeds
