import RelayFeeds.Filter.Algebra
import RelayFeeds.Text.Numeral

/-! # Addresses — coordinates of replaceable events

A replaceable event is named by its kind, its author and an identifier, written
`kind:author:identifier`. The identifier may contain colons itself. A list of names mixes addresses
with plain event ids; whatever does not parse as an address counts as an id. -/

namespace RelayFeeds

/-- The coordinate of a replaceable event. -/
structure Address where
  /-- The kind. -/
  kind : UInt16
  /-- The author. -/
  author : String
  /-- The identifier, empty when the event has none. -/
  identifier : String
  deriving DecidableEq

namespace Address

/-- The text of an address. -/
def text (address : Address) : String :=
  String.ofList (Text.numeral address.kind.toNat ++ ':' :: address.author.toList ++
    ':' :: address.identifier.toList)

/-- The parts of a text before and after its first colon. -/
def splitColon? : List Char → Option (List Char × List Char)
  | [] => none
  | ':' :: rest => some ([], rest)
  | c :: rest => (splitColon? rest).map (fun parts => (c :: parts.1, parts.2))

/-- The address that a text spells. -/
def parse? (text : String) : Option Address := do
  let (kind, rest) ← splitColon? text.toList
  let (author, identifier) ← splitColon? rest
  let kind ← Text.readUInt16? (String.ofList kind)
  if author.isEmpty then none
  else some ⟨kind, String.ofList author, String.ofList identifier⟩

/-- The address of an event: its first `d` tag gives the identifier. -/
def ofEvent (event : Event) : Address where
  kind := event.kind
  author := event.author.text
  identifier :=
    match event.tags.find? (fun tag => tag.name == "d") with
    | some tag => tag.value?.getD ""
    | none => ""

/-- The filter of the events at an address. -/
def filter (address : Address) : Filter :=
  let located : Filter :=
    { kinds := some (SortedSet.singleton address.kind)
      authors := some (SortedSet.singleton address.author) }
  if address.identifier.isEmpty then located else located.withTag "d" [address.identifier]

end Address

/-- The filters of the events that ids and addresses name: one for all ids, then the union form of
those of the addresses. -/
def nameFilters (names : List String) : List Filter :=
  let ids := names.filter (fun name => (Address.parse? name).isNone)
  let addressed := (names.filterMap Address.parse?).map Address.filter
  let idFilters : List Filter :=
    if ids.isEmpty then [] else [{ ids := some (SortedSet.ofList ids) }]
  idFilters ++ Filter.union addressed

end RelayFeeds
