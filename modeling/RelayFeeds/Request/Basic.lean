import RelayFeeds.Filter.Codec

/-! # Requests — units of demand and the subscriptions they become

A request item asks for the events of some filters on some relays. Absent filters mean anything on
these relays, absent relays mean wherever the router sends it; an item with neither asks for
nothing. A subscription has both. -/

namespace RelayFeeds

/-- A unit of demand; its filters are alternatives. -/
structure RequestItem where
  /-- The filters, when the demand is limited to some. -/
  filters : Option (List Filter) := none
  /-- The relays, when the demand is bound to some. -/
  relays : Option (List String) := none
  deriving DecidableEq

/-- Filters to run against a set of relays. -/
structure Subscription where
  /-- The relays. -/
  relays : List String
  /-- The filters, as alternatives. -/
  filters : List Filter
  deriving DecidableEq

/-- A request to a data vending machine. -/
structure ProviderRequest where
  /-- The kind of the request event. -/
  kind : UInt16
  /-- The tags of the request event. -/
  tags : List (List String)
  /-- The relays to publish on, when there are preferred ones. -/
  relays : Option (List String)
  deriving DecidableEq

namespace RequestItem

/-- The item of some filters on any relay. -/
def ofFilters (filters : List Filter) : RequestItem := { filters := some filters }

/-- The item of anything on some relays. -/
def ofRelays (relays : List String) : RequestItem := { relays := some relays }

/-- Whether the item asks for nothing. -/
def isNoop (item : RequestItem) : Bool := item.filters.isNone && item.relays.isNone

/-- The subscription of an item that is sent to fallback relays unless it names relays; `none` when
it asks for nothing or no relay is left. -/
def subscription? (item : RequestItem) (fallback : List String) : Option Subscription :=
  let relays := match item.relays with
    | some (relay :: relays) => relay :: relays
    | _ => fallback
  if item.isNoop || relays.isEmpty then none
  else some ⟨relays, item.filters.getD [Filter.all]⟩

end RequestItem

/-! ### JSON forms -/

/-- The array of some filters. -/
def filtersJson (filters : List Filter) : Json := .array (filters.map Filter.toJson)

/-- The array of some tags. -/
def tagsJson (tags : List (List String)) : Json := .array (tags.map Json.strings)

variable {τ : Type} [Source τ]

/-- Decodes a list of texts. -/
def decodeTexts : Decoder τ (List String) := Decoder.list Decoder.string

namespace RequestItem

/-- An item as an object of what is present. -/
def toJson (item : RequestItem) : Json :=
  .object (Json.optional "filters" filtersJson item.filters ++
    Json.optional "relays" Json.strings item.relays)

/-- The fields of an item. -/
def record : Record τ RequestItem :=
  Record.start RequestItem.mk
    |>.field ⟨"filters", Decoder.nullable (Decoder.list Filter.decode), some none⟩
    |>.field ⟨"relays", Decoder.nullable decodeTexts, some none⟩

/-- Decodes an item. -/
def decode : Decoder τ RequestItem := record.decode "RequestItem"

end RequestItem

namespace Subscription

/-- A subscription as an object. -/
def toJson (subscription : Subscription) : Json :=
  .object [("relays", Json.strings subscription.relays),
    ("filters", filtersJson subscription.filters)]

/-- The fields of a subscription. -/
def record : Record τ Subscription :=
  Record.start Subscription.mk
    |>.field ⟨"relays", decodeTexts, some []⟩
    |>.field ⟨"filters", Decoder.list Filter.decode, some []⟩

/-- Decodes a subscription. -/
def decode : Decoder τ Subscription := record.decode "Subscription"

end Subscription

namespace ProviderRequest

/-- A provider request as an object of what is present. -/
def toJson (request : ProviderRequest) : Json :=
  .object ([("kind", .number (.ofUInt16 request.kind)), ("tags", tagsJson request.tags)] ++
    Json.optional "relays" Json.strings request.relays)

/-- The fields of a provider request. -/
def record : Record τ ProviderRequest :=
  Record.start ProviderRequest.mk
    |>.field ⟨"kind", Decoder.uint16, none⟩
    |>.field ⟨"tags", Decoder.list decodeTexts, some []⟩
    |>.field ⟨"relays", Decoder.nullable decodeTexts, some none⟩

/-- Decodes a provider request. -/
def decode : Decoder τ ProviderRequest := record.decode "ProviderRequest"

end ProviderRequest

end RelayFeeds
