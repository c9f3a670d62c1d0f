import RelayFeeds.Feed.Mapping

/-! # Feed items — arguments of the leaves that look outside

Scopes and trust windows select authors by the social graph, time windows may be relative to the
present, and provider and list items name events whose tags become selectors. Each is written as a
JSON object with its members in ascending order of their keys. -/

namespace RelayFeeds

/-- A set of authors relative to the user. -/
inductive Scope where
  /-- The user. -/
  | user
  /-- Those whom the user follows. -/
  | follows
  /-- Those whom they follow. -/
  | network
  /-- Those who follow the user. -/
  | followers
  deriving DecidableEq

/-- A bound of a time window. -/
inductive Bound where
  /-- The earliest time. -/
  | since
  /-- The latest time. -/
  | till
  deriving DecidableEq

/-- A time window whose bounds may be offsets back from the present. -/
structure TimeWindow where
  /-- The earliest time, or its offset. -/
  since : Option UInt64
  /-- The latest time, or its offset. -/
  till : Option UInt64
  /-- The bounds that are offsets. -/
  relative : List Bound
  deriving DecidableEq

/-- A window of trust scores, as fractions of the highest score. -/
structure TrustWindow where
  /-- The lowest fraction. -/
  min : Double
  /-- The highest fraction. -/
  max : Double
  deriving DecidableEq

/-- A request to a data vending machine, with the mappings of its response. -/
structure ProviderItem where
  /-- The kind of the request. -/
  kind : UInt16
  /-- The tags of the request. -/
  tags : List (List String)
  /-- The relays of the request, when there are preferred ones. -/
  relays : Option (List String)
  /-- How the tags of the response become selectors. -/
  mappings : List TagMapping
  deriving DecidableEq

/-- Lists by their addresses, with the mappings of their tags. -/
structure ListItem where
  /-- The addresses of the lists. -/
  addresses : List String
  /-- How the tags of the lists become selectors. -/
  mappings : List TagMapping
  deriving DecidableEq

variable {τ : Type} [Source τ]

namespace Scope

/-- The name of a scope. -/
def name : Scope → String
  | .user => "self"
  | .follows => "follows"
  | .network => "network"
  | .followers => "followers"

/-- A scope as its name. -/
def toJson (scope : Scope) : Json := .string scope.name

/-- Decodes a scope. -/
def decode : Decoder τ Scope :=
  Decoder.variant
    [("self", .user), ("follows", .follows), ("network", .network), ("followers", .followers)]

end Scope

namespace Bound

/-- The name of a bound. -/
def name : Bound → String
  | .since => "since"
  | .till => "until"

/-- A bound as its name. -/
def toJson (bound : Bound) : Json := .string bound.name

/-- Decodes a bound. -/
def decode : Decoder τ Bound := Decoder.variant [("since", .since), ("until", .till)]

end Bound

namespace TimeWindow

/-- The time of a bound at a present time; an offset that reaches beyond the start of time stops
there. -/
def resolveBound (window : TimeWindow) (bound : Bound) (now time : UInt64) : UInt64 :=
  if bound ∈ window.relative then UInt64.ofNat (now.toNat - time.toNat) else time

/-- The bounds of a window at a present time. -/
def resolve (window : TimeWindow) (now : UInt64) : Option UInt64 × Option UInt64 :=
  (window.since.map (window.resolveBound .since now),
    window.till.map (window.resolveBound .till now))

/-- A time window as an object of what is present. -/
def toJson (window : TimeWindow) : Json :=
  .object ((if window.relative.isEmpty then []
      else [("relative", .array (window.relative.map Bound.toJson))]) ++
    Json.optional "since" Filter.boundJson window.since ++
    Json.optional "until" Filter.boundJson window.till)

/-- The fields of a time window. -/
def record : Record τ TimeWindow :=
  Record.start TimeWindow.mk
    |>.field ⟨"since", Decoder.nullable Decoder.uint64, some none⟩
    |>.field ⟨"until", Decoder.nullable Decoder.uint64, some none⟩
    |>.field ⟨"relative", Decoder.list Bound.decode, some []⟩

/-- Decodes a time window. -/
def decode : Decoder τ TimeWindow := record.decode "CreatedAtItem"

end TimeWindow

namespace TrustWindow

/-- A double as a number, or as null when it is none. -/
def fractionJson (x : Double) : Json := if x.isFinite then .number (.double x) else .null

/-- A trust window as an object. -/
def toJson (window : TrustWindow) : Json :=
  .object [("max", fractionJson window.max), ("min", fractionJson window.min)]

/-- The fields of a trust window; an absent one reaches to its end of the scale. -/
def record : Record τ TrustWindow :=
  Record.start TrustWindow.mk
    |>.field ⟨"min", Decoder.double, some Double.zero⟩
    |>.field ⟨"max", Decoder.double, some (Double.ofInt 1)⟩

/-- Decodes a trust window. -/
def decode : Decoder τ TrustWindow := record.decode "WotItem"

end TrustWindow

/-- The array of some mappings. -/
def mappingsJson (mappings : List TagMapping) : Json := .array (mappings.map TagMapping.toJson)

namespace ProviderItem

/-- The request of an item. -/
def request (item : ProviderItem) : ProviderRequest where
  kind := item.kind
  tags := item.tags
  relays := item.relays

/-- A provider item as an object of what is present. -/
def toJson (item : ProviderItem) : Json :=
  .object ([("kind", .number (.ofUInt16 item.kind)), ("mappings", mappingsJson item.mappings)] ++
    Json.optional "relays" Json.strings item.relays ++
    (if item.tags.isEmpty then [] else [("tags", tagsJson item.tags)]))

/-- The fields of a provider item. -/
def record : Record τ ProviderItem :=
  Record.start ProviderItem.mk
    |>.field ⟨"kind", Decoder.uint16, none⟩
    |>.field ⟨"tags", Decoder.list decodeTexts, some []⟩
    |>.field ⟨"relays", Decoder.nullable decodeTexts, some none⟩
    |>.field ⟨"mappings", Decoder.list TagMapping.decode, some TagMapping.defaults⟩

/-- Decodes a provider item. -/
def decode : Decoder τ ProviderItem := record.decode "DvmItem"

end ProviderItem

namespace ListItem

/-- A list item as an object. -/
def toJson (item : ListItem) : Json :=
  .object [("addresses", Json.strings item.addresses), ("mappings", mappingsJson item.mappings)]

/-- The fields of a list item. -/
def record : Record τ ListItem :=
  Record.start ListItem.mk
    |>.field ⟨"addresses", decodeTexts, none⟩
    |>.field ⟨"mappings", Decoder.list TagMapping.decode, some TagMapping.defaults⟩

/-- Decodes a list item. -/
def decode : Decoder τ ListItem := record.decode "ListItem"

end ListItem

end RelayFeeds
