import RelayFeeds.Feed.Services
import RelayFeeds.Relay.Library
import RelayFeeds.Relay.Url

/-! # Relay clients — services backed by relays

A client routes each request to the relays it names, or to its default ones, checks that these are
relay URLs, converts the filters and leaves the exchange itself to a transport. Provider requests
become events that expire; the result of a request has a kind of its own. -/

namespace RelayFeeds

namespace Relay

/-- The relays of a request: those given, else the default ones; none at all is a failure. -/
def route (defaults relays : List String) : Except Failure (List String) :=
  let chosen := if relays.isEmpty then defaults else relays
  if chosen.isEmpty then
    .error { message := "No relays given and no default relays configured" }
  else .ok chosen

/-- Accepts relays up to the first that is no relay URL. -/
def checkUrls : List String → Except Failure Unit
  | [] => .ok ()
  | url :: rest =>
    match urlFault? url with
    | none => checkUrls rest
    | some fault =>
      .error { message := "Failed to add relay: " ++ url, causes := [fault.message] }

/-- The kind of the result of a provider request. -/
def resultKind (kind : UInt16) : Except Failure UInt16 :=
  if kind.toNat + 1000 < UInt16.size then .ok (UInt16.ofNat (kind.toNat + 1000))
  else
    .error { message := "Request kind " ++ String.ofList (Text.numeral kind.toNat) ++
      " has no result kind" }

/-- Converts filters one by one, the first refused one failing. -/
def convertAll {φ : Type} (library : RelayLibrary φ) : List Filter → Except Failure (List φ)
  | [] => .ok []
  | filter :: rest =>
    match library.convert filter with
    | .error failure => .error failure
    | .ok query => (convertAll library rest).map (query :: ·)

end Relay

/-- An event that is about to be signed. -/
structure EventDraft where
  /-- The kind. -/
  kind : UInt16
  /-- The text. -/
  content : String
  /-- The tags. -/
  tags : List (List String)
  /-- The public key that signs it. -/
  author : String
  deriving DecidableEq

namespace ProviderRequest

/-- Whether a tag names the author itself as a person. -/
def namesAuthor (author : String) : List String → Bool
  | name :: value :: _ => name == "p" && value == author
  | _ => false

/-- The event of a provider request, which expires some seconds after the present. Empty tags and
tags that name the author are left out. -/
def draft (request : ProviderRequest) (author : String) (now lifetime : UInt64) : EventDraft :=
  let expiry := now.toNat + lifetime.toNat
  let capped := if expiry < UInt64.size then expiry else UInt64.size - 1
  let tags := request.tags.filter (fun tag => !tag.isEmpty) ++
    [["expiration", String.ofList (Text.numeral capped)]]
  { kind := request.kind
    content := ""
    tags := tags.filter (fun tag => !namesAuthor author tag)
    author }

end ProviderRequest

/-- The exchange with relays that a client leaves to others. -/
structure Transport where
  /-- The stored events that relays have for filters. -/
  fetch : List String → List Filter → Except Failure (List Event)
  /-- The first result of a kind to a provider request published on relays. -/
  publish : List String → ProviderRequest → UInt16 → Except Failure Event

/-- A transport that reaches no relay. -/
def Transport.unreachable : Transport where
  fetch _ _ := .error { message := "Failed to fetch events" }
  publish _ request _ := .error
    { message := "Failed to publish provider request of kind " ++
        String.ofList (Text.numeral request.kind.toNat) }

/-- A client of relays. -/
structure RelayClient where
  /-- The relays of requests that name none. -/
  defaults : List String
  /-- The exchange with relays. -/
  transport : Transport
  /-- What makes filters fit for the exchange. -/
  library : RelayLibrary Filter := .plain

namespace RelayClient

/-- The stored events of a subscription. -/
def request (client : RelayClient) (subscription : Subscription) : Except Failure (List Event) := do
  let relays ← Relay.route client.defaults subscription.relays
  Relay.checkUrls relays
  let filters ← Relay.convertAll client.library subscription.filters
  client.transport.fetch relays filters

/-- The first result of a provider request. -/
def requestProvider (client : RelayClient) (request : ProviderRequest) : Except Failure Event := do
  let relays ← Relay.route client.defaults (request.relays.getD [])
  Relay.checkUrls relays
  let kind ← Relay.resultKind request.kind
  client.transport.publish relays request kind

/-- The services of a client and a social graph. -/
def services (client : RelayClient) (graph : SocialGraph) (clock : UInt64) : Services where
  clock _ := clock
  request _ := client.request
  provider _ := client.requestProvider
  scope := graph.inScope
  trust window := graph.inTrustRange window.min window.max

end RelayClient

end RelayFeeds
