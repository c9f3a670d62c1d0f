import RelayFeeds.Feed.Codec
import RelayFeeds.SocialGraph

/-! # Services — what compiling a feed asks of the outside

Stored events, data vending machines, the social graph and the clock are services. A service
answers at once, and its answer may depend on the calls made before; a failing one ends the compile
call, which never asks twice. The calls are kept in order, so that what was asked can be told from
the outcome. -/

namespace RelayFeeds

/-- A call to a service. -/
inductive Call where
  /-- The present time is asked for. -/
  | clock
  /-- Stored events are asked for. -/
  | request (subscription : Subscription)
  /-- A data vending machine is asked. -/
  | provider (request : ProviderRequest)
  deriving DecidableEq

namespace Call

/-- The subscription of a request call. -/
def subscription? : Call → Option Subscription
  | .request asked => some asked
  | _ => none

/-- The request of a provider call. -/
def providerRequest? : Call → Option ProviderRequest
  | .provider asked => some asked
  | _ => none

/-- Whether a call asks for the time. -/
def isClock : Call → Bool
  | .clock => true
  | _ => false

end Call

/-- A service that may fail. -/
inductive Service where
  /-- The one that loads stored events. -/
  | request
  /-- The one that talks to data vending machines. -/
  | provider
  deriving DecidableEq

/-- The name of a service. -/
def Service.name : Service → String
  | .request => "request"
  | .provider => "provider"

/-- What compiling a feed needs from outside; answers are given the calls made before. -/
structure Services where
  /-- The present time in seconds. -/
  clock : List Call → UInt64
  /-- The stored events of a subscription. -/
  request : List Call → Subscription → Except Failure (List Event)
  /-- The first response to a provider request. -/
  provider : List Call → ProviderRequest → Except Failure Event
  /-- The authors of a scope. -/
  scope : Scope → SortedSet String
  /-- The authors within a trust window. -/
  trust : TrustWindow → SortedSet String

/-- Why a feed does not decode or compile. -/
inductive FeedError where
  /-- A node is of an unrecognised type. -/
  | unsupportedFeedType (tag : String)
  /-- A service failed. -/
  | serviceFailed (service : Service) (failure : Failure)
  /-- The JSON is no feed. -/
  | malformed (reason : MalformedFeed)

namespace FeedError

/-- The text of an error. -/
def message : FeedError → String
  | .unsupportedFeedType tag => "Unable to convert feed of type " ++ tag ++ " to filters"
  | .serviceFailed service failure => service.name ++ " port failed: " ++ failure.message
  | .malformed reason => "Malformed feed: " ++ reason.message

/-- An error as a failure, with the causes of a failed service behind it. -/
def toFailure : FeedError → Failure
  | .serviceFailed service failure =>
    { message := (serviceFailed service failure).message
      causes := failure.message :: failure.causes }
  | other => { message := other.message }

end FeedError

/-- A computation that calls services and may end with an error; the calls are kept in order. -/
abbrev Session := ExceptT FeedError (StateM (List Call))

namespace Services

/-- Services without a network: requests bring nothing and providers cannot be reached. -/
def offline (graph : SocialGraph) (clock : UInt64) : Services where
  clock _ := clock
  request _ _ := .ok []
  provider _ request := .error
    { message := "offline: cannot reach a provider for kind " ++
        String.ofList (Text.numeral request.kind.toNat) }
  scope := graph.inScope
  trust window := graph.inTrustRange window.min window.max

/-- Asks for the present time. -/
def readClock (services : Services) : Session UInt64 := do
  let calls ← get
  set (calls ++ [Call.clock])
  return services.clock calls

/-- Asks for the stored events of a subscription. -/
def askEvents (services : Services) (subscription : Subscription) : Session (List Event) := do
  let calls ← get
  set (calls ++ [Call.request subscription])
  match services.request calls subscription with
  | .ok events => return events
  | .error failure => throw (.serviceFailed .request failure)

/-- Asks a data vending machine. -/
def askProvider (services : Services) (request : ProviderRequest) : Session Event := do
  let calls ← get
  set (calls ++ [Call.provider request])
  match services.provider calls request with
  | .ok event => return event
  | .error failure => throw (.serviceFailed .provider failure)

end Services

end RelayFeeds
