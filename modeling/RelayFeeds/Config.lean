import RelayFeeds.Failure
import RelayFeeds.Text.Blank
import RelayFeeds.Toml.Document

/-! # Configuration — relays, identity, time limits and logging

The configuration is read from a file given by its path, else from a default place in the home
directory when there is one, else it is the built-in one. Every setting has a default. A secret key
of the environment takes the place of the configured one. -/

namespace RelayFeeds

/-- Who the user is. -/
structure Identity where
  /-- The secret key that signs provider requests. -/
  secretKey : Option String := none
  /-- The public key that scopes and trust are seen from. -/
  user : Option String := none
  deriving DecidableEq

/-- Limits of time. -/
structure TimeLimits where
  /-- How long a request may take, in seconds. -/
  timeout : UInt64 := 10
  /-- How long a provider request is waited for, in seconds. -/
  providerLifetime : UInt64 := 5
  deriving DecidableEq

/-- The settings of the program. -/
structure Config where
  /-- The relays of requests that name none. -/
  relays : List String := ["wss://relay.damus.io", "wss://nos.lol"]
  /-- Who the user is. -/
  identity : Identity := {}
  /-- Limits of time. -/
  limits : TimeLimits := {}
  /-- How much is logged. -/
  logLevel : String := "info"
  deriving DecidableEq

/-- Why a configuration is unusable. -/
inductive ConfigFault where
  /-- A default relay is no web socket. -/
  | relayScheme (url : String)
  /-- Requests have no time at all. -/
  | zeroTimeout
  /-- The user is no public key. -/
  | userNotKey
  deriving DecidableEq

/-- The text of a fault. -/
def ConfigFault.message : ConfigFault → String
  | .relayScheme url => "Relay URL must start with ws:// or wss://: " ++ url
  | .zeroTimeout => "request.timeout_secs must be greater than zero"
  | .userNotKey => "identity.user must be a 64 character hex pubkey"

/-- What a program finds around it; reading happens in a monad of the caller's choice. -/
structure Environment (m : Type → Type) where
  /-- The text of the file at a path, or why it cannot be read. -/
  textAt : String → m (Except String String)
  /-- Whether there is something at a path. -/
  isThere : String → m Bool
  /-- The present time in seconds. -/
  now : m UInt64
  /-- The home directory. -/
  home : Option String
  /-- The secret key set for the program. -/
  secretKey : Option String

/-- A path with a leading tilde that stands alone or before a slash replaced by the home
directory. -/
def expandHome (home : Option String) (path : String) : String :=
  match home, path.toList with
  | some home, ['~'] => home
  | some home, '~' :: '/' :: rest => home ++ "/" ++ String.ofList rest
  | _, _ => path

namespace Config

variable {τ : Type} [Source τ]

/-! ### Decoding -/

/-- The relays of their section. -/
def relaysRecord : Record τ (List String) :=
  Record.start (fun relays => relays)
    |>.field ⟨"default", Decoder.list Decoder.string, some ({} : Config).relays⟩

/-- The identity of its section. -/
def identityRecord : Record τ Identity :=
  Record.start Identity.mk
    |>.field ⟨"nsec", Decoder.nullable Decoder.string, some none⟩
    |>.field ⟨"user", Decoder.nullable Decoder.string, some none⟩

/-- Decodes the identity; an array must have both fields. -/
def decodeIdentity : Decoder τ Identity := fun node =>
  match Source.shape node with
  | .array items _ =>
    if items.length < 2 then .error (.invalidLength items.length "identity")
    else identityRecord.decode "identity" node
  | _ => identityRecord.decode "identity" node

/-- The limits of their section. -/
def limitsRecord : Record τ TimeLimits :=
  Record.start TimeLimits.mk
    |>.field ⟨"timeout_secs", Decoder.uint64, some ({} : TimeLimits).timeout⟩
    |>.field ⟨"provider_expiration_secs", Decoder.uint64, some ({} : TimeLimits).providerLifetime⟩

/-- The log level of its section. -/
def loggingRecord : Record τ String :=
  Record.start (fun level => level)
    |>.field ⟨"level", Decoder.string, some ({} : Config).logLevel⟩

/-- The sections of a configuration. -/
def record : Record τ Config :=
  Record.start Config.mk
    |>.field ⟨"relays", relaysRecord.decode "relays", some ({} : Config).relays⟩
    |>.field ⟨"identity", decodeIdentity, some {}⟩
    |>.field ⟨"request", limitsRecord.decode "request", some {}⟩
    |>.field ⟨"logging", loggingRecord.decode "logging", some ({} : Config).logLevel⟩

/-- The configuration that a text spells. -/
def parse? (text : String) : Option Config :=
  (Toml.parse? text).bind (fun value => (record.decode "configuration" value).toOption)

/-- A configuration with the secret key of the environment, unless that is blank. -/
def withSecretKey (config : Config) (secretKey : Option String) : Config :=
  match secretKey with
  | some key =>
    if Text.isBlankText key then config
    else { config with identity := { config.identity with secretKey := some key } }
  | none => config

/-! ### Loading -/

/-- The default place of a configuration file. -/
def defaultPath (home : String) : String := home ++ "/.snowfeed/config.toml"

/-- The configuration of the file at a path. -/
def loadFile {m : Type → Type} [Monad m] (environment : Environment m) (path : String) :
    m (Except Failure Config) := do
  match ← environment.textAt (expandHome environment.home path) with
  | .error reason =>
    return .error { message := "Failed to read config file: " ++ path, causes := [reason] }
  | .ok text =>
    match parse? text with
    | none => return .error { message := "Failed to parse TOML config" }
    | some config => return .ok (config.withSecretKey environment.secretKey)

/-- The configuration of a path, of the default place, or the built-in one. -/
def load {m : Type → Type} [Monad m] (environment : Environment m) (path : Option String) :
    m (Except Failure Config) := do
  match path, environment.home with
  | some path, _ => loadFile environment path
  | none, none => return .ok (withSecretKey {} environment.secretKey)
  | none, some home =>
    if ← environment.isThere (defaultPath home) then loadFile environment (defaultPath home)
    else return .ok (withSecretKey {} environment.secretKey)

/-! ### Validation -/

/-- Whether a text begins like the URL of a web socket. -/
def isSocketUrl (url : String) : Bool :=
  "ws://".toList.isPrefixOf url.toList || "wss://".toList.isPrefixOf url.toList

/-- The first fault of a configuration. -/
def fault? (config : Config) : Option ConfigFault :=
  match config.relays.find? (fun url => !isSocketUrl url) with
  | some url => some (.relayScheme url)
  | none =>
    if config.limits.timeout = 0 then some .zeroTimeout
    else
      match config.identity.user with
      | some user => if Text.isHexKey user then none else some .userNotKey
      | none => none

end Config

end RelayFeeds
