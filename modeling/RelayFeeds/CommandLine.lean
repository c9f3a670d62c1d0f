import RelayFeeds.Config
import RelayFeeds.Feed.Compile
import RelayFeeds.Relay.Client
import RelayFeeds.Request.Plan

/-! # Command line — checking, compiling and optimizing from files

The program has three commands: `check` counts the nodes of a feed, `compile` prints its request
items or their plan, and `optimize` prints the plan of some subscriptions. A configuration file may
be named before or after the command. Failures are reported with their causes. -/

namespace RelayFeeds

/-- What the program is asked to do. -/
inductive Command where
  /-- Report whether the feed of a file compiles and what nodes it has. -/
  | check (file : String)
  /-- Compile the feed of a file. -/
  | compile (file : String) (now : Option UInt64) (offline optimize : Bool)
  /-- Plan the subscriptions of a file. -/
  | optimize (file : String)

/-- What the arguments of the program amount to. -/
inductive Invocation where
  /-- A command, with the path of a configuration. -/
  | run (command : Command) (config : Option String)
  /-- The version is asked for. -/
  | version
  /-- The usage is asked for. -/
  | help
  /-- The arguments make no sense. -/
  | misuse

namespace CommandLine

/-! ### Arguments -/

/-- Whether an argument counts as an option and so cannot be the value of one. -/
def isOption (argument : String) : Bool :=
  match argument.toList with
  | '-' :: _ :: _ => true
  | _ => false

/-- How an argument relates to an option that takes a value. -/
inductive Taken where
  /-- It is another argument. -/
  | other
  /-- The value is wanting. -/
  | wanting
  /-- The value, and the arguments after it. -/
  | value (value : String) (rest : List String)

/-- The value after an option. -/
def takeNext : List String → Taken
  | [] => .wanting
  | value :: rest => if isOption value then .wanting else .value value rest

/-- What follows some characters that lead others. -/
def after? : List Char → List Char → Option (List Char)
  | [], text => some text
  | _ :: _, [] => none
  | m :: mark, c :: text => if m == c then after? mark text else none

/-- The value of a long option. -/
def takeLong (name : String) (argument : String) (rest : List String) : Taken :=
  match after? ("--" ++ name).toList argument.toList with
  | some [] => takeNext rest
  | some ('=' :: value) => .value (String.ofList value) rest
  | _ => .other

/-- The value of the option that names a configuration. -/
def takeConfig (argument : String) (rest : List String) : Taken :=
  match argument.toList with
  | ['-', 'c'] => takeNext rest
  | '-' :: 'c' :: '=' :: value => .value (String.ofList value) rest
  | '-' :: 'c' :: value => .value (String.ofList value) rest
  | _ => takeLong "config" argument rest

/-- Whether an argument asks for help. -/
def isHelp (argument : String) : Bool :=
  argument == "--help" || (after? ['-', 'h'] argument.toList).isSome

/-- The names of the commands. -/
inductive Verb where
  /-- The command that counts nodes. -/
  | check
  /-- The command that compiles. -/
  | compile
  /-- The command that plans. -/
  | optimize
  deriving DecidableEq

/-- The arguments of a command that have been read. -/
structure Parts where
  /-- The file. -/
  file : Option String := none
  /-- The configuration. -/
  config : Option String := none
  /-- The present time. -/
  now : Option UInt64 := none
  /-- Whether relays are left alone. -/
  offline : Bool := false
  /-- Whether the plan is printed. -/
  optimize : Bool := false

/-- The parts with a file added, which must be the first and not empty. -/
def Parts.addFile? (parts : Parts) (file : String) : Option Parts :=
  if parts.file.isSome || file.isEmpty then none else some { parts with file := some file }

/-- The parts with the remaining arguments added as files. -/
def addFiles? : Parts → List String → Option Parts
  | parts, [] => some parts
  | parts, file :: rest =>
    match parts.addFile? file with
    | some parts => addFiles? parts rest
    | none => none

/-- What reading the arguments of a command comes to. -/
inductive Parsed where
  /-- The parts of the command. -/
  | parts (parts : Parts)
  /-- The usage is asked for. -/
  | help
  /-- The arguments make no sense. -/
  | misuse

/-- Reads the arguments of a command; as many steps as arguments, and one, suffice. -/
def readParts (verb : Verb) : Nat → Parts → List String → Parsed
  | 0, _, _ => .misuse
  | _ + 1, parts, [] => .parts parts
  | steps + 1, parts, argument :: rest =>
    if argument == "--" then
      match addFiles? parts rest with
      | some parts => .parts parts
      | none => .misuse
    else if !isOption argument then
      match parts.addFile? argument with
      | some parts => readParts verb steps parts rest
      | none => .misuse
    else if isHelp argument then .help
    else
      match takeConfig argument rest with
      | .value path rest =>
        if parts.config.isSome then .misuse
        else readParts verb steps { parts with config := some path } rest
      | .wanting => .misuse
      | .other =>
        if verb ≠ .compile then .misuse
        else if argument == "--offline" && !parts.offline then
          readParts verb steps { parts with offline := true } rest
        else if argument == "--optimize" && !parts.optimize then
          readParts verb steps { parts with optimize := true } rest
        else
          match takeLong "now" argument rest with
          | .value text rest =>
            match parts.now, Text.readUInt64? text with
            | none, some now => readParts verb steps { parts with now := some now } rest
            | _, _ => .misuse
          | _ => .misuse

/-- The command of a verb and its arguments; a configuration named after the verb counts rather than
one named before it. -/
def readVerb (verb : Verb) (config : Option String) (arguments : List String) : Invocation :=
  match readParts verb (arguments.length + 1) {} arguments with
  | .help => .help
  | .misuse => .misuse
  | .parts parts =>
    match parts.file with
    | none => .misuse
    | some file =>
      let chosen := if parts.config.isSome then parts.config else config
      match verb with
      | .check => .run (.check file) chosen
      | .compile => .run (.compile file parts.now parts.offline parts.optimize) chosen
      | .optimize => .run (.optimize file) chosen

/-- Reads what help is asked about: everything, a command, or asking for help itself. -/
def readHelp : List String → Invocation
  | [] => .help
  | [topic] =>
    if ["check", "compile", "optimize", "help"].contains topic then .help else .misuse
  | _ => .misuse

/-- Reads arguments up to the verb; as many steps as arguments, and one, suffice. -/
def readArguments : Nat → Option String → List String → Invocation
  | 0, _, _ => .misuse
  | _ + 1, _, [] => .misuse
  | steps + 1, config, argument :: rest =>
    if argument == "check" then readVerb .check config rest
    else if argument == "compile" then readVerb .compile config rest
    else if argument == "optimize" then readVerb .optimize config rest
    else if argument == "help" then readHelp rest
    else if isHelp argument then .help
    else if argument == "--version" || (after? ['-', 'V'] argument.toList).isSome then .version
    else
      match takeConfig argument rest with
      | .value path rest =>
        if config.isSome then .misuse else readArguments steps (some path) rest
      | _ => .misuse

/-- What the arguments of the program amount to. -/
def parse (arguments : List String) : Invocation :=
  readArguments (arguments.length + 1) none arguments

/-! ### Running -/

/-- How a run of the program ends. -/
inductive Exit where
  /-- With a text for standard output. -/
  | success (output : String)
  /-- With a failure. -/
  | failure (failure : Failure)
  /-- With arguments that make no sense. -/
  | misuse

/-- The number that a run of the program ends with. -/
def Exit.code : Exit → UInt32
  | .success _ => 0
  | .failure _ => 1
  | .misuse => 2

/-- The order of the group of signing keys. -/
def groupOrder : Nat := 0xFFFFFFFFFFFFFFFFFFFFFFFFFFFFFFFEBAAEDCE6AF48A03BBFD25E8CD0364141

/-- Whether a text is a secret key: 64 hexadecimal digits of a number within the group order. -/
def isSecretKey (text : String) : Bool :=
  let value := Text.hexNumber text.toList
  Text.isHexKey text && 0 < value && value < groupOrder

/-- The latest time that a calendar date can be given for, in seconds. -/
def latestTime : Nat := 8210266876799

/-- The indented text of a value, with a line end. -/
def printed (value : Json) : Exit := .success (value.pretty ++ "\n")

/-- The text of a file. -/
def readInput {m : Type → Type} [Monad m] (environment : Environment m) (file : String) :
    m (Except Failure String) := do
  match ← environment.textAt (expandHome environment.home file) with
  | .ok text => return .ok text
  | .error reason => return .error { message := "Failed to read " ++ file, causes := [reason] }

/-- The feed of a file's text. -/
def readFeed (file text : String) : Except Failure Feed :=
  match Feed.parse text with
  | .ok feed => .ok feed
  | .error reason =>
    .error ((FeedError.malformed reason).toFailure.within ("Invalid feed in " ++ file))

/-- The services of a compile run: none but the clock when relays are left alone, else a client of
the configured relays with the user's social graph. -/
def chooseServices (config : Config) (offline : Bool) (clock : UInt64) :
    Except Failure Services :=
  if offline then .ok (Services.offline { user := config.identity.user } clock)
  else
    let client : RelayClient := { defaults := config.relays, transport := Transport.unreachable }
    match config.identity.secretKey.all isSecretKey, config.identity.user with
    | false, _ => .error { message := "Failed to parse nsec: Invalid secret key" }
    | true, none => .ok (client.services { user := none } clock)
    | true, some user =>
      match (SocialGraph.load (fun _ => client.request) user).outcome with
      | .ok graph => .ok (client.services graph clock)
      | .error failure => .error (failure.within "Failed to load social graph")

/-- Compiles a feed and prints its items, or their plan. -/
def compileFeed (config : Config) (file : String) (feed : Feed) (clock : UInt64)
    (now : Option UInt64) (offline optimize : Bool) : Exit :=
  match chooseServices config offline (now.getD clock) with
  | .error failure => .failure failure
  | .ok services =>
    match now with
    | some now =>
      if latestTime < now.toNat then
        .failure { message := "--now " ++ String.ofList (Text.numeral now.toNat) ++
          " is out of range" }
      else finish services
    | none => finish services
where
  /-- Compiles with the services chosen. -/
  finish (services : Services) : Exit :=
    match (feed.compile services).result with
    | .error error => .failure (error.toFailure.within ("Failed to compile " ++ file))
    | .ok items =>
      if optimize then
        let subscriptions := items.filterMap (RequestItem.subscription? · config.relays)
        printed (.array ((plan subscriptions).map Subscription.toJson))
      else printed (.array (items.map RequestItem.toJson))

/-- Plans the subscriptions of a file's text. -/
def optimizeText (file text : String) : Exit :=
  match decodeText (Decoder.list Subscription.decode) text with
  | .ok subscriptions => printed (.array ((plan subscriptions).map Subscription.toJson))
  | .error fault =>
    .failure { message := "Invalid subscriptions in " ++ file, causes := [fault.message] }

/-- Runs a command with a valid configuration. -/
def runCommand {m : Type → Type} [Monad m] (environment : Environment m) (config : Config) :
    Command → m Exit
  | .check file => do
    match ← readInput environment file with
    | .error failure => return .failure failure
    | .ok text =>
      match readFeed file text with
      | .error failure => return .failure failure
      | .ok feed => return printed feed.report.toJson
  | .compile file now offline optimize => do
    match ← readInput environment file with
    | .error failure => return .failure failure
    | .ok text =>
      match readFeed file text with
      | .error failure => return .failure failure
      | .ok feed =>
        return compileFeed config file feed (← environment.now) now offline optimize
  | .optimize file => do
    match ← readInput environment file with
    | .error failure => return .failure failure
    | .ok text => return optimizeText file text

/-- The usage of the program. -/
def usage : String :=
  "Usage: snowfeed [-c FILE] check FILE\n" ++
  "       snowfeed [-c FILE] compile FILE [--now SECONDS] [--offline] [--optimize]\n" ++
  "       snowfeed [-c FILE] optimize FILE\n"

/-- Runs the program. -/
def run {m : Type → Type} [Monad m] (environment : Environment m) (arguments : List String) :
    m Exit := do
  match parse arguments with
  | .misuse => return .misuse
  | .help => return .success usage
  | .version => return .success "snowfeed 0.1.0\n"
  | .run command path =>
    match ← Config.load environment path with
    | .error failure => return .failure (failure.within "Failed to load config")
    | .ok config =>
      match config.fault? with
      | some fault =>
        return .failure
          { message := "Configuration validation failed", causes := [fault.message] }
      | none => runCommand environment config command

end CommandLine

end RelayFeeds
