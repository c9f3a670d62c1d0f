import RelayFeeds.Host.Ipv6
import RelayFeeds.Host.Name
import RelayFeeds.Relay.Library
import RelayFeeds.Text.Numeral

/-! # Relay addresses — which texts are URLs of relays

A relay is addressed by a web socket URL: scheme `ws` or `wss`, an optional user, a host and an
optional port, with anything behind them. Slashes after the scheme may be missing, doubled or turned
around. The host is an IPv6 address in brackets, an IPv4 address in its usual spellings, or a
name. -/

namespace RelayFeeds.Relay

/-- The number of times a separator of scheme and host occurs. -/
def schemeMarks : List Char → Nat
  | ':' :: '/' :: '/' :: rest => schemeMarks rest + 1
  | _ :: rest => schemeMarks rest
  | [] => 0

/-- A text without the controls and blanks around it and the line ends and tabulators in it. -/
def trimmed (text : List Char) : List Char :=
  let blank := fun (c : Char) => c.toNat ≤ 0x20
  let front := text.dropWhile blank
  ((front.reverse.dropWhile blank).reverse).filter (fun c => c != '\t' && c != '\n' && c != '\r')

/-- Whether a character ends the host and port of a URL. -/
def endsAuthority (c : Char) : Bool := c == '/' || c == '\\' || c == '?' || c == '#'

/-- What stands after the last `@` of a text, the whole text when there is none. -/
def afterUser (text : List Char) : List Char := (text.splitOn '@').getLast?.getD []

/-- The host of an authority and what stands behind it; a colon in brackets belongs to the host. -/
def splitHost : Bool → List Char → List Char × List Char
  | _, [] => ([], [])
  | bracketed, c :: rest =>
    if c == ':' && !bracketed then ([], c :: rest)
    else
      let inner := if c == '[' then true else if c == ']' then false else bracketed
      let parts := splitHost inner rest
      (c :: parts.1, parts.2)

/-- Whether a text behind a host is a port or nothing. -/
def isPort : List Char → Bool
  | [] => true
  | ':' :: digits => digits.all Text.isDigit && Text.digitsValue digits < 65536
  | _ => false

/-- Why a text is no relay URL. -/
inductive UrlFault where
  /-- The marks between scheme and host occur twice. -/
  | manyMarks
  /-- There is no scheme. -/
  | noScheme
  /-- There is no host. -/
  | emptyHost
  /-- The host is a malformed IPv4 address. -/
  | invalidIpv4
  /-- The host is a malformed IPv6 address. -/
  | invalidIpv6
  /-- The host is no name. -/
  | invalidName
  /-- The port is no port. -/
  | invalidPort
  /-- The scheme is none of web sockets. -/
  | otherScheme
  deriving DecidableEq

/-- The text of a fault. -/
def UrlFault.message : UrlFault → String
  | .manyMarks => "multiple scheme separators"
  | .noScheme => "relative URL without a base"
  | .emptyHost => "empty host"
  | .invalidIpv4 => "invalid IPv4 address"
  | .invalidIpv6 => "invalid IPv6 address"
  | .invalidName => "invalid international domain name"
  | .invalidPort => "invalid port number"
  | .otherScheme => "Unsupported scheme"

/-- What is wrong with a host. -/
def hostFault? (host : List Char) : Option UrlFault :=
  match host with
  | [] => some .emptyHost
  | '[' :: rest =>
    if rest.getLast? == some ']' && Host.isIpv6 rest.dropLast then none else some .invalidIpv6
  | _ =>
    match Host.labels? host with
    | none => some .invalidName
    | some [[]] => some .emptyHost
    | some labels =>
      if Host.endsInNumber labels && !Host.isIpv4 labels then some .invalidIpv4 else none

/-- What is wrong with the part of a URL behind its scheme. -/
def authorityFault? (text : List Char) : Option UrlFault :=
  let located := text.dropWhile (fun c => c == '/' || c == '\\')
  let parts := splitHost false (afterUser (located.takeWhile (fun c => !endsAuthority c)))
  match hostFault? parts.1 with
  | some fault => some fault
  | none => if isPort parts.2 then none else some .invalidPort

/-- Whether a text is the scheme of a URL. -/
def isScheme : List Char → Bool
  | [] => false
  | c :: rest =>
    isLetter c && rest.all (fun c =>
      isLetter c || Text.isDigit c || c == '+' || c == '-' || c == '.')

/-- What is wrong with a text as the URL of a relay. -/
def urlFault? (text : String) : Option UrlFault :=
  let url := trimmed text.toList
  let scheme := (url.takeWhile (· != ':')).map Host.lowerLetter
  let rest := url.dropWhile (· != ':')
  if 1 < schemeMarks text.toList then some .manyMarks
  else if rest.isEmpty || !isScheme scheme then some .noScheme
  else if ["ws", "wss"].any (fun known => known.toList == scheme) then authorityFault? (rest.drop 1)
  else if ["http", "https", "ftp"].any (fun known => known.toList == scheme) then
    some ((authorityFault? (rest.drop 1)).getD .otherScheme)
  else some .otherScheme

end RelayFeeds.Relay
