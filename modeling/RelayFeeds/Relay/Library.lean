import RelayFeeds.Failure
import RelayFeeds.Filter.Codec

/-! # Relay libraries — filters as relays are asked for them

A library that talks to relays has queries of its own. It reads a query from the JSON text of a filter,
or refuses the text, and a query is an object again on its way to relays.

The plain library keeps queries as filters. Ids and authors must be spelled as 64 hexadecimal digits
and come out in lower case. Of the members without a fixed key those under a hash and one ASCII letter
are tag constraints; a hash and one other character is refused, and any other key is dropped. -/

namespace RelayFeeds

/-- Whether a character is an ASCII letter. -/
def Relay.isLetter (c : Char) : Bool := ('a' ≤ c && c ≤ 'z') || ('A' ≤ c && c ≤ 'Z')

/-- The forms of keys that libraries tell apart. -/
inductive KeyForm where
  /-- A hash and one ASCII letter. -/
  | letter
  /-- A hash and one other character. -/
  | sign
  /-- Any other text. -/
  | other
  deriving DecidableEq

/-- The form of a key. -/
def KeyForm.of (key : String) : KeyForm :=
  match key.toList with
  | ['#', c] => if Relay.isLetter c then .letter else .sign
  | _ => .other

/-- What a library makes of filters. -/
structure RelayLibrary (φ : Type) where
  /-- The query that is read from the text of a filter; `none` when the text is refused. -/
  read : String → Option φ
  /-- The object of a query. -/
  toJson : φ → Json

namespace RelayLibrary

/-- The query that a library reads from the text of a filter, or that it refuses the filter. -/
def convert {φ : Type} (library : RelayLibrary φ) (filter : Filter) : Except Failure φ :=
  match library.read filter.toJson.print with
  | some query => .ok query
  | none => .error { message := "Relay client rejected filter " ++ filter.toJson.print }

/-! ### The plain library -/

/-- Decodes a key of 64 hexadecimal digits to its lower-case spelling. -/
def keyText : Decoder Json String := fun node =>
  match Decoder.string node with
  | .error fault => .error fault
  | .ok text =>
    match HexKey.ofText? text with
    | some key => .ok key.text
    | none => .error (.invalidValue (.string text) "64 hexadecimal digits")

/-- The tag constraints that are read from some members; `none` when one is refused. -/
def tags? : List (String × Json) → Option (List (String × SortedSet String))
  | [] => some []
  | (key, node) :: rest =>
    match KeyForm.of key with
    | .letter =>
      match Decoder.set Decoder.string node, tags? rest with
      | .ok values, some others => some ((key, values) :: others)
      | _, _ => none
    | .sign => none
    | .other => tags? rest

/-- The filter that is read from an object; `none` when it is refused. -/
def filter? : Json → Option Filter
  | .object members =>
    let fixed := Filter.fixedRecord keyText
    match Record.visit fixed.checks Record.skip [] members, fixed.ofMembers members,
      tags? members with
    | .ok (), .ok filter, some tags => some { filter with tags := SortedMap.ofList tags }
    | _, _, _ => none
  | _ => none

/-- The plain library, whose queries are filters. -/
def plain : RelayLibrary Filter where
  read text := (Json.parse? text).bind filter?
  toJson := Filter.toJson

end RelayLibrary

/-- The filter that the plain library makes of a filter, or that it refuses it. -/
def Filter.forRelay (filter : Filter) : Except Failure Filter := RelayLibrary.plain.convert filter

end RelayFeeds
