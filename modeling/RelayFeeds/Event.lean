import RelayFeeds.Json.Decode
import RelayFeeds.Text.Hex

/-! # Events — the signed notes that relays store

An event has an id, an author, a time, a kind, a text and tags. A tag is a name with values, the
first of which is what filters look at. Signatures play no part here. -/

namespace RelayFeeds

/-- A tag of an event: a name and the values after it. -/
structure Tag where
  /-- The first text of the tag. -/
  name : String
  /-- The texts after the name. -/
  values : List String
  deriving DecidableEq

namespace Tag

/-- The texts of a tag, its name first. -/
def toList (tag : Tag) : List String := tag.name :: tag.values

/-- The first value of a tag. -/
def value? (tag : Tag) : Option String := tag.values.head?

/-- The tag of some texts, of which there must be one. -/
def ofList? : List String → Option Tag
  | [] => none
  | name :: values => some ⟨name, values⟩

end Tag

/-- An event as far as feeds are concerned. -/
structure Event where
  /-- The id. -/
  id : HexKey
  /-- The public key of the author. -/
  author : HexKey
  /-- The time of creation, in seconds. -/
  createdAt : UInt64
  /-- The kind. -/
  kind : UInt16
  /-- The tags in order. -/
  tags : List Tag
  /-- The text. -/
  content : String
  deriving DecidableEq

namespace Event

/-- The tags of an event as lists of texts. -/
def tagTexts (event : Event) : List (List String) := event.tags.map Tag.toList

/-- Decodes an event; an absent id is all zeros, absent tags and text are empty. -/
def ofJson? (node : Json) : Option Event := do
  let author ← HexKey.ofText? (← (← node.member? "pubkey").text?)
  let id ← match node.member? "id" with
    | none => some HexKey.zero
    | some id => HexKey.ofText? (← id.text?)
  let createdAt ← match node.member? "created_at" with
    | none => some 0
    | some time => (Decoder.uint64 time).toOption
  let kind ← (Decoder.uint16 (← node.member? "kind")).toOption
  let tags ← match node.member? "tags" with
    | none => some []
    | some tags => (Decoder.list (Decoder.list Decoder.string) tags).toOption
  let content ← match node.member? "content" with
    | none => some ""
    | some content => content.text?
  some { id, author, createdAt, kind, tags := tags.filterMap Tag.ofList?, content }

end Event

end RelayFeeds
