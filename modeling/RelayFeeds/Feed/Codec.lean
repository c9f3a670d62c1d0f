import RelayFeeds.Feed.Basic

/-! # Feed codec — feeds as JSON arrays that begin with their type tag

A feed is an array of its type tag and its arguments: `["kind", 1, 7]`, or
`["union", ["author", "ab"], ["tag", "#t", "x"]]`. Every argument is decoded as a value on its own,
whether the feed came as a value or as a text. -/

namespace RelayFeeds

/-- Why a value is no feed. -/
inductive MalformedFeed where
  /-- The text is not JSON. -/
  | notJson
  /-- The value is no array. -/
  | notArray (found : Json)
  /-- The array is empty. -/
  | empty
  /-- The array does not begin with a text. -/
  | noTypeTag (found : Json)
  /-- An argument does not decode. -/
  | argument (tag : String) (fault : DecodeError)
  /-- A tag feed names no key. -/
  | noTagKey

namespace MalformedFeed

/-- The text of a reason. -/
def message : MalformedFeed → String
  | .notJson => ""
  | .notArray found => "expected an array, got " ++ found.print
  | .empty => "empty feed"
  | .noTypeTag found => "expected a type tag, got " ++ found.print
  | .argument tag fault => tag ++ ": " ++ fault.message
  | .noTagKey => "tag feed without a key"

end MalformedFeed

namespace Feed

mutual

/-- A feed as an array. -/
def toJson : Feed → Json
  | .union feeds => .array (.string "union" :: toJsonAll feeds)
  | .intersection feeds => .array (.string "intersection" :: toJsonAll feeds)
  | .selector chosen => .array (.string chosen.typeName :: chosen.arguments)
  | .scope scopes => .array (.string "scope" :: scopes.map Scope.toJson)
  | .time windows => .array (.string "created_at" :: windows.map TimeWindow.toJson)
  | .trust windows => .array (.string "wot" :: windows.map TrustWindow.toJson)
  | .provider items => .array (.string "dvm" :: items.map ProviderItem.toJson)
  | .list items => .array (.string "list" :: items.map ListItem.toJson)
  | .unknown tag arguments => .array (.string tag :: arguments)

/-- Feeds as arrays. -/
def toJsonAll : List Feed → List Json
  | [] => []
  | feed :: rest => toJson feed :: toJsonAll rest

end

/-- The arguments of a leaf, decoded one by one and made into the leaf. -/
def leaf {α : Type} (tag : String) (decode : Decoder Json α) (make : List α → Feed)
    (arguments : List Json) : Except MalformedFeed Feed :=
  match Decoder.items decode arguments with
  | .ok values => .ok (make values)
  | .error fault => .error (.argument tag fault)

/-- A tag feed of its key and values. -/
def tagLeaf (arguments : List Json) : Except MalformedFeed Feed :=
  match Decoder.items Decoder.string arguments with
  | .error fault => .error (.argument "tag" fault)
  | .ok [] => .error .noTagKey
  | .ok (key :: values) => .ok (.selector (.tag (tagKey key) values))

/-- The leaf of a type tag and its arguments. -/
def ofArguments (tag : String) (arguments : List Json) : Except MalformedFeed Feed :=
  if tag = "address" then leaf tag Decoder.string (.selector ∘ .address) arguments
  else if tag = "author" then leaf tag Decoder.string (.selector ∘ .author) arguments
  else if tag = "id" then leaf tag Decoder.string (.selector ∘ .id) arguments
  else if tag = "kind" then leaf tag Decoder.uint16 (.selector ∘ .kind) arguments
  else if tag = "relay" then leaf tag Decoder.string (.selector ∘ .relay) arguments
  else if tag = "search" then leaf tag Decoder.string (.selector ∘ .search) arguments
  else if tag = "scope" then leaf tag Scope.decode .scope arguments
  else if tag = "created_at" then leaf tag TimeWindow.decode .time arguments
  else if tag = "wot" then leaf tag TrustWindow.decode .trust arguments
  else if tag = "dvm" then leaf tag ProviderItem.decode .provider arguments
  else if tag = "list" then leaf tag ListItem.decode .list arguments
  else if tag = "tag" then tagLeaf arguments
  else .ok (.unknown tag arguments)

mutual

/-- The feed of a value. -/
def ofJson : Json → Except MalformedFeed Feed
  | .array (.string tag :: arguments) =>
    if tag = "union" then (ofJsonAll arguments).map .union
    else if tag = "intersection" then (ofJsonAll arguments).map .intersection
    else ofArguments tag arguments
  | .array (found :: _) => .error (.noTypeTag found)
  | .array [] => .error .empty
  | found => .error (.notArray found)

/-- The feeds of values, the first fault winning. -/
def ofJsonAll : List Json → Except MalformedFeed (List Feed)
  | [] => .ok []
  | value :: rest =>
    match ofJson value with
    | .error reason => .error reason
    | .ok feed =>
      match ofJsonAll rest with
      | .error reason => .error reason
      | .ok feeds => .ok (feed :: feeds)

end

/-- The feed of a text. -/
def parse (text : String) : Except MalformedFeed Feed :=
  match Json.parse? text with
  | none => .error .notJson
  | some value => ofJson value

/-- The feed of a text, decoded as the text is read: what follows the value is looked at last. -/
def decodeText (text : String) : Except MalformedFeed Feed :=
  let found := Reading.read text.toList
  match found.1.value? with
  | none => .error .notJson
  | some value =>
    match ofJson value with
    | .error reason => .error reason
    | .ok feed => if (Reading.skipBlanks found.2).isEmpty then .ok feed else .error .notJson

end Feed

end RelayFeeds
