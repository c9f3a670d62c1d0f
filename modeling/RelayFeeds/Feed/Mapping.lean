import RelayFeeds.Feed.Selector

/-! # Tag mappings — turning event tags into selectors

Lists and provider responses describe content with tags: `p` for people, `t` for topics. A mapping
says which kind of selector the values under a tag name become. -/

namespace RelayFeeds

/-- What the values under a tag name become. -/
inductive TagTarget where
  /-- Addresses. -/
  | address
  /-- Authors. -/
  | author
  /-- Ids. -/
  | id
  /-- Kinds. -/
  | kind
  /-- Relays. -/
  | relay
  /-- Searches. -/
  | search
  /-- Values under a tag key. -/
  | tag (key : String)
  deriving DecidableEq

/-- A tag name and what the values under it become. -/
structure TagMapping where
  /-- The tag name. -/
  tag : String
  /-- What its values become. -/
  target : TagTarget
  deriving DecidableEq

namespace TagTarget

/-- The selector of some values; `none` when nothing usable remains. Values that are no kinds are
left out of a selector of kinds. -/
def selector? (target : TagTarget) (values : List String) : Option Selector :=
  if values.isEmpty then none
  else
    match target with
    | .address => some (.address values)
    | .author => some (.author values)
    | .id => some (.id values)
    | .relay => some (.relay values)
    | .search => some (.search values)
    | .tag key => some (.tag key values)
    | .kind =>
      let kinds := values.filterMap Text.readUInt16?
      if kinds.isEmpty then none else some (.kind kinds)

/-- The texts that spell a target. -/
def texts : TagTarget → List String
  | .address => ["address"]
  | .author => ["author"]
  | .id => ["id"]
  | .kind => ["kind"]
  | .relay => ["relay"]
  | .search => ["search"]
  | .tag key => ["tag", key]

/-- The target that some texts spell. -/
def ofTexts? : List String → Option TagTarget
  | [name] =>
    if name = "address" then some .address
    else if name = "author" then some .author
    else if name = "id" then some .id
    else if name = "kind" then some .kind
    else if name = "relay" then some .relay
    else if name = "search" then some .search
    else none
  | [name, key] => if name = "tag" then some (.tag (tagKey key)) else none
  | _ => none

end TagTarget

namespace TagMapping

/-- The mappings of lists and provider items that name none of their own. -/
def defaults : List TagMapping :=
  [⟨"a", .address⟩, ⟨"e", .id⟩, ⟨"p", .author⟩, ⟨"r", .relay⟩, ⟨"t", .tag "#t"⟩]

/-- A mapping as the array of its name and the texts of its target. -/
def toJson (mapping : TagMapping) : Json :=
  .array [.string mapping.tag, Json.strings mapping.target.texts]

variable {τ : Type} [Source τ]

/-- Decodes a mapping. -/
def decode : Decoder τ TagMapping := fun node =>
  match Decoder.pair Decoder.string decodeTexts node with
  | .error fault => .error fault
  | .ok (tag, texts) =>
    match TagTarget.ofTexts? texts with
    | some target => .ok ⟨tag, target⟩
    | none => .error (.unsupportedTarget texts tag)

/-- The values under the name of a mapping, in tag order. -/
def values (mapping : TagMapping) (tags : List (List String)) : List String :=
  tags.filterMap (fun tag =>
    match tag with
    | name :: value :: _ => if name = mapping.tag then some value else none
    | _ => none)

/-- The selectors that tags become: one for each mapping whose name occurs with usable values. -/
def selectors (tags : List (List String)) (mappings : List TagMapping) : List Selector :=
  mappings.filterMap (fun mapping => mapping.target.selector? (mapping.values tags))

end TagMapping

/-! ### Provider responses -/

/-- The texts that a provider response echoes from its request: the id and the author that the JSON
of its first `request` tag names. `none` when that tag holds no JSON. -/
def echoed? (tags : List (List String)) : Option (List String) :=
  match tags.find? (fun tag => tag.head? == some "request") with
  | none => some []
  | some tag =>
    (Json.parse? ((tag.drop 1).head?.getD "")).map (fun request =>
      ["id", "pubkey"].filterMap (fun key => (request.member? key).bind Json.text?))

/-- The tags of a provider response whose first value is not echoed; `none` when the request that it
answers cannot be read. -/
def responseTags? (event : Event) : Option (List (List String)) :=
  (echoed? event.tagTexts).map (fun echoed =>
    event.tagTexts.filter (fun tag =>
      match (tag.drop 1).head? with
      | some value => !echoed.contains value
      | none => true))

end RelayFeeds
