import RelayFeeds.Filter.Basic
import RelayFeeds.Json.Decode

/-! # Filter codec — filters as JSON objects

A filter is an object of its constraints. The seven constraints that are not about tags have fixed
keys; every other member is a tag constraint under its key as written, decoded after all of these. -/

namespace RelayFeeds

/-- The set of some texts as an array. -/
def SortedSet.toJson (values : SortedSet String) : Json := Json.strings values.toList

/-- A member that is left out when its value is absent. -/
def Json.optional {α : Type} (key : String) (encode : α → Json) (value : Option α) :
    List (String × Json) :=
  match value with
  | none => []
  | some value => [(key, encode value)]

namespace Filter

/-- The array of a set of kinds. -/
def kindsJson (kinds : SortedSet UInt16) : Json :=
  .array (kinds.toList.map (fun kind => .number (.ofUInt16 kind)))

/-- The number of a bound. -/
def boundJson (bound : UInt64) : Json := .number (.ofUInt64 bound)

/-- The constraints of a filter with a fixed key. -/
def fixedMembers (filter : Filter) : List (String × Json) :=
  Json.optional "ids" SortedSet.toJson filter.ids ++
    Json.optional "authors" SortedSet.toJson filter.authors ++
    Json.optional "kinds" kindsJson filter.kinds ++
    Json.optional "since" boundJson filter.since ++
    Json.optional "until" boundJson filter.till ++
    Json.optional "limit" boundJson filter.limit ++
    Json.optional "search" Json.string filter.search

/-- A filter as an object, the tag constraints last. -/
def toJson (filter : Filter) : Json :=
  .object (filter.fixedMembers ++
    filter.tags.entries.map (fun entry => (entry.1, entry.2.toJson)))

variable {τ : Type} [Source τ]

/-- The constraints with a fixed key, the ids and authors being decoded one by one as given. -/
def fixedRecord (named : Decoder τ String) : Record τ Filter :=
  Record.start (fun ids authors kinds since till limit search =>
      ({ ids, authors, kinds, since, till, limit, search } : Filter))
    |>.field ⟨"ids", Decoder.nullable (Decoder.set named), some none⟩
    |>.field ⟨"authors", Decoder.nullable (Decoder.set named), some none⟩
    |>.field ⟨"kinds", Decoder.nullable (Decoder.set Decoder.uint16), some none⟩
    |>.field ⟨"since", Decoder.nullable Decoder.uint64, some none⟩
    |>.field ⟨"until", Decoder.nullable Decoder.uint64, some none⟩
    |>.field ⟨"limit", Decoder.nullable Decoder.count, some none⟩
    |>.field ⟨"search", Decoder.nullable Decoder.string, some none⟩

/-- The keys of the constraints that are not about tags. -/
def fixedKeys : List String := ["ids", "authors", "kinds", "since", "until", "limit", "search"]

/-- Accepts a member whose whole value can be read. -/
def readable : Decoder τ Unit := fun node =>
  if (Source.value? node).isSome then .ok () else .error .notJson

/-- Decodes tag constraints in order. -/
def decodeTags : List (String × τ) → Except DecodeError (List (String × SortedSet String))
  | [] => .ok []
  | (key, node) :: rest =>
    if fixedKeys.contains key then decodeTags rest
    else
      match Source.value? node with
      | none => .error .notJson
      | some value =>
        match Decoder.set Decoder.string value with
        | .error fault => .error fault
        | .ok values => (decodeTags rest).map ((key, values) :: ·)

/-- Decodes a filter. -/
def decode : Decoder τ Filter := fun node =>
  match Source.shape node with
  | .object members closed =>
    let fixed := fixedRecord Decoder.string
    match Record.visit fixed.checks readable [] members with
    | .error fault => .error fault
    | .ok () =>
      if closed then
        match fixed.ofMembers members, decodeTags members with
        | .error fault, _ => .error fault
        | _, .error fault => .error fault
        | .ok filter, .ok tags => .ok { filter with tags := SortedMap.ofList tags }
      else .error .notJson
  | _ => .error (Decoder.mismatch "struct Filter" node)

end Filter

end RelayFeeds
