import RelayFeeds.Proofs.Feed.Items
import RelayFeeds.Proofs.Filter.Codec

/-! # Filters and requests are read back

Filters, request items, subscriptions and provider requests are written as objects and mappings as
pairs. Absent, empty and present lists are written differently, and each is read back as it was, in
whatever order the members stand. Whatever is decoded can be written, so that encoding after decoding
settles at once.

* **`Filter.readsBack`**, **`RequestItem.readsBack`**, **`Subscription.readsBack`**,
  **`ProviderRequest.readsBack`** — values are read back.
* **`RequestItem.isWritable_of_decode`**, **`Subscription.isWritable_of_decode`** — what is decoded can
  be written.
* **`filters_and_requests_round_trip`** — what encoding and decoding make of each other. -/

namespace RelayFeeds

open Decoder SortedMap

/-! ### Filters -/

namespace Filter

variable {filter : Filter}

/-- The members of a filter have arranged values. -/
theorem isArranged_of_mem_members : ∀ member ∈ filter.members, member.2.IsArranged := by
  have hset : ∀ values : SortedSet String, values.toJson.IsArranged := fun values =>
    Json.isArranged_strings values.toList
  have hkinds : ∀ kinds : SortedSet UInt16, (kindsJson kinds).IsArranged := fun kinds =>
    Json.isArranged_array (List.forall_mem_map.mpr fun _ _ => rfl)
  have hbound : ∀ bound : UInt64, (boundJson bound).IsArranged := fun _ => rfl
  have hsearch : ∀ search : String, (Json.string search).IsArranged := fun _ => rfl
  simp only [members, fixedMembers, List.forall_mem_append]
  refine ⟨⟨⟨⟨⟨⟨⟨?_, ?_⟩, ?_⟩, ?_⟩, ?_⟩, ?_⟩, ?_⟩, ?_⟩
  · exact Json.isArranged_of_mem_optional hset _ _
  · exact Json.isArranged_of_mem_optional hset _ _
  · exact Json.isArranged_of_mem_optional hkinds _ _
  · exact Json.isArranged_of_mem_optional hbound _ _
  · exact Json.isArranged_of_mem_optional hbound _ _
  · exact Json.isArranged_of_mem_optional hbound _ _
  · exact Json.isArranged_of_mem_optional hsearch _ _
  · exact List.forall_mem_map.mpr fun entry _ => hset entry.2

/-- **A filter is read back when no tag constraint stands under a fixed key.** -/
theorem readsBack (h : filter.IsWritable) : ReadsBack Filter.decode Filter.toJson filter where
  written := decode_object h (nodup_keys_members h) fun _ => rfl
  arranged := by
    obtain ⟨entries, hentries, hkeys, hfound⟩ := Json.exists_entries_arranged (nodup_keys_members h)
    rw [toJson_eq, hentries]
    refine decode_object h hkeys fun key => ?_
    rw [hfound]
    cases hnode : findIn? key filter.members with
    | none => rfl
    | some node => rw [Option.map_some, isArranged_of_mem_members _ (mem_of_findIn? hnode)]

/-- Filters are arranged one by one. -/
theorem arranged_filtersJson (filters : List Filter) :
    (filtersJson filters).arranged = .array (filters.map (fun filter => filter.toJson.arranged)) := by
  rw [filtersJson, Json.arranged_array, List.map_map]
  rfl

end Filter

/-! ### Request items -/

namespace RequestItem

variable {item : RequestItem}

/-- A request item can be written when its filters can. -/
def IsWritable (item : RequestItem) : Prop := ∀ filter ∈ item.filters.getD [], filter.IsWritable

/-- An object of the parts of a request item is read as the item. -/
theorem decode_object (encode : Filter → Json) {members : List (String × Json)}
    (hkeys : (members.map Prod.fst).Nodup)
    (hfilters : findIn? "filters" members =
      item.filters.map (fun filters => .array (filters.map encode)))
    (hrelays : findIn? "relays" members = item.relays.map Json.strings)
    (hread : ∀ filter ∈ item.filters.getD [], Filter.decode (encode filter) = .ok filter) :
    RequestItem.decode (Json.object members) = .ok item := by
  refine Record.decode_object (((Record.checked_start _).field _).field _) hkeys ?_
  refine Record.ofMembers_field (Record.ofMembers_field (Record.ofMembers_start _ _) ?filters) ?relays
  case filters =>
    cases hitem : item.filters with
    | none => rw [Record.fieldOf, hfilters, hitem, Option.map_none]
    | some filters =>
      rw [hitem] at hfilters hread
      exact Record.fieldOf_given hfilters (nullable_eq_some Json.noConfusion (list_array hread))
  case relays =>
    exact Record.fieldOf_nullable hrelays decodeTexts_strings fun _ => Json.noConfusion

/-- **A request item is read back when its filters can be written.** -/
theorem readsBack (h : item.IsWritable) : ReadsBack RequestItem.decode RequestItem.toJson item := by
  have hkeys : ((Json.optional "filters" filtersJson item.filters ++
      Json.optional "relays" Json.strings item.relays).map Prod.fst).Nodup := by
    have hnames : (["filters"] ++ ["relays"]).Nodup := by decide
    rw [List.map_append]
    exact hnames.sublist (keys_optional.append keys_optional)
  constructor
  case written =>
    refine decode_object Filter.toJson hkeys ?_ ?_ fun filter hmem =>
      (Filter.readsBack (h filter hmem)).written
    · simp [findIn?_append, findIn?_optional]
      rfl
    · simp [findIn?_append, findIn?_optional]
  case arranged =>
    obtain ⟨entries, hentries, hnodup, hfound⟩ := Json.exists_entries_arranged hkeys
    rw [toJson, hentries]
    refine decode_object (fun filter => filter.toJson.arranged) hnodup ?_ ?_
      fun filter hmem => (Filter.readsBack (h filter hmem)).arranged
    · simp [hfound, findIn?_append, findIn?_optional, Function.comp_def, Filter.arranged_filtersJson]
    · simp [hfound, findIn?_append, findIn?_optional, Function.comp_def]

/-- **The filters of a decoded request item can be written.** -/
theorem isWritable_of_decode {node : Json} (h : RequestItem.decode node = .ok item) :
    item.IsWritable := by
  obtain ⟨make, relays, hmake, -, rfl⟩ := (Record.makesOf_decode h).field
  obtain ⟨make, filters, hstart, hfilters, rfl⟩ := hmake.field
  obtain rfl := hstart.start
  obtain habsent | ⟨node, hnode⟩ := hfilters
  · cases habsent
    exact List.forall_mem_nil _
  · cases filters with
    | none => exact List.forall_mem_nil _
    | some filters =>
      intro filter hmem
      obtain ⟨part, hpart⟩ := exists_node_of_list (decode_of_nullable hnode) filter hmem
      exact Filter.isWritable_of_decode hpart

end RequestItem

/-! ### Subscriptions -/

namespace Subscription

variable {subscription : Subscription}

/-- A subscription can be written when its filters can. -/
def IsWritable (subscription : Subscription) : Prop :=
  ∀ filter ∈ subscription.filters, filter.IsWritable

/-- An object of the parts of a subscription is read as the subscription. -/
theorem decode_object (encode : Filter → Json) {members : List (String × Json)}
    (hkeys : (members.map Prod.fst).Nodup)
    (hrelays : findIn? "relays" members = some (Json.strings subscription.relays))
    (hfilters : findIn? "filters" members = some (.array (subscription.filters.map encode)))
    (hread : ∀ filter ∈ subscription.filters, Filter.decode (encode filter) = .ok filter) :
    Subscription.decode (Json.object members) = .ok subscription := by
  refine Record.decode_object (((Record.checked_start _).field _).field _) hkeys ?_
  refine Record.ofMembers_field (Record.ofMembers_field (Record.ofMembers_start _ _) ?relays) ?filters
  case relays => exact Record.fieldOf_given hrelays (decodeTexts_strings _)
  case filters => exact Record.fieldOf_given hfilters (list_array hread)

/-- **A subscription is read back when its filters can be written.** -/
theorem readsBack (h : subscription.IsWritable) :
    ReadsBack Subscription.decode Subscription.toJson subscription := by
  have hkeys : ([("relays", Json.strings subscription.relays),
      ("filters", filtersJson subscription.filters)].map Prod.fst).Nodup := by
    have hnames : ["relays", "filters"].Nodup := by decide
    exact hnames
  constructor
  case written =>
    exact decode_object Filter.toJson hkeys rfl rfl fun filter hmem =>
      (Filter.readsBack (h filter hmem)).written
  case arranged =>
    obtain ⟨entries, hentries, hnodup, hfound⟩ := Json.exists_entries_arranged hkeys
    rw [toJson, hentries]
    refine decode_object (fun filter => filter.toJson.arranged) hnodup ?_ ?_
      fun filter hmem => (Filter.readsBack (h filter hmem)).arranged
    · simp [hfound, findIn?]
    · simp [hfound, findIn?, Filter.arranged_filtersJson]

/-- **The filters of a decoded subscription can be written.** -/
theorem isWritable_of_decode {node : Json} (h : Subscription.decode node = .ok subscription) :
    subscription.IsWritable := by
  obtain ⟨make, filters, hmake, hfilters, rfl⟩ := (Record.makesOf_decode h).field
  obtain ⟨make, relays, hstart, -, rfl⟩ := hmake.field
  obtain rfl := hstart.start
  obtain habsent | ⟨node, hnode⟩ := hfilters
  · cases habsent
    exact List.forall_mem_nil _
  · intro filter hmem
    obtain ⟨part, hpart⟩ := exists_node_of_list hnode filter hmem
    exact Filter.isWritable_of_decode hpart

end Subscription

/-! ### Provider requests -/

namespace ProviderRequest

/-- An object of the parts of a provider request is read as the request. -/
theorem decode_object {request : ProviderRequest} {members : List (String × Json)}
    (hkeys : (members.map Prod.fst).Nodup)
    (hkind : findIn? "kind" members = some (.number (.ofUInt16 request.kind)))
    (htags : findIn? "tags" members = some (tagsJson request.tags))
    (hrelays : findIn? "relays" members = request.relays.map Json.strings) :
    ProviderRequest.decode (Json.object members) = .ok request := by
  refine Record.decode_object ((((Record.checked_start _).field _).field _).field _) hkeys ?_
  refine Record.ofMembers_field (Record.ofMembers_field (Record.ofMembers_field
    (Record.ofMembers_start _ _) ?kind) ?tags) ?relays
  case kind => exact Record.fieldOf_given hkind (uint16_number _)
  case tags => exact Record.fieldOf_given htags (list_array fun tag _ => decodeTexts_strings tag)
  case relays =>
    exact Record.fieldOf_nullable hrelays decodeTexts_strings fun _ => Json.noConfusion

/-- **A provider request is read back.** -/
theorem readsBack (request : ProviderRequest) :
    ReadsBack ProviderRequest.decode ProviderRequest.toJson request := by
  have hkeys : (([("kind", .number (.ofUInt16 request.kind)), ("tags", tagsJson request.tags)] ++
      Json.optional "relays" Json.strings request.relays).map Prod.fst).Nodup := by
    have hnames : (["kind", "tags"] ++ ["relays"]).Nodup := by decide
    rw [List.map_append]
    exact hnames.sublist ((List.Sublist.refl _).append keys_optional)
  have htags : (tagsJson request.tags).arranged = tagsJson request.tags :=
    Json.isArranged_array (List.forall_mem_map.mpr fun tag _ => Json.isArranged_strings tag)
  constructor
  case written =>
    refine decode_object hkeys ?_ ?_ ?_ <;> simp [findIn?_optional, findIn?]
  case arranged =>
    obtain ⟨entries, hentries, hnodup, hfound⟩ := Json.exists_entries_arranged hkeys
    rw [toJson, hentries]
    refine decode_object hnodup ?_ ?_ ?_ <;>
      simp [hfound, findIn?_optional, findIn?, htags, Json.arranged, Function.comp_def]

end ProviderRequest

/-! ### All of them -/

/-- **A mapping is read back when the key of its target begins with a hash.** -/
theorem TagMapping.readsBack {mapping : TagMapping} (h : mapping.isHashed = true) :
    ReadsBack TagMapping.decode TagMapping.toJson mapping := by
  refine .of_isArranged (Json.isArranged_array ?_) (TagMapping.decode_toJson h)
  exact List.forall_mem_cons.mpr ⟨rfl, List.forall_mem_singleton.mpr (Json.isArranged_strings _)⟩

/-- **What encoding and decoding make of filters, requests and mappings.** A filter without a tag
constraint under a fixed key is read back from its encoding, and so are request items and subscriptions
of such filters, all provider requests and the mappings whose tag key, if any, begins with a hash:
absent, empty and present lists as they were, whether the members of objects stand as they are written
or in order. Whatever is decoded from any value is of that form, and encoding after decoding settles at
once. -/
theorem filters_and_requests_round_trip :
    RoundTrips Filter.decode Filter.toJson Filter.IsWritable ∧
    RoundTrips RequestItem.decode RequestItem.toJson RequestItem.IsWritable ∧
    RoundTrips Subscription.decode Subscription.toJson Subscription.IsWritable ∧
    RoundTrips ProviderRequest.decode ProviderRequest.toJson (fun _ => True) ∧
    RoundTrips TagMapping.decode TagMapping.toJson (fun mapping => mapping.isHashed = true) := by
  refine ⟨?_, ?_, ?_, ?_, ?_⟩
  · exact roundTrips (fun _ => Filter.readsBack) fun _ _ => Filter.isWritable_of_decode
  · exact roundTrips (fun _ => RequestItem.readsBack) fun _ _ => RequestItem.isWritable_of_decode
  · exact roundTrips (fun _ => Subscription.readsBack) fun _ _ => Subscription.isWritable_of_decode
  · exact roundTrips (fun request _ => ProviderRequest.readsBack request) fun _ _ _ => trivial
  · exact roundTrips (fun _ => TagMapping.readsBack) fun _ _ => TagMapping.isHashed_of_decode

/-- An empty list of ids, which allows no event, is not taken for an absent one, which allows every
event; nor is an empty list of relays. -/
theorem empty_lists_round_trip :
    let filter : Filter :=
      { ids := some SortedSet.empty, tags := SortedMap.ofList [("#t", SortedSet.singleton "x")] }
    let item : RequestItem := { filters := some [filter], relays := some [] }
    RequestItem.decode item.toJson.arranged = .ok item := by
  intro filter item
  have hitem : item.IsWritable := List.forall_mem_singleton.mpr (by decide)
  exact (filters_and_requests_round_trip.2.1.readsBack item hitem).arranged

end RelayFeeds
