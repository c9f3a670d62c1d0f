import RelayFeeds.Feed.Item
import RelayFeeds.Proofs.Json.Finite

/-! # Items of feeds are read back

The items of the leaves that look outside are written as texts, pairs and objects. Each is read back
as it was, as long as the keys of its mappings begin with a hash and its fractions are finite; what is
decoded is of that form, since a key without a hash is given one and no number of a JSON value is
infinite.

* **`TagMapping.decode_toJson`**, **`TimeWindow.decode_toJson`**, **`TrustWindow.decode_toJson`**,
  **`ProviderItem.decode_toJson`**, **`ListItem.decode_toJson`** — items are read back.
* **`TagMapping.yields_decode`**, **`TrustWindow.yields_decode`**, **`ProviderItem.yields_decode`**,
  **`ListItem.yields_decode`** — decoded items are of the form that is read back. -/

namespace RelayFeeds

open Decoder SortedMap

/-! ### Tag keys -/

/-- Whether a tag key begins with a hash. -/
def isHashed (key : String) : Bool := key.toList.head? == some '#'

/-- A key that begins with a hash is its own filter key. -/
theorem tagKey_eq_self {key : String} (h : isHashed key = true) : tagKey key = key := by
  rw [isHashed, beq_iff_eq] at h
  rw [tagKey]
  split
  · rfl
  · rename_i hother
    obtain ⟨rest, hkey⟩ := List.head?_eq_some_iff.mp h
    exact absurd hkey (hother rest)

/-- A filter key begins with a hash. -/
theorem isHashed_tagKey (name : String) : isHashed (tagKey name) = true := by
  rw [tagKey]
  split
  · rename_i rest hname
    rw [isHashed, hname]
    rfl
  · rw [isHashed, String.toList_append]
    rfl

/-! ### Texts -/

/-- Texts are read back. -/
theorem decodeTexts_strings (texts : List String) :
    decodeTexts (Json.strings texts) = .ok texts := list_strings texts

/-- A scope is read back. -/
theorem Scope.decode_toJson (scope : Scope) : Scope.decode scope.toJson = .ok scope := by
  cases scope <;> rfl

/-- A bound is read back. -/
theorem Bound.decode_toJson (bound : Bound) : Bound.decode bound.toJson = .ok bound := by
  cases bound <;> rfl

/-! ### Mappings -/

/-- Whether the key that values are put under, if any, begins with a hash. -/
def TagTarget.isHashed : TagTarget → Bool
  | .tag key => RelayFeeds.isHashed key
  | _ => true

/-- A target is spelt by its texts. -/
theorem TagTarget.ofTexts?_texts {target : TagTarget} (h : target.isHashed = true) :
    TagTarget.ofTexts? target.texts = some target := by
  cases target with
  | tag key => simp only [texts, ofTexts?, if_true, tagKey_eq_self h]
  | _ => rfl

/-- A key that texts spell begins with a hash. -/
theorem TagTarget.isHashed_of_ofTexts? {texts : List String} {target : TagTarget}
    (h : TagTarget.ofTexts? texts = some target) : target.isHashed = true := by
  rw [ofTexts?.eq_def] at h
  split at h
  · split_ifs at h <;> cases h <;> rfl
  · split_ifs at h
    cases h
    exact isHashed_tagKey _
  · cases h

namespace TagMapping

/-- Whether the target of a mapping has a key that begins with a hash, if it has any. -/
def isHashed (mapping : TagMapping) : Bool := mapping.target.isHashed

/-- **A mapping is read back.** -/
theorem decode_toJson {mapping : TagMapping} (h : mapping.isHashed = true) :
    TagMapping.decode mapping.toJson = .ok mapping := by
  have hpair : pair string decodeTexts mapping.toJson = .ok (mapping.tag, mapping.target.texts) :=
    pair_array rfl (decodeTexts_strings _)
  simp only [TagMapping.decode, hpair, TagTarget.ofTexts?_texts h]

/-- The key of a decoded mapping begins with a hash. -/
theorem isHashed_of_decode {node : Json} {mapping : TagMapping}
    (h : TagMapping.decode node = .ok mapping) : mapping.isHashed = true := by
  rw [TagMapping.decode] at h
  split at h
  · cases h
  · split at h
    · rename_i target htarget
      cases h
      exact TagTarget.isHashed_of_ofTexts? htarget
    · cases h

/-- **The keys of decoded mappings begin with a hash.** -/
theorem yields_decode : Yields TagMapping.decode (fun mapping => mapping.isHashed = true) :=
  fun _ _ _ => isHashed_of_decode

/-- The keys of the mappings that stand for none begin with a hash. -/
theorem isHashed_of_mem_defaults : ∀ mapping ∈ defaults, mapping.isHashed = true := by decide

/-- Mappings are read back. -/
theorem list_mappingsJson {mappings : List TagMapping}
    (h : ∀ mapping ∈ mappings, mapping.isHashed = true) :
    list TagMapping.decode (mappingsJson mappings) = .ok mappings :=
  list_array fun mapping hmem => decode_toJson (h mapping hmem)

end TagMapping

/-! ### Windows -/

namespace TimeWindow

/-- Members that hold the parts of a time window make up the window. -/
theorem ofMembers_record {window : TimeWindow} {members : List (String × Json)}
    (hsince : findIn? "since" members = window.since.map Filter.boundJson)
    (htill : findIn? "until" members = window.till.map Filter.boundJson)
    (hrelative : findIn? "relative" members =
      if window.relative.isEmpty then none else some (.array (window.relative.map Bound.toJson))) :
    record.ofMembers members = .ok window := by
  refine Record.ofMembers_field (Record.ofMembers_field (Record.ofMembers_field
    (Record.ofMembers_start _ _) ?since) ?till) ?relative
  case since => exact Record.fieldOf_nullable hsince uint64_number nofun
  case till => exact Record.fieldOf_nullable htill uint64_number nofun
  case relative => exact Record.fieldOf_list hrelative Bound.decode_toJson

/-- **A time window is read back.** -/
theorem decode_toJson (window : TimeWindow) : TimeWindow.decode window.toJson = .ok window := by
  refine Record.decode_object (((Record.checked_start _).field _).field _ |>.field _) ?keys ?fields
  case keys =>
    -- whatever is left out, the keys are some of three distinct ones
    have hkeys : (["relative"] ++ ["since"] ++ ["until"]).Nodup := by decide
    refine hkeys.sublist ?_
    rw [List.map_append, List.map_append]
    exact (keys_unless.append keys_optional).append keys_optional
  case fields =>
    apply ofMembers_record <;>
      simp only [findIn?_append, findIn?_optional, findIn?_unless] <;> simp

end TimeWindow

namespace TrustWindow

/-- Whether the bounds of a trust window are finite. -/
def isFinite (window : TrustWindow) : Bool := window.min.isFinite && window.max.isFinite

/-- A finite fraction is read back. -/
theorem double_fractionJson {x : Double} (h : x.isFinite = true) :
    double (fractionJson x) = .ok x := by
  rw [fractionJson, if_pos h]
  rfl

/-- **A trust window with finite bounds is read back.** -/
theorem decode_toJson {window : TrustWindow} (h : window.isFinite = true) :
    TrustWindow.decode window.toJson = .ok window := by
  obtain ⟨hmin, hmax⟩ := Bool.and_eq_true_iff.mp h
  have hkeys : ["max", "min"].Nodup := by decide
  refine Record.decode_object (((Record.checked_start _).field _).field _) (by exact hkeys) ?_
  refine Record.ofMembers_field (Record.ofMembers_field (Record.ofMembers_start _ _) ?min) ?max
  case min => exact Record.fieldOf_given rfl (double_fractionJson hmin)
  case max => exact Record.fieldOf_given rfl (double_fractionJson hmax)

/-- **The bounds of decoded trust windows are finite.** -/
theorem yields_decode : Yields TrustWindow.decode (fun window => window.isFinite = true) := by
  refine Record.Makes.yields_decode ?_ _
  refine Record.Makes.field (P := fun x => x.isFinite = true)
    (Record.Makes.field (P := fun x => x.isFinite = true) (Record.makes_start ?_) yields_double ?_)
    yields_double ?_
  · exact fun min hmin max hmax => Bool.and_eq_true_iff.mpr ⟨hmin, hmax⟩
  · intro absent habsent
    rw [← Option.some.inj habsent]
    decide
  · intro absent habsent
    rw [← Option.some.inj habsent]
    exact Double.isFinite_ofInt (by decide)

end TrustWindow

/-! ### Items with mappings -/

namespace ProviderItem

/-- Whether the keys of the mappings of an item begin with a hash. -/
def isHashed (item : ProviderItem) : Bool := item.mappings.all TagMapping.isHashed

/-- Members that hold the parts of a provider item make up the item. -/
theorem ofMembers_record {item : ProviderItem} {members : List (String × Json)}
    (h : item.isHashed = true)
    (hkind : findIn? "kind" members = some (.number (.ofUInt16 item.kind)))
    (htags : findIn? "tags" members =
      if item.tags.isEmpty then none else some (.array (item.tags.map Json.strings)))
    (hrelays : findIn? "relays" members = item.relays.map Json.strings)
    (hmappings : findIn? "mappings" members = some (mappingsJson item.mappings)) :
    record.ofMembers members = .ok item := by
  refine Record.ofMembers_field (Record.ofMembers_field (Record.ofMembers_field
    (Record.ofMembers_field (Record.ofMembers_start _ _) ?kind) ?tags) ?relays) ?mappings
  case kind => exact Record.fieldOf_given hkind (uint16_number _)
  case tags => exact Record.fieldOf_list htags decodeTexts_strings
  case relays => exact Record.fieldOf_nullable hrelays decodeTexts_strings nofun
  case mappings =>
    exact Record.fieldOf_given hmappings (TagMapping.list_mappingsJson (List.all_eq_true.mp h))

/-- **A provider item is read back when the keys of its mappings begin with a hash.** -/
theorem decode_toJson {item : ProviderItem} (h : item.isHashed = true) :
    ProviderItem.decode item.toJson = .ok item := by
  refine Record.decode_object ((((Record.checked_start _).field _).field _).field _ |>.field _)
    ?keys ?fields
  case keys =>
    have hkeys : (["kind", "mappings"] ++ ["relays"] ++ ["tags"]).Nodup := by decide
    refine hkeys.sublist ?_
    rw [List.map_append, List.map_append]
    exact ((List.Sublist.refl _).append keys_optional).append keys_unless
  case fields =>
    apply ofMembers_record h <;>
      simp only [findIn?_append, findIn?_optional, findIn?_unless, findIn?] <;> simp [tagsJson]

/-- **The keys of the mappings of decoded provider items begin with a hash.** -/
theorem yields_decode : Yields ProviderItem.decode (fun item => item.isHashed = true) := by
  refine Record.Makes.yields_decode ?_ _
  refine Record.Makes.field (P := fun mappings => ∀ mapping ∈ mappings, mapping.isHashed = true)
    (Record.Makes.field (Record.Makes.field (Record.Makes.field (Record.makes_start ?_)
      (yields_true _) ?_) (yields_true _) ?_) (yields_true _) ?_)
    TagMapping.yields_decode.list ?_
  · exact fun kind _ tags _ relays _ mappings hmappings => List.all_eq_true.mpr hmappings
  · exact fun _ _ => trivial
  · exact fun _ _ => trivial
  · exact fun _ _ => trivial
  · rintro absent ⟨⟩
    exact TagMapping.isHashed_of_mem_defaults

end ProviderItem

namespace ListItem

/-- Whether the keys of the mappings of an item begin with a hash. -/
def isHashed (item : ListItem) : Bool := item.mappings.all TagMapping.isHashed

/-- **A list item is read back when the keys of its mappings begin with a hash.** -/
theorem decode_toJson {item : ListItem} (h : item.isHashed = true) :
    ListItem.decode item.toJson = .ok item := by
  have hkeys : ["addresses", "mappings"].Nodup := by decide
  refine Record.decode_object (((Record.checked_start _).field _).field _) (by exact hkeys) ?_
  refine Record.ofMembers_field (Record.ofMembers_field (Record.ofMembers_start _ _) ?addresses)
    ?mappings
  case addresses => exact Record.fieldOf_given rfl (decodeTexts_strings _)
  case mappings =>
    exact Record.fieldOf_given rfl (TagMapping.list_mappingsJson (List.all_eq_true.mp h))

/-- **The keys of the mappings of decoded list items begin with a hash.** -/
theorem yields_decode : Yields ListItem.decode (fun item => item.isHashed = true) := by
  refine Record.Makes.yields_decode ?_ _
  refine Record.Makes.field (P := fun mappings => ∀ mapping ∈ mappings, mapping.isHashed = true)
    (Record.Makes.field (Record.makes_start ?_) (yields_true _) ?_)
    TagMapping.yields_decode.list ?_
  · exact fun addresses _ mappings hmappings => List.all_eq_true.mpr hmappings
  · exact fun _ _ => trivial
  · rintro absent ⟨⟩
    exact TagMapping.isHashed_of_mem_defaults

end ListItem

end RelayFeeds
