import Mathlib.Tactic.TFAE
import RelayFeeds.Proofs.Feed.Decoded
import RelayFeeds.Proofs.Feed.Items
import RelayFeeds.Proofs.Json.Reading

/-! # Feeds are read back

A feed is read back from its encoding when its keys begin with a hash, its fractions are finite and
its nodes of an unrecognised type have tags that are none of the recognised ones. Every decoded feed
is such a feed, whatever spelling of its items was decoded, so encoding after decoding settles at
once. Children are decoded from the arguments of a union or an intersection one by one; what has a
tag that is not recognised therefore stays where it is, as it was written.

* **`isWritable`** — the feeds that are read back.
* **`ofJson_toJson`** — a writable feed is read back.
* **`isWritable_of_ofJson`** — every decoded feed is writable.
* **`rel_valueAt?_nodeAt?`** — the node at a path of a decoded feed is what the value there decodes to.
* **`codec_round_trip`** — what encoding and decoding make of each other. -/

namespace RelayFeeds.Feed

open Decoder

/-! ### Feeds that are read back -/

/-- Whether the keys at a node begin with a hash, its fractions are finite, and its tag, when it is of
an unrecognised type, is none of the recognised ones. -/
def isWritableNode : Feed → Bool
  | .selector (.tag key _) => isHashed key
  | .trust windows => windows.all TrustWindow.isFinite
  | .provider items => items.all ProviderItem.isHashed
  | .list items => items.all ListItem.isHashed
  | .unknown tag _ => !knownTags.contains tag
  | _ => true

/-- Whether the keys of a feed begin with a hash, its fractions are finite, and its nodes of an
unrecognised type have tags that are none of the recognised ones. -/
def isWritable (feed : Feed) : Bool := feed.nodes.all isWritableNode

/-- A feed is writable when its node and its children are. -/
theorem isWritable_iff {feed : Feed} :
    feed.isWritable = true ↔
      feed.isWritableNode = true ∧ ∀ child ∈ feed.children, child.isWritable = true := by
  rw [isWritable, all_nodes, Bool.and_eq_true, List.all_eq_true]
  rfl

/-! ### Encoded feeds -/

/-- Feeds are read back one by one. -/
theorem ofJsonAll_toJsonAll {feeds : List Feed}
    (h : ∀ feed ∈ feeds, ofJson feed.toJson = .ok feed) :
    ofJsonAll (toJsonAll feeds) = .ok feeds := by
  induction feeds with
  | nil => rfl
  | cons feed rest ih =>
    obtain ⟨hfeed, hrest⟩ := List.forall_mem_cons.mp h
    rw [toJsonAll, ofJsonAll, hfeed, ih hrest]

section

variable {tag : String} {arguments : List Json}

/-- What has no children is decoded from its arguments as they are. -/
theorem ofJson_array (hunion : tag ≠ "union") (hintersection : tag ≠ "intersection") :
    ofJson (.array (.string tag :: arguments)) = ofArguments tag arguments := by
  rw [ofJson, if_neg hunion, if_neg hintersection]

/-- A leaf is read back when its values are. -/
theorem leaf_map {α : Type} {decode : Decoder Json α} {encode : α → Json} {values : List α}
    (make : List α → Feed) (h : ∀ value ∈ values, decode (encode value) = .ok value) :
    leaf tag decode make (values.map encode) = .ok (make values) := by
  rw [leaf, items_map h]

/-- A node with a tag that is not recognised is decoded to itself. -/
theorem ofJson_unknown (h : tag ∉ knownTags) :
    ofJson (.array (.string tag :: arguments)) = .ok (.unknown tag arguments) := by
  simp only [knownTags, List.mem_cons, List.not_mem_nil, or_false, not_or] at h
  simp only [ofJson, ofArguments, h, if_false]

end

/-- A selector is read back when its key begins with a hash. -/
theorem ofJson_toJson_selector {chosen : Selector}
    (h : isWritableNode (.selector chosen) = true) :
    ofJson (toJson (.selector chosen)) = .ok (.selector chosen) := by
  have hunion : chosen.typeName ≠ "union" := by cases chosen <;> simp [Selector.typeName]
  have hintersection : chosen.typeName ≠ "intersection" := by
    cases chosen <;> simp [Selector.typeName]
  rw [toJson, ofJson_array hunion hintersection]
  cases chosen with
  | address names => exact leaf_map _ fun _ _ => rfl
  | author authors => exact leaf_map _ fun _ _ => rfl
  | id ids => exact leaf_map _ fun _ _ => rfl
  | kind kinds => exact leaf_map _ fun kind _ => uint16_number kind
  | relay relays => exact leaf_map _ fun _ _ => rfl
  | search searches => exact leaf_map _ fun _ _ => rfl
  | tag key values =>
    have hitems : items string ((key :: values).map Json.string) = .ok (key :: values) :=
      items_map fun _ _ => rfl
    have hkey : tagKey key = key := tagKey_eq_self h
    have htag : tagLeaf ((key :: values).map .string) = .ok (.selector (.tag key values)) := by
      simp only [tagLeaf, hitems, hkey]
    exact htag

/-- **A writable feed is read back.** -/
theorem ofJson_toJson {feed : Feed} (h : feed.isWritable = true) :
    ofJson feed.toJson = .ok feed := by
  induction feed using treeInduction with
  | node feed ih =>
    obtain ⟨hnode, hchildren⟩ := isWritable_iff.mp h
    have hback : ∀ child ∈ feed.children, ofJson child.toJson = .ok child :=
      fun child hchild => ih child hchild (hchildren child hchild)
    cases feed with
    | union feeds =>
      have hall : ofJsonAll (toJsonAll feeds) = .ok feeds := ofJsonAll_toJsonAll hback
      rw [toJson, ofJson, if_pos rfl, hall]
      rfl
    | intersection feeds =>
      have hall : ofJsonAll (toJsonAll feeds) = .ok feeds := ofJsonAll_toJsonAll hback
      rw [toJson, ofJson, if_neg (by decide), if_pos rfl, hall]
      rfl
    | selector chosen => exact ofJson_toJson_selector hnode
    | scope scopes => exact leaf_map _ fun scope _ => scope.decode_toJson
    | time windows => exact leaf_map _ fun window _ => window.decode_toJson
    | trust windows =>
      exact leaf_map _ fun window hmem => TrustWindow.decode_toJson (List.all_eq_true.mp hnode _ hmem)
    | provider items =>
      exact leaf_map _ fun item hmem => ProviderItem.decode_toJson (List.all_eq_true.mp hnode _ hmem)
    | list items =>
      exact leaf_map _ fun item hmem => ListItem.decode_toJson (List.all_eq_true.mp hnode _ hmem)
    | unknown tag arguments =>
      rw [isWritableNode, Bool.not_eq_true', List.contains_eq_mem, decide_eq_false_iff_not] at hnode
      exact ofJson_unknown hnode

/-! ### Decoded feeds -/

section

variable {value : Json} {feed : Feed} {tag : String} {arguments : List Json}

/-- A decoded leaf is writable when it is with the values that its arguments can decode to. -/
theorem isWritableNode_of_leaf {α : Type} {decode : Decoder Json α} {make : List α → Feed}
    {P : α → Prop} (hyields : Yields decode P)
    (hmake : ∀ values, (∀ value ∈ values, P value) → (make values).isWritableNode = true)
    (harguments : ∀ argument ∈ arguments, argument.isFinite = true)
    (h : leaf tag decode make arguments = .ok feed) : feed.isWritableNode = true := by
  rw [leaf] at h
  split at h
  · rename_i values hvalues
    cases h
    exact hmake values (forall_of_items hyields harguments hvalues)
  · cases h

/-- What the arguments of a type tag without children decode to is writable. -/
theorem isWritableNode_of_ofArguments (hunion : tag ≠ "union")
    (hintersection : tag ≠ "intersection")
    (harguments : ∀ argument ∈ arguments, argument.isFinite = true) :
    ofArguments tag arguments = .ok feed → feed.isWritableNode = true := by
  have hleaf : ∀ {α : Type} {decode : Decoder Json α} {make : List α → Feed} {P : α → Prop},
      Yields decode P →
      (∀ values, (∀ value ∈ values, P value) → (make values).isWritableNode = true) →
      leaf tag decode make arguments = .ok feed → feed.isWritableNode = true :=
    fun hyields hmake => isWritableNode_of_leaf hyields hmake harguments
  rw [ofArguments]
  -- the eight types whose items are written in one way
  iterate 8
    refine iteInduction (motive := fun decoded : Except MalformedFeed Feed =>
      decoded = .ok feed → feed.isWritableNode = true)
      (fun _ => hleaf (yields_true _) fun _ _ => rfl) fun _ => ?_
  by_cases htrust : tag = "wot"
  · rw [if_pos htrust]
    exact hleaf TrustWindow.yields_decode fun _ => List.all_eq_true.mpr
  by_cases hprovider : tag = "dvm"
  · rw [if_neg htrust, if_pos hprovider]
    exact hleaf ProviderItem.yields_decode fun _ => List.all_eq_true.mpr
  by_cases hlist : tag = "list"
  · rw [if_neg htrust, if_neg hprovider, if_pos hlist]
    exact hleaf ListItem.yields_decode fun _ => List.all_eq_true.mpr
  rw [if_neg htrust, if_neg hprovider, if_neg hlist]
  by_cases htag : tag = "tag"
  · rw [if_pos htag, tagLeaf]
    intro h
    split at h
    · cases h
    · cases h
    · cases h
      exact isHashed_tagKey _
  · rw [if_neg htag]
    rintro ⟨⟩
    simp [isWritableNode, knownTags, *]

/-- The node of a feed decoded from a finite value is writable. -/
theorem isWritableNode_of_ofJson (hvalue : value.isFinite = true) (h : ofJson value = .ok feed) :
    feed.isWritableNode = true := by
  obtain ⟨tag, arguments, rfl, ⟨-, feeds, -, rfl⟩ | ⟨-, feeds, -, rfl⟩ |
    ⟨hunion, hintersection, hmade⟩⟩ := ofJson_cases h
  · rfl
  · rfl
  · obtain ⟨-, harguments⟩ := List.forall_mem_cons.mp (Json.isFinite_array.mp hvalue)
    exact isWritableNode_of_ofArguments hunion hintersection harguments hmade

/-- The values from which the children of a feed are decoded are finite. -/
theorem isFinite_of_mem_childValues (hvalue : value.isFinite = true) :
    ∀ child ∈ childValues value, child.isFinite = true := by
  rw [childValues.eq_def]
  split
  · split_ifs
    · exact (List.forall_mem_cons.mp (Json.isFinite_array.mp hvalue)).2
    · exact fun child hmem => absurd hmem List.not_mem_nil
  · exact fun child hmem => absurd hmem List.not_mem_nil

/-- **Every decoded feed is writable.** -/
theorem isWritable_of_ofJson (hvalue : value.isFinite = true) (h : ofJson value = .ok feed) :
    feed.isWritable = true := by
  induction feed using treeInduction generalizing value with
  | node feed ih =>
    refine isWritable_iff.mpr ⟨isWritableNode_of_ofJson hvalue h, fun child hchild => ?_⟩
    obtain ⟨earlier, hmem, hearlier⟩ := exists_childValue h hchild
    exact ih child hchild (isFinite_of_mem_childValues hvalue earlier hmem) hearlier

/-! ### Places of values and nodes -/

/-- The value at a path of argument numbers through unions and intersections. -/
def valueAt? : List Nat → Json → Option Json
  | [], value => some value
  | i :: path, value => (childValues value)[i]?.bind (valueAt? path)

/-- The node at a path of child numbers. -/
def nodeAt? : List Nat → Feed → Option Feed
  | [], feed => some feed
  | i :: path, feed => feed.children[i]?.bind (nodeAt? path)

/-- The nodes of a feed are those at its paths. -/
theorem mem_nodes_iff {node : Feed} :
    node ∈ feed.nodes ↔ ∃ path, nodeAt? path feed = some node := by
  induction feed using treeInduction with
  | node feed ih =>
    rw [nodes_eq_cons, List.mem_cons, List.mem_flatMap]
    constructor
    · rintro (rfl | ⟨child, hchild, hmem⟩)
      · exact ⟨[], rfl⟩
      · obtain ⟨path, hpath⟩ := (ih child hchild).mp hmem
        obtain ⟨i, hi⟩ := List.getElem?_of_mem hchild
        exact ⟨i :: path, by rw [nodeAt?, hi, Option.bind_some, hpath]⟩
    · rintro ⟨path, hpath⟩
      cases path with
      | nil =>
        cases hpath
        exact Or.inl rfl
      | cons i path =>
        obtain ⟨child, hi, hchild⟩ := Option.bind_eq_some_iff.mp hpath
        have hmem := List.mem_of_getElem? hi
        exact Or.inr ⟨child, hmem, (ih child hmem).mpr ⟨path, hchild⟩⟩

/-- **The node at a path of a decoded feed is what the value there decodes to.** -/
theorem rel_valueAt?_nodeAt? (h : ofJson value = .ok feed) (path : List Nat) :
    Option.Rel (fun value node => ofJson value = .ok node) (valueAt? path value)
      (nodeAt? path feed) := by
  induction path generalizing value feed with
  | nil => exact .some h
  | cons i path ih =>
    have hall := forall₂_childValues_children h
    rw [valueAt?, nodeAt?]
    -- there are as many values as children, so a number is within both or beyond both
    by_cases hi : i < feed.children.length
    · have hvalue : i < (childValues value).length := hall.length_eq.symm ▸ hi
      rw [List.getElem?_eq_getElem hi, List.getElem?_eq_getElem hvalue]
      exact ih (hall.get hvalue hi)
    · have hvalue : ¬i < (childValues value).length := hall.length_eq.symm ▸ hi
      rw [List.getElem?_eq_none (Nat.le_of_not_lt hi),
        List.getElem?_eq_none (Nat.le_of_not_lt hvalue)]
      exact .none

/-- What decodes to a node of an unrecognised type is the array of its tag and its arguments. -/
theorem eq_of_ofJson_unknown (h : ofJson value = .ok (.unknown tag arguments)) :
    value = .array (.string tag :: arguments) := by
  obtain ⟨earlier, values, rfl, ⟨-, feeds, -, hfeed⟩ | ⟨-, feeds, -, hfeed⟩ |
    ⟨hunion, hintersection, hmade⟩⟩ := ofJson_cases h
  · cases hfeed
  · cases hfeed
  · obtain ⟨-, hknown | ⟨hfeed, -⟩⟩ := ofArguments_cases hunion hintersection hmade
    · cases hknown
    · cases hfeed
      rfl

/-- **At a path of a decoded feed there is a node of an unrecognised type when the value there has its
tag and its arguments.** -/
theorem valueAt?_eq_unknown_iff (h : ofJson value = .ok feed) (path : List Nat)
    (htag : tag ∉ knownTags) :
    valueAt? path value = some (.array (.string tag :: arguments)) ↔
      nodeAt? path feed = some (.unknown tag arguments) := by
  have hrel := rel_valueAt?_nodeAt? h path
  generalize valueAt? path value = place at hrel ⊢
  generalize nodeAt? path feed = node at hrel ⊢
  cases hrel with
  | none => simp
  | some hdecode =>
    rw [Option.some.injEq, Option.some.injEq]
    constructor
    · rintro rfl
      rw [ofJson_unknown htag] at hdecode
      cases hdecode
      rfl
    · rintro rfl
      exact eq_of_ofJson_unknown hdecode

end

/-! ### Encoding after decoding -/

/-- The encoding of what a value decodes to. -/
def reencode (value : Json) : Except MalformedFeed Json := (ofJson value).map toJson

/-- Encoding after decoding once more changes nothing. -/
theorem reencode_reencode {value : Json} (hvalue : value.isFinite = true) :
    (reencode value).bind reencode = reencode value := by
  cases h : ofJson value with
  | error reason =>
    rw [reencode, h]
    rfl
  | ok feed =>
    have hback := ofJson_toJson (isWritable_of_ofJson hvalue h)
    calc
      (reencode value).bind reencode = reencode feed.toJson := by
        rw [reencode, h]
        rfl
      _ = .ok feed.toJson := by
        rw [reencode, hback]
        rfl
      _ = reencode value := by
        rw [reencode, h]
        rfl

/-- **What encoding and decoding make of each other.** A feed whose tag keys and mapping keys begin
with a hash, whose fractions are finite and whose nodes of an unrecognised type have no recognised tag
is read back from its encoding. Every feed that decodes from a JSON value is such a feed; so decoding
its encoding gives the feed again, and encoding after decoding settles at once. Every node of the feed
is at some path, and at every path the value, the feed and the encoding of the feed agree on whether
there is something of an unrecognised type, with which tag and with which arguments. The values of
JSON are the finite ones: every text denotes such a value. -/
theorem codec_round_trip :
    (∀ text value, Json.parse? text = some value → value.isFinite = true) ∧
    (∀ feed : Feed, feed.isWritable = true → ofJson feed.toJson = .ok feed) ∧
    ∀ value : Json, value.isFinite = true →
      (reencode value).bind reencode = reencode value ∧
      ∀ feed, ofJson value = .ok feed →
        feed.isWritable = true ∧ ofJson feed.toJson = .ok feed ∧
        (∀ node ∈ feed.nodes, ∃ path, nodeAt? path feed = some node) ∧
        ∀ (path : List Nat) (tag : String) (arguments : List Json), tag ∉ knownTags →
          [nodeAt? path feed = some (.unknown tag arguments),
            valueAt? path value = some (.array (.string tag :: arguments)),
            valueAt? path feed.toJson = some (.array (.string tag :: arguments))].TFAE := by
  refine ⟨fun _ _ => Json.isFinite_of_parse?, fun _ => ofJson_toJson, fun value hvalue =>
    ⟨reencode_reencode hvalue, ?_⟩⟩
  intro feed h
  have hwritable := isWritable_of_ofJson hvalue h
  have hback := ofJson_toJson hwritable
  refine ⟨hwritable, hback, fun _ => mem_nodes_iff.mp, fun path tag arguments htag => ?_⟩
  tfae_have 1 ↔ 2 := (valueAt?_eq_unknown_iff h path htag).symm
  tfae_have 1 ↔ 3 := (valueAt?_eq_unknown_iff hback path htag).symm
  tfae_finish

/-- A key without a hash is given one; a node that a newer client has written stays as it is. -/
example :
    reencode (.array [.string "union", .array [.string "tag", .string "t", .string "x"],
      .array [.string "hologram", .null, .array []]]) =
    .ok (.array [.string "union", .array [.string "tag", .string "#t", .string "x"],
      .array [.string "hologram", .null, .array []]]) := by rfl

end RelayFeeds.Feed
