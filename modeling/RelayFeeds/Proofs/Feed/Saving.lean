import RelayFeeds.Proofs.Feed.RoundTrip
import RelayFeeds.Proofs.Json.Legible

/-! # Saved feeds

A feed that is loaded from a text is saved as the compact text of its encoding. Mappings that the text
leaves out are written, which can nest the saved text deeper than the text was, and arguments of an
unrecognised type are kept with their doubles, which need not be read back from their own texts. These
are the only obstacles to loading the saved text: then it gives the feed again.

* **`isArranged_toJson`** — the encoding of a decoded feed is arranged.
* **`doubles_toJson`** — without trust nodes, the doubles of an encoding are those kept in nodes of an
  unrecognised type.
* **`depth_toJson_le`** — an encoding is nested at most three deeper than what was decoded.
* **`saved_feed_loads_again`** — which feeds are loaded again. -/

namespace RelayFeeds

/-! ### Simple values -/

namespace Json

/-- A value with its members in order, without doubles, and nested at most so deep. -/
structure IsSimple (limit : Nat) (value : Json) : Prop where
  /-- The members of objects are in order. -/
  arranged : value.IsArranged
  /-- There are no doubles. -/
  doubles : value.doubles = []
  /-- It is not nested deeper. -/
  depth : value.depth ≤ limit

variable {limit : Nat}

/-- A text is simple. -/
theorem isSimple_string (text : String) : (Json.string text).IsSimple limit :=
  ⟨rfl, rfl, Nat.zero_le _⟩

/-- A 16-bit number is simple. -/
theorem isSimple_uint16 (n : UInt16) : (Json.number (.ofUInt16 n)).IsSimple limit :=
  ⟨rfl, rfl, Nat.zero_le _⟩

/-- A 64-bit number is simple. -/
theorem isSimple_uint64 (n : UInt64) : (Json.number (.ofUInt64 n)).IsSimple limit :=
  ⟨rfl, rfl, Nat.zero_le _⟩

/-- An array of simple items is simple. -/
theorem isSimple_array {items : List Json} (h : ∀ item ∈ items, item.IsSimple limit) :
    (Json.array items).IsSimple (limit + 1) where
  arranged := isArranged_array fun item hmem => (h item hmem).arranged
  doubles := by
    rw [doubles_array, List.flatMap_eq_nil_iff]
    exact fun item hmem => (h item hmem).doubles
  depth := depth_array_le_iff.mpr fun item hmem => (h item hmem).depth

/-- An object of simple values whose keys ascend is simple. -/
theorem isSimple_object {members : List (String × Json)}
    (hkeys : Ordered.Ascending (members.map Prod.fst))
    (h : ∀ member ∈ members, member.2.IsSimple limit) :
    (Json.object members).IsSimple (limit + 1) where
  arranged := isArranged_object hkeys fun member hmem => (h member hmem).arranged
  doubles := by
    rw [doubles_object, List.flatMap_eq_nil_iff]
    exact fun member hmem => (h member hmem).doubles
  depth := depth_object_le_iff.mpr fun member hmem => (h member hmem).depth

/-- What is nested less is simple within a greater limit. -/
theorem IsSimple.mono {value : Json} {bound : Nat} (h : value.IsSimple limit) (hle : limit ≤ bound) :
    value.IsSimple bound := ⟨h.arranged, h.doubles, h.depth.trans hle⟩

/-- An array of texts is simple. -/
theorem isSimple_strings (texts : List String) : (Json.strings texts).IsSimple (limit + 1) :=
  isSimple_array (List.forall_mem_map.mpr fun text _ => isSimple_string text)

/-- A member that is left out when its value is absent is simple. -/
theorem isSimple_of_mem_optional {α : Type} {encode : α → Json}
    (h : ∀ value, (encode value).IsSimple limit) (key : String) (value : Option α) :
    ∀ member ∈ Json.optional key encode value, member.2.IsSimple limit := by
  cases value with
  | none => exact List.forall_mem_nil _
  | some value => exact List.forall_mem_singleton.mpr (h value)

/-- A member that is left out on a condition is simple. -/
theorem isSimple_of_mem_unless {absent : Bool} {node : Json} (h : node.IsSimple limit)
    (key : String) : ∀ member ∈ (if absent then [] else [(key, node)]), member.2.IsSimple limit := by
  cases absent with
  | true => exact List.forall_mem_nil _
  | false => exact List.forall_mem_singleton.mpr h

end Json

open Json

/-! ### Items -/

/-- Mappings are simple. -/
theorem isSimple_mappingsJson (mappings : List TagMapping) : (mappingsJson mappings).IsSimple 3 := by
  refine isSimple_array (List.forall_mem_map.mpr fun mapping _ => isSimple_array ?_)
  exact List.forall_mem_cons.mpr
    ⟨isSimple_string _, List.forall_mem_singleton.mpr (isSimple_strings _)⟩

/-- A time window is simple. -/
theorem TimeWindow.isSimple_toJson (window : TimeWindow) : window.toJson.IsSimple 2 := by
  refine isSimple_object ?keys ?values
  case keys =>
    have hkeys : Ordered.Ascending (["relative"] ++ ["since"] ++ ["until"]) := by decide
    refine hkeys.sublist ?_
    rw [List.map_append, List.map_append]
    exact (keys_unless.append keys_optional).append keys_optional
  case values =>
    simp only [List.forall_mem_append]
    refine ⟨⟨isSimple_of_mem_unless ?_ _, ?_⟩, ?_⟩
    · exact isSimple_array (List.forall_mem_map.mpr fun bound _ => isSimple_string _)
    · exact isSimple_of_mem_optional isSimple_uint64 _ _
    · exact isSimple_of_mem_optional isSimple_uint64 _ _

/-- A provider item is simple. -/
theorem ProviderItem.isSimple_toJson (item : ProviderItem) : item.toJson.IsSimple 4 := by
  refine isSimple_object ?keys ?values
  case keys =>
    have hkeys : Ordered.Ascending (["kind", "mappings"] ++ ["relays"] ++ ["tags"]) := by decide
    refine hkeys.sublist ?_
    rw [List.map_append, List.map_append]
    exact ((List.Sublist.refl _).append keys_optional).append keys_unless
  case values =>
    simp only [List.forall_mem_append, List.forall_mem_cons, List.not_mem_nil]
    refine ⟨⟨⟨isSimple_uint16 _, isSimple_mappingsJson _, nofun⟩, ?_⟩, isSimple_of_mem_unless ?_ _⟩
    · exact isSimple_of_mem_optional isSimple_strings _ _
    · exact isSimple_array (List.forall_mem_map.mpr fun tag _ => isSimple_strings tag)

/-- A list item is simple. -/
theorem ListItem.isSimple_toJson (item : ListItem) : item.toJson.IsSimple 4 := by
  have hkeys : Ordered.Ascending ["addresses", "mappings"] := by decide
  refine isSimple_object hkeys ?_
  exact List.forall_mem_cons.mpr
    ⟨isSimple_strings _, List.forall_mem_singleton.mpr (isSimple_mappingsJson _)⟩

/-- The arguments of a selector are simple. -/
theorem Selector.isSimple_arguments (chosen : Selector) :
    ∀ argument ∈ chosen.arguments, argument.IsSimple 0 := by
  have htexts : ∀ texts : List String, ∀ argument ∈ texts.map Json.string, argument.IsSimple 0 :=
    fun texts => List.forall_mem_map.mpr fun text _ => isSimple_string text
  cases chosen with
  | kind kinds => exact List.forall_mem_map.mpr fun kind _ => isSimple_uint16 kind
  | tag key values => exact htexts (key :: values)
  | _ => exact htexts _

/-- What is decoded as a record is a container. -/
theorem Record.one_le_depth_of_decode {α : Type} {record : Record Json α} {name : String}
    {node : Json} {value : α} (h : record.decode name node = .ok value) : 1 ≤ node.depth := by
  cases node with
  | array items => exact Nat.le_add_left _ _
  | object members => exact Nat.le_add_left _ _
  | _ => cases h

/-- A trust window is an object of fractions. -/
theorem TrustWindow.depth_toJson_le (window : TrustWindow) : window.toJson.depth ≤ 1 := by
  have hfraction : ∀ x : Double, (fractionJson x).depth ≤ 0 := by
    intro x
    rw [fractionJson]
    split <;> exact Nat.le_refl 0
  refine depth_object_le_iff.mpr ?_
  exact List.forall_mem_cons.mpr ⟨hfraction _, List.forall_mem_singleton.mpr (hfraction _)⟩

/-- A trust window is arranged. -/
theorem TrustWindow.isArranged_toJson (window : TrustWindow) : window.toJson.IsArranged := by
  have hkeys : Ordered.Ascending ["max", "min"] := by decide
  have hfraction : ∀ x : Double, (fractionJson x).IsArranged := by
    intro x
    rw [fractionJson]
    split <;> rfl
  refine isArranged_object hkeys ?_
  exact List.forall_mem_cons.mpr ⟨hfraction _, List.forall_mem_singleton.mpr (hfraction _)⟩

namespace Feed

/-! ### Leaves -/

/-- Whether a node is a leaf whose items have a form of their own and no doubles. -/
def isItemized : Feed → Bool
  | .selector _ | .scope _ | .time _ | .provider _ | .list _ => true
  | _ => false

/-- A node is simple when its arguments are. -/
theorem isSimple_leaf {tag : String} {arguments : List Json} {limit : Nat}
    (h : ∀ argument ∈ arguments, argument.IsSimple limit) :
    (Json.array (.string tag :: arguments)).IsSimple (limit + 1) :=
  isSimple_array (List.forall_mem_cons.mpr ⟨isSimple_string tag, h⟩)

/-- **The encodings of leaves without doubles are simple.** -/
theorem isSimple_toJson {feed : Feed} (h : feed.isItemized = true) : feed.toJson.IsSimple 5 := by
  cases feed with
  | selector chosen => exact (isSimple_leaf chosen.isSimple_arguments).mono (by decide)
  | scope scopes =>
    have hscopes : ∀ scope ∈ scopes.map Scope.toJson, scope.IsSimple 0 :=
      List.forall_mem_map.mpr fun scope _ => isSimple_string scope.name
    exact (isSimple_leaf hscopes).mono (by decide)
  | time windows =>
    have hwindows := List.forall_mem_map.mpr fun window (_ : window ∈ windows) =>
      window.isSimple_toJson
    exact (isSimple_leaf hwindows).mono (by decide)
  | provider items =>
    exact isSimple_leaf (List.forall_mem_map.mpr fun item _ => item.isSimple_toJson)
  | list items =>
    exact isSimple_leaf (List.forall_mem_map.mpr fun item _ => item.isSimple_toJson)
  | _ => cases h

/-! ### Encodings -/

section

variable {value : Json} {feed : Feed}

/-- Feeds are written one by one. -/
theorem toJsonAll_eq_map (feeds : List Feed) : toJsonAll feeds = feeds.map toJson := by
  induction feeds with
  | nil => rfl
  | cons feed rest ih => rw [toJsonAll, ih, List.map_cons]

/-- The values of the children of an arranged value are arranged. -/
theorem isArranged_of_mem_childValues (h : value.IsArranged) :
    ∀ child ∈ childValues value, child.IsArranged := by
  rw [childValues.eq_def]
  split
  · split_ifs
    · exact (List.forall_mem_cons.mp h.of_mem_array).2
    · exact List.forall_mem_nil _
  · exact List.forall_mem_nil _

/-- **The encoding of a decoded feed is arranged.** -/
theorem isArranged_toJson (hvalue : value.IsArranged) (h : ofJson value = .ok feed) :
    feed.toJson.IsArranged := by
  induction feed using treeInduction generalizing value with
  | node feed ih =>
    have hchildren : ∀ child ∈ feed.children, child.toJson.IsArranged := by
      intro child hchild
      obtain ⟨earlier, hmem, hearlier⟩ := exists_childValue h hchild
      exact ih child hchild (isArranged_of_mem_childValues hvalue earlier hmem) hearlier
    cases feed with
    | union feeds =>
      rw [toJson, toJsonAll_eq_map]
      exact isArranged_array (List.forall_mem_cons.mpr ⟨rfl, List.forall_mem_map.mpr hchildren⟩)
    | intersection feeds =>
      rw [toJson, toJsonAll_eq_map]
      exact isArranged_array (List.forall_mem_cons.mpr ⟨rfl, List.forall_mem_map.mpr hchildren⟩)
    | unknown tag arguments => rwa [toJson, ← eq_of_ofJson_unknown h]
    | trust windows =>
      exact isArranged_array (List.forall_mem_cons.mpr
        ⟨rfl, List.forall_mem_map.mpr fun window _ => window.isArranged_toJson⟩)
    | _ => exact (isSimple_toJson rfl).arranged

/-- The doubles among the arguments of a node of an unrecognised type. -/
def nodeDoubles : Feed → List Double
  | .unknown _ arguments => arguments.flatMap Json.doubles
  | _ => []

/-- The doubles that a feed keeps among the arguments of its nodes of an unrecognised type. -/
def keptDoubles (feed : Feed) : List Double := feed.nodes.flatMap nodeDoubles

/-- A feed keeps the doubles of its node and those of its children. -/
theorem keptDoubles_eq (feed : Feed) :
    feed.keptDoubles = feed.nodeDoubles ++ feed.children.flatMap keptDoubles := by
  rw [keptDoubles, nodes_eq_cons, List.flatMap_cons, List.flatMap_assoc]
  rfl

/-- The doubles of the encoding of children are those of each. -/
theorem doubles_toJsonAll {tag : String} {feeds : List Feed}
    (h : ∀ feed ∈ feeds, feed.toJson.doubles = feed.keptDoubles) :
    (Json.array (.string tag :: toJsonAll feeds)).doubles = feeds.flatMap keptDoubles := by
  rw [doubles_array, toJsonAll_eq_map, List.flatMap_cons, List.flatMap_map]
  exact List.flatMap_congr h

/-- **Without trust nodes the doubles of an encoding are those that are kept.** -/
theorem doubles_toJson (h : ∀ windows, .trust windows ∉ feed.nodes) :
    feed.toJson.doubles = feed.keptDoubles := by
  induction feed using treeInduction with
  | node feed ih =>
    rw [nodes_eq_cons] at h
    have hchildren : ∀ child ∈ feed.children, child.toJson.doubles = child.keptDoubles := by
      refine fun child hchild => ih child hchild fun windows hmem => h windows ?_
      exact List.mem_cons_of_mem _ (List.mem_flatMap.mpr ⟨child, hchild, hmem⟩)
    rw [keptDoubles_eq]
    cases feed with
    | union feeds => exact doubles_toJsonAll hchildren
    | intersection feeds => exact doubles_toJsonAll hchildren
    | unknown tag arguments => simp [toJson, doubles_array, children, nodeDoubles, doubles]
    | trust windows => exact absurd List.mem_cons_self (h windows)
    | _ => exact (isSimple_toJson rfl).doubles

/-! ### Depth of encodings -/

/-- An array is at most so much deeper than another as its items are deeper than items of that. -/
theorem depth_array_le_add {items others : List Json} {more : Nat}
    (h : ∀ item ∈ items, ∃ other ∈ others, item.depth ≤ other.depth + more) :
    (Json.array items).depth ≤ (Json.array others).depth + more := by
  obtain ⟨limit, hlimit⟩ : ∃ limit, (Json.array others).depth = limit + 1 := ⟨_, rfl⟩
  have hothers : ∀ other ∈ others, other.depth ≤ limit := depth_array_le_iff.mp hlimit.le
  rw [hlimit, Nat.add_right_comm]
  refine depth_array_le_iff.mpr fun item hmem => ?_
  obtain ⟨other, hother, hle⟩ := h item hmem
  have := hothers other hother
  omega

/-- A decoded leaf is written at most three deeper when its items are. -/
theorem depth_leaf_le {α : Type} {decode : Decoder Json α} {encode : α → Json}
    {make : List α → Feed} {tag name : String} {arguments : List Json}
    (hmake : ∀ values, (make values).toJson = .array (.string name :: values.map encode))
    (hitem : ∀ argument value, decode argument = .ok value →
      (encode value).depth ≤ argument.depth + 3)
    (h : leaf tag decode make arguments = .ok feed) :
    feed.toJson.depth ≤ (Json.array (.string tag :: arguments)).depth + 3 := by
  rw [leaf] at h
  split at h
  · rename_i values hvalues
    cases h
    rw [hmake]
    refine depth_array_le_add (List.forall_mem_cons.mpr
      ⟨⟨_, List.mem_cons_self, Nat.zero_le _⟩, List.forall_mem_map.mpr fun value hmem => ?_⟩)
    obtain ⟨argument, hargument, hvalue⟩ := Decoder.exists_node_of_items hvalues value hmem
    exact ⟨argument, List.mem_cons_of_mem _ hargument, hitem argument value hvalue⟩
  · cases h

/-- What the arguments of a type tag without children decode to is written at most three deeper. -/
theorem depth_ofArguments_le {tag : String} {arguments : List Json} :
    ofArguments tag arguments = .ok feed →
      feed.toJson.depth ≤ (Json.array (.string tag :: arguments)).depth + 3 := by
  rw [ofArguments]
  -- the seven types whose items are no containers
  iterate 7
    refine iteInduction (motive := fun decoded : Except MalformedFeed Feed =>
      decoded = .ok feed → feed.toJson.depth ≤ (Json.array (.string tag :: arguments)).depth + 3)
      (fun _ => depth_leaf_le (fun _ => rfl) fun _ _ _ => Nat.zero_le _) fun _ => ?_
  split_ifs
  · exact depth_leaf_le (fun _ => rfl) fun argument window _ =>
      window.isSimple_toJson.depth.trans (by omega)
  · exact depth_leaf_le (fun _ => rfl) fun argument window _ =>
      window.depth_toJson_le.trans (by omega)
  · refine depth_leaf_le (fun _ => rfl) fun argument item hitem => ?_
    have hargument := Record.one_le_depth_of_decode hitem
    exact item.isSimple_toJson.depth.trans (by omega)
  · refine depth_leaf_le (fun _ => rfl) fun argument item hitem => ?_
    have hargument := Record.one_le_depth_of_decode hitem
    exact item.isSimple_toJson.depth.trans (by omega)
  · intro h
    obtain ⟨key, values, rfl⟩ := exists_eq_tag_of_tagLeaf h
    have hdepth : (toJson (.selector (.tag key values))).depth ≤ 1 :=
      (isSimple_leaf (Selector.isSimple_arguments (.tag key values))).depth
    exact hdepth.trans (by omega)
  · rintro ⟨⟩
    exact Nat.le_add_right _ _

/-- Children that are written at most three deeper make a node that is. -/
theorem depth_toJsonAll_le {tag : String} {feeds : List Feed} {arguments : List Json}
    (h : ∀ feed ∈ feeds, ∃ argument ∈ arguments, feed.toJson.depth ≤ argument.depth + 3) :
    (Json.array (.string tag :: toJsonAll feeds)).depth ≤
      (Json.array (.string tag :: arguments)).depth + 3 := by
  rw [toJsonAll_eq_map]
  refine depth_array_le_add (List.forall_mem_cons.mpr
    ⟨⟨_, List.mem_cons_self, Nat.le_add_right _ _⟩, List.forall_mem_map.mpr fun feed hmem => ?_⟩)
  obtain ⟨argument, hargument, hle⟩ := h feed hmem
  exact ⟨argument, List.mem_cons_of_mem _ hargument, hle⟩

/-- **An encoding is nested at most three deeper than what was decoded.** -/
theorem depth_toJson_le (h : ofJson value = .ok feed) : feed.toJson.depth ≤ value.depth + 3 := by
  induction feed using treeInduction generalizing value with
  | node feed ih =>
    have hchildren : ∀ child ∈ feed.children, ∃ earlier ∈ childValues value,
        child.toJson.depth ≤ earlier.depth + 3 := by
      intro child hchild
      obtain ⟨earlier, hmem, hearlier⟩ := exists_childValue h hchild
      exact ⟨earlier, hmem, ih child hchild hearlier⟩
    obtain ⟨tag, arguments, rfl, ⟨rfl, feeds, -, rfl⟩ | ⟨rfl, feeds, -, rfl⟩ |
      ⟨-, -, hmade⟩⟩ := ofJson_cases h
    · exact depth_toJsonAll_le hchildren
    · exact depth_toJsonAll_le hchildren
    · exact depth_ofArguments_le hmade

/-! ### Loading saved feeds -/

/-- The values of children are reread one by one. -/
theorem exists_reread?_childValues {limit : Nat} {denoted : Json} (h : ofJson value = .ok feed)
    (hdenoted : value.reread? limit = some denoted) :
    ∃ limit, List.Forall₂ (fun child later => child.reread? limit = some later)
      (childValues value) (childValues denoted) := by
  obtain ⟨tag, arguments, rfl, -⟩ := ofJson_cases h
  cases limit with
  | zero => cases hdenoted
  | succ limit =>
    obtain ⟨values, hvalues, rfl⟩ := Option.map_eq_some_iff.mp hdenoted
    obtain ⟨first, others, hfirst, hothers, rfl⟩ :=
      List.forall₂_cons_left_iff.mp (rereadItems?_eq_some_iff.mp hvalues)
    rw [reread?, Option.some.injEq] at hfirst
    subst hfirst
    refine ⟨limit, ?_⟩
    rw [childValues, childValues]
    split_ifs
    · exact hothers
    · exact .nil

/-- **The doubles that a feed keeps are legible** when it is decoded from a value and from what the
text of that value denotes. -/
theorem isLegible_of_reread? {limit : Nat} {denoted : Json} (hvalue : value.IsArranged)
    (h : ofJson value = .ok feed) (hdenoted : value.reread? limit = some denoted)
    (hback : ofJson denoted = .ok feed) : ∀ x ∈ feed.keptDoubles, x.IsLegible := by
  induction feed using treeInduction generalizing value denoted limit with
  | node feed ih =>
    rw [keptDoubles_eq, List.forall_mem_append, List.forall_mem_flatMap]
    constructor
    · cases feed with
      | unknown tag arguments =>
        -- both values are the array of the tag and the arguments
        obtain rfl := eq_of_ofJson_unknown h
        obtain rfl := eq_of_ofJson_unknown hback
        have hdoubles := ((reread?_eq_self_iff hvalue).mp hdenoted).2
        rwa [doubles_array, List.flatMap_cons] at hdoubles
      | _ => exact List.forall_mem_nil _
    · intro child hchild
      obtain ⟨i, hi, rfl⟩ := List.mem_iff_getElem.mp hchild
      obtain ⟨limit, hreread⟩ := exists_reread?_childValues h hdenoted
      have hchildren := forall₂_childValues_children h
      have hlater := forall₂_childValues_children hback
      have hi₁ : i < (childValues value).length := hchildren.length_eq ▸ hi
      have hi₂ : i < (childValues denoted).length := hlater.length_eq ▸ hi
      exact ih _ hchild (isArranged_of_mem_childValues hvalue _ (List.getElem_mem hi₁))
        (hchildren.get hi₁ hi) (hreread.get hi₁ hi₂) (hlater.get hi₂ hi)

/-- What is nested too deep is rejected. -/
theorem parse_print_of_deep (h : Reading.depthLimit < value.depth) :
    parse value.print = .error .notJson := by
  have hnone : value.reread? Reading.depthLimit = none :=
    Option.eq_none_iff_forall_ne_some.mpr fun denoted hdenoted =>
      absurd (depth_le_of_reread? hdenoted) h.not_ge
  rw [parse, parse?_print, hnone]

/-- What has its members in order and is read back is decoded from its text. -/
theorem parse_print_of_legible (harranged : value.IsArranged)
    (hdepth : value.depth ≤ Reading.depthLimit) (h : ∀ x ∈ value.doubles, x.IsLegible) :
    parse value.print = ofJson value := by
  rw [parse, parse?_print, (reread?_eq_self_iff harranged).mpr ⟨hdepth, h⟩]

/-- A saved feed is loaded again exactly when its encoding is not nested too deep and the doubles that
it keeps are legible. -/
theorem parse_print_toJson_iff (harranged : feed.toJson.IsArranged)
    (hback : ofJson feed.toJson = .ok feed) (htrust : ∀ windows, .trust windows ∉ feed.nodes) :
    parse feed.toJson.print = .ok feed ↔
      feed.toJson.depth ≤ Reading.depthLimit ∧ ∀ x ∈ feed.keptDoubles, x.IsLegible := by
  constructor
  · intro h
    rw [parse, parse?_print] at h
    split at h
    · cases h
    · rename_i denoted hdenoted
      exact ⟨depth_le_of_reread? hdenoted, isLegible_of_reread? harranged hback hdenoted h⟩
  · rintro ⟨hdepth, hlegible⟩
    rw [parse_print_of_legible harranged hdepth (doubles_toJson htrust ▸ hlegible), hback]

end

/-! ### Lists inside unions -/

/-- A feed inside so many unions. -/
def inUnions : Nat → Feed → Feed
  | 0, feed => feed
  | n + 1, feed => .union [inUnions n feed]

/-- The value of a feed inside so many unions. -/
def inUnionsJson : Nat → Json → Json
  | 0, value => value
  | n + 1, value => .array [.string "union", inUnionsJson n value]

/-- A list without addresses that leaves out its mappings. -/
def bareListJson : Json := .array [.string "list", .object [("addresses", .array [])]]

/-- A list without addresses, with the mappings that stand for none. -/
def bareList : Feed := .list [⟨[], TagMapping.defaults⟩]

/-- A simple value is simple inside unions. -/
theorem isSimple_inUnionsJson {value : Json} {limit : Nat} (h : value.IsSimple limit) (n : Nat) :
    (inUnionsJson n value).IsSimple (limit + n) := by
  induction n with
  | zero => exact h
  | succ n ih => exact isSimple_leaf (List.forall_mem_singleton.mpr ih)

/-- A value is one deeper for each union. -/
theorem depth_inUnionsJson (n : Nat) (value : Json) :
    (inUnionsJson n value).depth = value.depth + n := by
  induction n with
  | zero => rfl
  | succ n ih => simp [inUnionsJson, depth, depthItems, ih, Nat.add_assoc]

/-- What is decoded is decoded inside unions. -/
theorem ofJson_inUnionsJson {value : Json} {feed : Feed} (h : ofJson value = .ok feed) (n : Nat) :
    ofJson (inUnionsJson n value) = .ok (inUnions n feed) := by
  induction n with
  | zero => exact h
  | succ n ih =>
    rw [inUnionsJson, ofJson, if_pos rfl, ofJsonAll, ih]
    rfl

/-- A feed inside unions is written inside unions. -/
theorem toJson_inUnions (n : Nat) (feed : Feed) :
    (inUnions n feed).toJson = inUnionsJson n feed.toJson := by
  induction n with
  | zero => rfl
  | succ n ih => rw [inUnions, toJson, toJsonAll, ih, toJsonAll, inUnionsJson]

/-- Unions add no trust nodes. -/
theorem trust_not_mem_inUnions {feed : Feed} (h : ∀ windows, .trust windows ∉ feed.nodes) (n : Nat) :
    ∀ windows, .trust windows ∉ (inUnions n feed).nodes := by
  induction n with
  | zero => exact h
  | succ n ih =>
    intro windows
    simp [inUnions, nodes, nodesAll, ih windows]

/-- A list without addresses is loaded without its mappings from inside as many unions as the reader
goes. -/
theorem parse_bareListJson {n : Nat} (h : n ≤ 124) :
    parse (inUnionsJson n bareListJson).print = .ok (inUnions n bareList) := by
  have hbare : bareListJson.IsSimple 3 := ⟨rfl, rfl, Nat.le_refl 3⟩
  have hsimple := isSimple_inUnionsJson hbare n
  have hdepth : 3 + n ≤ Reading.depthLimit := by
    rw [Reading.depthLimit]
    omega
  have hdoubles : ∀ x ∈ (inUnionsJson n bareListJson).doubles, x.IsLegible :=
    hsimple.doubles ▸ List.forall_mem_nil _
  rw [parse_print_of_legible hsimple.arranged (hsimple.depth.trans hdepth) hdoubles]
  exact ofJson_inUnionsJson rfl n

/-- With its mappings it is nested two deeper. -/
theorem depth_inUnions_bareList (n : Nat) : (inUnions n bareList).toJson.depth = n + 5 := by
  have hbare : bareList.toJson.depth = 5 := rfl
  rw [toJson_inUnions, depth_inUnionsJson, hbare, Nat.add_comm]

/-- There are no trust nodes in it. -/
theorem trust_not_mem_inUnions_bareList (n : Nat) :
    ∀ windows, .trust windows ∉ (inUnions n bareList).nodes :=
  trust_not_mem_inUnions (fun windows hmem => by cases List.mem_singleton.mp hmem) n

/-! ### Labels -/

/-- A node of an unrecognised type that keeps a double. -/
def label (x : Double) : Feed := .unknown "label" [.number (.double x)]

/-- A label is loaded again with what the text of its double is read as. -/
theorem parse_label {x y : Double} (h : (Number.double x).reread? = some (.number (.double y))) :
    parse (label x).toJson.print = .ok (label y) := by
  have hreread : (label x).toJson.reread? Reading.depthLimit = some (label y).toJson := by
    simp [label, toJson, Reading.depthLimit, reread?, rereadItems?, h]
  have htag : "label" ∉ knownTags := by decide
  rw [parse, parse?_print, hreread]
  exact ofJson_unknown htag

/-! ### Saved feeds -/

/-- **Which feeds are loaded again.** A feed without trust nodes that was loaded from a text is loaded
again from the compact text of its encoding, exactly when that encoding is nested no deeper than the
reader goes and every double that the feed keeps is read back from its own text. When it is nested
deeper, the saved text is rejected. The encoding is nested at most three deeper than the text was. -/
theorem saved_feed_loads_again {text : String} {feed : Feed} (hload : parse text = .ok feed)
    (htrust : ∀ windows, .trust windows ∉ feed.nodes) :
    (parse feed.toJson.print = .ok feed ↔
      feed.toJson.depth ≤ Reading.depthLimit ∧ ∀ x ∈ feed.keptDoubles, x.IsLegible) ∧
    (Reading.depthLimit < feed.toJson.depth → parse feed.toJson.print = .error .notJson) ∧
    ∀ value, Json.parse? text = some value → feed.toJson.depth ≤ value.depth + 3 := by
  obtain ⟨value, hvalue, hmade⟩ : ∃ value, Json.parse? text = some value ∧
      ofJson value = .ok feed := by
    rw [parse] at hload
    split at hload
    · cases hload
    · exact ⟨_, by assumption, hload⟩
  have harranged := isArranged_toJson (isArranged_of_parse? hvalue) hmade
  have hback := ofJson_toJson (isWritable_of_ofJson (isFinite_of_parse? hvalue) hmade)
  refine ⟨parse_print_toJson_iff harranged hback htrust, parse_print_of_deep, ?_⟩
  intro other hother
  rw [hvalue, Option.some.injEq] at hother
  exact hother ▸ depth_toJson_le hmade

/-- Inside 122 unions a list that leaves out its mappings is loaded, saved with them at the greatest
depth there is, and loaded again. -/
theorem bare_list_loads_again :
    let feed := inUnions 122 bareList
    parse (inUnionsJson 122 bareListJson).print = .ok feed ∧
      feed.toJson.depth = Reading.depthLimit ∧ parse feed.toJson.print = .ok feed := by
  intro feed
  have hload := parse_bareListJson (n := 122) (by decide)
  have htrust := trust_not_mem_inUnions_bareList 122
  have hdepth : feed.toJson.depth = Reading.depthLimit := depth_inUnions_bareList 122
  have hdoubles : ∀ x ∈ feed.keptDoubles, x.IsLegible := by
    have hbare : bareList.toJson.IsSimple 5 := isSimple_toJson rfl
    rw [← doubles_toJson htrust, toJson_inUnions, (isSimple_inUnionsJson hbare 122).doubles]
    exact List.forall_mem_nil _
  exact ⟨hload, hdepth, (saved_feed_loads_again hload htrust).1.mpr ⟨hdepth.le, hdoubles⟩⟩

/-- **Feeds that are not loaded again.** Inside one union more the mappings of the list are written too
deep for the reader. A double that is kept in a node of an unrecognised type can be read as another one
from its own text, which is then read as the first one, and so on. -/
theorem saved_feeds_not_loaded_again :
    (parse (inUnionsJson 123 bareListJson).print = .ok (inUnions 123 bareList) ∧
      (∀ windows, .trust windows ∉ (inUnions 123 bareList).nodes) ∧
      parse (inUnions 123 bareList).toJson.print = .error .notJson) ∧
    (parse "[\"label\",7.8409810628913e-10]" = .ok (label .upperOfPair) ∧
      (∀ windows, .trust windows ∉ (label .upperOfPair).nodes) ∧
      parse (label .upperOfPair).toJson.print = .ok (label .lowerOfPair) ∧
      label .lowerOfPair ≠ label .upperOfPair) := by
  constructor
  · have hdeep : Reading.depthLimit < (inUnions 123 bareList).toJson.depth := by
      rw [depth_inUnions_bareList]
      decide
    exact ⟨parse_bareListJson (by decide), trust_not_mem_inUnions_bareList 123,
      parse_print_of_deep hdeep⟩
  · have hprint : (label .lowerOfPair).toJson.print = "[\"label\",7.8409810628913e-10]" := by
      decide +kernel
    refine ⟨hprint ▸ parse_label Double.reread?_lowerOfPair, fun windows hmem => ?_,
      parse_label Double.reread?_upperOfPair, fun h => ?_⟩
    · cases List.mem_singleton.mp hmem
    · cases h

end Feed

end RelayFeeds
