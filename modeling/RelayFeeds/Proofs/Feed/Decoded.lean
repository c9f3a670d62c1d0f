import Mathlib.Data.List.Forall2
import RelayFeeds.Feed.Codec
import RelayFeeds.Proofs.Feed.Meaning

/-! # Decoded feeds

A value decodes to a union or an intersection of what its arguments decode to, or to what its type tag
makes of its arguments: a leaf of a recognised type, or the tag and the arguments as they are.

* **`ofArguments_cases`**, **`ofJson_cases`** — what a value can decode to.
* **`forall₂_childValues_children`** — the children of a decoded feed are decoded one by one.
* **`exists_ofJson_of_mem_nodes`** — every node of a decoded feed is decoded itself. -/

namespace RelayFeeds.Feed

/-- Whether a node is of a recognised type. -/
def isKnown : Feed → Bool
  | .unknown _ _ => false
  | _ => true

/-- A node is of a recognised type unless its tag is none of the recognised ones. -/
def WellTagged (node : Feed) : Prop := node.isKnown = true ∨ node.typeName ∉ knownTags

section

variable {value : Json} {feed : Feed} {tag : String} {arguments : List Json}

/-! ### What a type tag makes of its arguments -/

/-- A decoded leaf is made from some values. -/
theorem exists_eq_make_of_leaf {α : Type} {decode : Decoder Json α} {make : List α → Feed}
    (h : leaf tag decode make arguments = .ok feed) : ∃ values, feed = make values := by
  rw [leaf] at h
  split at h
  · cases h
    exact ⟨_, rfl⟩
  · cases h

/-- A tag feed is made from a key and some values. -/
theorem exists_eq_tag_of_tagLeaf (h : tagLeaf arguments = .ok feed) :
    ∃ key values, feed = .selector (.tag key values) := by
  rw [tagLeaf] at h
  split at h
  · cases h
  · cases h
  · cases h
    exact ⟨_, _, rfl⟩

/-- **What a type tag makes of its arguments** has no children. It is of a recognised type, unless it is
the tag and the arguments as they are and the tag is not recognised. -/
theorem ofArguments_cases (hunion : tag ≠ "union") (hintersection : tag ≠ "intersection") :
    ofArguments tag arguments = .ok feed →
      feed.children = [] ∧
        (feed.isKnown = true ∨ (feed = .unknown tag arguments ∧ tag ∉ knownTags)) := by
  have hleaf : ∀ {α : Type} {decode : Decoder Json α} {make : List α → Feed},
      (∀ values, (make values).children = [] ∧ (make values).isKnown = true) →
      leaf tag decode make arguments = .ok feed →
      feed.children = [] ∧
        (feed.isKnown = true ∨ (feed = .unknown tag arguments ∧ tag ∉ knownTags)) := by
    intro α decode make hmake hdecode
    obtain ⟨values, rfl⟩ := exists_eq_make_of_leaf hdecode
    exact ⟨(hmake values).1, Or.inl (hmake values).2⟩
  rw [ofArguments]
  -- the eleven types whose arguments are decoded one by one
  iterate 11
    refine iteInduction (motive := fun decoded : Except MalformedFeed Feed =>
      decoded = .ok feed → feed.children = [] ∧
        (feed.isKnown = true ∨ (feed = .unknown tag arguments ∧ tag ∉ knownTags)))
      (fun _ => hleaf fun _ => ⟨rfl, rfl⟩) fun _ => ?_
  by_cases htag : tag = "tag"
  · rw [if_pos htag]
    intro h
    obtain ⟨key, values, rfl⟩ := exists_eq_tag_of_tagLeaf h
    exact ⟨rfl, Or.inl rfl⟩
  · rw [if_neg htag]
    rintro ⟨⟩
    refine ⟨rfl, Or.inr ⟨rfl, ?_⟩⟩
    simp [knownTags, *]

/-! ### What a value decodes to -/

/-- The feeds of values are the feed of each value in its place. -/
theorem forall₂_of_ofJsonAll {values : List Json} {feeds : List Feed}
    (h : ofJsonAll values = .ok feeds) :
    List.Forall₂ (fun value feed => ofJson value = .ok feed) values feeds := by
  induction values generalizing feeds with
  | nil =>
    rw [ofJsonAll] at h
    cases h
    exact .nil
  | cons value rest ih =>
    rw [ofJsonAll] at h
    split at h
    · cases h
    · rename_i feed hvalue
      split at h
      · cases h
      · rename_i others hrest
        cases h
        exact .cons hvalue (ih hrest)

/-- The values from which the children of a feed are decoded. -/
def childValues : Json → List Json
  | .array (.string tag :: arguments) =>
    if tag = "union" ∨ tag = "intersection" then arguments else []
  | _ => []

/-- What has a value decodes to a union or an intersection of what its arguments decode to, or to what
its type tag makes of its arguments. -/
theorem ofJson_cases (h : ofJson value = .ok feed) :
    ∃ tag arguments, value = .array (.string tag :: arguments) ∧
      ((tag = "union" ∧ ∃ feeds, ofJsonAll arguments = .ok feeds ∧ feed = .union feeds) ∨
        (tag = "intersection" ∧
          ∃ feeds, ofJsonAll arguments = .ok feeds ∧ feed = .intersection feeds) ∨
        (tag ≠ "union" ∧ tag ≠ "intersection" ∧ ofArguments tag arguments = .ok feed)) := by
  have hmap : ∀ {arguments : List Json} {make : List Feed → Feed},
      (ofJsonAll arguments).map make = .ok feed →
      ∃ feeds, ofJsonAll arguments = .ok feeds ∧ feed = make feeds := by
    intro arguments make hmake
    cases hfeeds : ofJsonAll arguments with
    | error reason =>
      rw [hfeeds] at hmake
      cases hmake
    | ok feeds =>
      rw [hfeeds] at hmake
      cases hmake
      exact ⟨feeds, rfl, rfl⟩
  rw [ofJson.eq_def] at h
  split at h
  · rename_i tag arguments
    refine ⟨tag, arguments, rfl, ?_⟩
    split_ifs at h with hunion hintersection
    · exact Or.inl ⟨hunion, hmap h⟩
    · exact Or.inr (Or.inl ⟨hintersection, hmap h⟩)
    · exact Or.inr (Or.inr ⟨hunion, hintersection, h⟩)
  · cases h
  · cases h
  · cases h

/-- **The children of a decoded feed are decoded one by one.** -/
theorem forall₂_childValues_children (h : ofJson value = .ok feed) :
    List.Forall₂ (fun value child => ofJson value = .ok child) (childValues value)
      feed.children := by
  obtain ⟨tag, arguments, rfl, ⟨rfl, feeds, hfeeds, rfl⟩ | ⟨rfl, feeds, hfeeds, rfl⟩ |
    ⟨hunion, hintersection, hmade⟩⟩ := ofJson_cases h
  · exact forall₂_of_ofJsonAll hfeeds
  · exact forall₂_of_ofJsonAll hfeeds
  · rw [childValues, if_neg (not_or.mpr ⟨hunion, hintersection⟩),
      (ofArguments_cases hunion hintersection hmade).1]
    exact .nil

/-- A child of a decoded feed is decoded from one of the values for the children. -/
theorem exists_childValue (h : ofJson value = .ok feed) {child : Feed}
    (hchild : child ∈ feed.children) : ∃ earlier ∈ childValues value, ofJson earlier = .ok child := by
  have hall := forall₂_childValues_children h
  obtain ⟨i, hi, rfl⟩ := List.mem_iff_getElem.mp hchild
  have hearlier : i < (childValues value).length := hall.length_eq ▸ hi
  exact ⟨_, List.getElem_mem hearlier, hall.get hearlier hi⟩

/-- A decoded feed is well tagged. -/
theorem ofJson_wellTagged (h : ofJson value = .ok feed) : feed.WellTagged := by
  obtain ⟨tag, arguments, rfl, ⟨-, feeds, -, rfl⟩ | ⟨-, feeds, -, rfl⟩ |
    ⟨hunion, hintersection, hmade⟩⟩ := ofJson_cases h
  · exact Or.inl rfl
  · exact Or.inl rfl
  · obtain ⟨-, hknown | ⟨rfl, htag⟩⟩ := ofArguments_cases hunion hintersection hmade
    · exact Or.inl hknown
    · exact Or.inr htag

/-- **Every node of a decoded feed is decoded itself.** -/
theorem exists_ofJson_of_mem_nodes (h : ofJson value = .ok feed) :
    ∀ node ∈ feed.nodes, ∃ value, ofJson value = .ok node := by
  induction feed using treeInduction generalizing value with
  | node feed ih =>
    rw [nodes_eq_cons]
    refine List.forall_mem_cons.mpr ⟨⟨value, h⟩, fun node hnode => ?_⟩
    obtain ⟨child, hchild, hmem⟩ := List.mem_flatMap.mp hnode
    obtain ⟨later, -, hlater⟩ := exists_childValue h hchild
    exact ih child hchild hlater node hmem

/-- A node of a decoded feed has a recognised type tag only when its type is recognised. -/
theorem isKnown_of_typeName_mem (h : ofJson value = .ok feed) {node : Feed}
    (hnode : node ∈ feed.nodes) (hname : node.typeName ∈ knownTags) : node.isKnown = true := by
  obtain ⟨later, hlater⟩ := exists_ofJson_of_mem_nodes h node hnode
  exact (ofJson_wellTagged hlater).resolve_right (not_not_intro hname)

end

end RelayFeeds.Feed
