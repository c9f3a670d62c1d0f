import Mathlib.Tactic.IntervalCases
import RelayFeeds.Proofs.Json.Legible
import RelayFeeds.Proofs.Relay.Library

/-! # The plain library conforms

The plain library reads the text of an object of constraints as the object itself, its members in
ascending order of their keys. Fixed keys and tag constraints are then read one by one, and the filter
that they make up has what was read under the same keys.

* **`HexKey.map_text_ofText?`** — a text spells a key when it is 64 hexadecimal digits.
* **`ConstraintObject.parse?_text`** — the text of constraints denotes them.
* **`filter?_eq_some_iff`** — the filter of an object, field by field.
* **`plain_conforms`** — the plain library does what is relied on. -/

namespace RelayFeeds

open SortedMap

/-! ### Keys in lower case -/

namespace Text

/-- A character from `A` to `F` is one of these digits. -/
theorem eq_of_isUpper {c : Char} (h : ('A' ≤ c && c ≤ 'F') = true) :
    c = 'A' ∨ c = 'B' ∨ c = 'C' ∨ c = 'D' ∨ c = 'E' ∨ c = 'F' := by
  rw [Bool.and_eq_true, decide_eq_true_iff, decide_eq_true_iff] at h
  have hlower : 65 ≤ c.toNat := h.1
  have hupper : c.toNat ≤ 70 := h.2
  rw [← Char.ofNat_toNat c]
  generalize c.toNat = n at hlower hupper
  interval_cases n <;> decide

/-- A character in lower case is a lower-case digit when it is a digit. -/
theorem isLowerHexDigit_lowerHexDigit (c : Char) :
    isLowerHexDigit (lowerHexDigit c) = isHexDigit c := by
  cases hupper : ('A' ≤ c && c ≤ 'F') with
  | true => obtain rfl | rfl | rfl | rfl | rfl | rfl := eq_of_isUpper hupper <;> decide
  | false => simp [lowerHexDigit, isHexDigit, hupper, isLowerHexDigit]

/-- A character in lower case stays as it is. -/
theorem lowerHexDigit_lowerHexDigit (c : Char) :
    lowerHexDigit (lowerHexDigit c) = lowerHexDigit c := by
  cases hupper : ('A' ≤ c && c ≤ 'F') with
  | true => obtain rfl | rfl | rfl | rfl | rfl | rfl := eq_of_isUpper hupper <;> decide
  | false =>
    have hsame : lowerHexDigit c = c := by rw [lowerHexDigit, hupper, if_neg Bool.false_ne_true]
    rw [hsame, hsame]

/-- A text in lower case stays as it is. -/
theorem lowerHex_lowerHex (text : String) : lowerHex (lowerHex text) = lowerHex text := by
  simp [lowerHex, Function.comp_def, lowerHexDigit_lowerHexDigit]

end Text

/-- **A text spells a key when it is 64 hexadecimal digits**; the key has them in lower case. -/
theorem HexKey.map_text_ofText? (text : String) :
    (ofText? text).map HexKey.text =
      if Text.isHexKey text = true then some (Text.lowerHex text) else none := by
  have hdigits : Text.isHexKey text = true ↔ (text.toList.map Text.lowerHexDigit).length = 64 ∧
      (text.toList.map Text.lowerHexDigit).all Text.isLowerHexDigit = true := by
    simp [Text.isHexKey, Text.isLowerHexDigit_lowerHexDigit]
  simp only [ofText?, hdigits]
  split_ifs <;> rfl

/-! ### Texts of constraints -/

/-- An array of values that are read back is read back. -/
theorem Json.reread?_array_map {α : Type} {encode : α → Json} {limit : Nat}
    (h : ∀ a, (encode a).reread? limit = some (encode a)) (values : List α) :
    (Json.array (values.map encode)).reread? (limit + 1) = some (.array (values.map encode)) := by
  have hitems : rereadItems? limit (values.map encode) = some (values.map encode) :=
    rereadItems?_eq_self_iff.mpr (List.forall_mem_map.mpr fun a _ => h a)
  rw [reread?, hitems, Option.map_some]

/-- **A constraint is read back from its text.** -/
theorem IsConstraint.reread?_eq {member : String × Json} (h : IsConstraint member) (limit : Nat) :
    member.2.reread? (limit + 1) = some member.2 := by
  have hstring (text : String) : (Json.string text).reread? limit = some (.string text) := by
    rw [Json.reread?]
  have hkind (kind : UInt16) : (kindJson kind).reread? limit = some (kindJson kind) := by
    rw [kindJson, Json.reread?, Number.ofUInt16, Number.reread?_integer]
  cases h with
  | keys _ texts => exact Json.reread?_array_map hstring texts
  | kinds _ kinds => exact Json.reread?_array_map hkind kinds
  | bound _ bound => rw [Filter.boundJson, Json.reread?, Number.ofUInt64, Number.reread?_integer]
  | search _ text => rw [Json.reread?]
  | tag _ texts => exact Json.reread?_array_map hstring texts

namespace IsConstraint

variable {key : String} {node : Json}

/-- Ids, authors and tag constraints are texts. -/
theorem exists_texts (h : IsConstraint (key, node))
    (hkey : key = "ids" ∨ key = "authors" ∨ key ∉ Filter.fixedKeys) :
    ∃ texts, node = .strings texts := by
  cases h with
  | keys _ texts => exact ⟨texts, rfl⟩
  | tag _ texts => exact ⟨texts, rfl⟩
  | kinds hkinds _ => simp [hkinds, Filter.fixedKeys] at hkey
  | bound hbound _ => rcases hbound with rfl | rfl | rfl <;> simp [Filter.fixedKeys] at hkey
  | search hsearch _ => simp [hsearch, Filter.fixedKeys] at hkey

/-- Kinds are numbers. -/
theorem exists_kinds (h : IsConstraint ("kinds", node)) :
    ∃ kinds : List UInt16, node = .array (kinds.map kindJson) := by
  cases h with
  | kinds _ kinds => exact ⟨kinds, rfl⟩
  | keys hkey _ => simp at hkey
  | bound hbound _ => simp at hbound
  | search hsearch _ => simp at hsearch
  | tag htag _ => simp [Filter.fixedKeys] at htag

/-- A bound is a number. -/
theorem exists_bound (h : IsConstraint (key, node))
    (hkey : key = "since" ∨ key = "until" ∨ key = "limit") :
    ∃ bound, node = Filter.boundJson bound := by
  cases h with
  | bound _ bound => exact ⟨bound, rfl⟩
  | keys hids _ => rcases hids with rfl | rfl <;> simp at hkey
  | kinds hkinds _ => simp [hkinds] at hkey
  | search hsearch _ => simp [hsearch] at hkey
  | tag htag _ => rcases hkey with rfl | rfl | rfl <;> simp [Filter.fixedKeys] at htag

/-- A search is a text. -/
theorem exists_search (h : IsConstraint ("search", node)) : ∃ text, node = .string text := by
  cases h with
  | search _ text => exact ⟨text, rfl⟩
  | keys hkey _ => simp at hkey
  | kinds hkinds _ => simp at hkinds
  | bound hbound _ => simp at hbound
  | tag htag _ => simp [Filter.fixedKeys] at htag

end IsConstraint

namespace ConstraintObject

/-- Constraints with their keys in ascending order. -/
def arranged (object : ConstraintObject) : ConstraintObject where
  members := (SortedMap.ofList object.members).entries
  nodup_keys := (SortedMap.ofList object.members).ascending.nodup
  isConstraint member hmem := object.isConstraint member (mem_of_mem_ofList hmem)

/-- Arranging constraints leaves what stands under each key. -/
@[simp] theorem member?_arranged (object : ConstraintObject) (key : String) :
    object.arranged.member? key = object.member? key :=
  find?_ofList_of_nodup object.nodup_keys key

/-- A key is one under which a constraint is found. -/
theorem mem_keys (object : ConstraintObject) {key : String} :
    key ∈ object.keys ↔ ∃ node, object.member? key = some node := by
  simp only [member?, ← mem_iff_findIn? object.nodup_keys, keys, List.mem_map, Prod.exists,
    exists_and_right, exists_eq_right]

/-- Arranging constraints leaves their keys. -/
@[simp] theorem mem_keys_arranged (object : ConstraintObject) {key : String} :
    key ∈ object.arranged.keys ↔ key ∈ object.keys := by
  simp only [mem_keys, member?_arranged]

/-- What stands under a key is encoded in the way of the constraints there. -/
theorem exists_member?_eq (object : ConstraintObject) {α : Type} {key : String} {encode : α → Json}
    (h : ∀ {node}, IsConstraint (key, node) → ∃ a, node = encode a) :
    ∃ value : Option α, object.member? key = value.map encode := by
  cases hfound : object.member? key with
  | none => exact ⟨none, rfl⟩
  | some node =>
    obtain ⟨a, rfl⟩ := h (object.isConstraint _ (mem_of_findIn? hfound))
    exact ⟨some a, rfl⟩

/-- **The text of constraints denotes them.** -/
theorem parse?_text (object : ConstraintObject) :
    Json.parse? object.text = some (.object object.arranged.members) := by
  -- constraints are not nested deeper than an array in an object
  have hmembers : Json.rereadMembers? 126 object.members = some object.members := by
    rw [Json.rereadMembers?_eq_some_iff, List.forall₂_same]
    exact fun member hmem => ⟨rfl, (object.isConstraint member hmem).reread?_eq 125⟩
  rw [text, Json.parse?_print, Reading.depthLimit, Json.reread?, hmembers]
  rfl

end ConstraintObject

namespace RelayLibrary

variable {nodes : List (String × Json)}

/-! ### Fixed keys -/

/-- A text is decoded to a key when it spells one. -/
theorem keyText_string (text spelled : String) :
    keyText (.string text) = .ok spelled ↔
      Text.isHexKey text = true ∧ spelled = Text.lowerHex text := by
  have hspelt := HexKey.map_text_ofText? text
  rw [keyText, Decoder.string_string]
  cases hkey : HexKey.ofText? text with
  | none =>
    rw [hkey] at hspelt
    split_ifs at hspelt with hhex
    · cases hspelt
    · simp [hkey, hhex]
  | some key =>
    rw [hkey] at hspelt
    split_ifs at hspelt with hhex
    · have htext : key.text = Text.lowerHex text := Option.some.inj hspelt
      simp only [hkey, htext, hhex, true_and, Except.ok.injEq]
      exact eq_comm
    · cases hspelt

/-- Ids and authors are read when they are keys, in lower case. -/
theorem fieldOf_keys {name : String} {texts : Option (List String)}
    {made : Option (SortedSet String)} (h : findIn? name nodes = texts.map Json.strings) :
    Record.fieldOf ⟨name, Decoder.nullable (Decoder.set keyText), some none⟩ nodes = .ok made ↔
      AreKeys texts ∧ made = texts.map fun given => .ofList (given.map Text.lowerHex) := by
  cases texts with
  | none =>
    have habsent : AreKeys none := by rintro given ⟨⟩
    have hfield : Record.fieldOf ⟨name, Decoder.nullable (Decoder.set keyText), some none⟩ nodes =
        .ok none := by rw [Record.fieldOf, h, Option.map_none]
    rw [hfield, Except.ok.injEq, Option.map_none, and_iff_right habsent, eq_comm]
  | some given =>
    have hlist (spelled : List String) : Decoder.list keyText (.strings given) = .ok spelled ↔
        (∀ text ∈ given, Text.isHexKey text = true) ∧ spelled = given.map Text.lowerHex :=
      Decoder.list_array_eq_ok keyText_string
    have hgiven : AreKeys (some given) ↔ ∀ text ∈ given, Text.isHexKey text = true := by
      simp [AreKeys]
    have hfield : Record.fieldOf ⟨name, Decoder.nullable (Decoder.set keyText), some none⟩ nodes =
        (Decoder.set keyText (Json.strings given)).map some := by
      rw [Record.fieldOf, h]
      rfl
    simp only [hfield, Decoder.set, Decoder.map_eq_ok, hlist, hgiven]
    constructor
    · rintro ⟨_, ⟨_, ⟨hkeys, rfl⟩, rfl⟩, rfl⟩
      exact ⟨hkeys, rfl⟩
    · rintro ⟨hkeys, rfl⟩
      exact ⟨_, ⟨_, ⟨hkeys, rfl⟩, rfl⟩, rfl⟩

/-- Kinds are read. -/
theorem fieldOf_kinds {name : String} {kinds : Option (List UInt16)}
    (h : findIn? name nodes = kinds.map fun kinds => .array (kinds.map kindJson)) :
    Record.fieldOf ⟨name, Decoder.nullable (Decoder.set Decoder.uint16), some none⟩ nodes =
      .ok (kinds.map .ofList) := by
  cases kinds with
  | none => rw [Record.fieldOf, h, Option.map_none, Option.map_none]
  | some kinds =>
    have hlist : Decoder.list Decoder.uint16 (Json.array (kinds.map kindJson)) = .ok kinds :=
      Decoder.list_array fun kind _ => Decoder.uint16_number kind
    refine Record.fieldOf_given h (Decoder.nullable_eq_some (by rintro ⟨⟩) ?_)
    rw [Decoder.set, hlist, Except.map]

/-! ### Tag constraints -/

/-- The texts of an array of texts. -/
def textSet (node : Json) : SortedSet String :=
  (Decoder.set Decoder.string node).toOption.getD .empty

/-- The texts of an array of texts are its texts. -/
@[simp] theorem textSet_strings (texts : List String) :
    textSet (.strings texts) = .ofList texts := by
  simp [textSet, Decoder.set, Except.map, Except.toOption]

/-- **Tag constraints are read unless one stands under a hash and one other character**; those under a
hash and one letter are. -/
theorem tags?_eq_some_iff {entries : List (String × SortedSet String)}
    (h : ∀ node ∈ nodes, KeyForm.of node.1 = .letter → ∃ texts, node.2 = .strings texts) :
    tags? nodes = some entries ↔ (∀ node ∈ nodes, KeyForm.of node.1 ≠ .sign) ∧
      entries = (nodes.filter (fun node => KeyForm.of node.1 = .letter)).map
        (fun node => (node.1, textSet node.2)) := by
  induction nodes generalizing entries with
  | nil =>
    rw [tags?, Option.some.injEq, List.filter_nil, List.map_nil, eq_comm]
    exact (and_iff_right (List.forall_mem_nil _)).symm
  | cons node rest ih =>
    obtain ⟨hnode, hrest⟩ := List.forall_mem_cons.mp h
    rw [tags?, List.forall_mem_cons]
    -- a letter adds an entry, another character ends the reading, any other key is passed over
    cases hform : KeyForm.of node.1 with
    | letter =>
      obtain ⟨texts, htexts⟩ := hnode hform
      have hread : Decoder.set Decoder.string node.2 = .ok (.ofList texts) := by
        rw [htexts, Decoder.set, Decoder.list_strings, Except.map]
      rw [List.filter_cons_of_pos (by simpa using hform), List.map_cons, htexts, textSet_strings,
        ← htexts, hread]
      constructor
      · intro hsome
        cases hothers : tags? rest with
        | none =>
          rw [hothers] at hsome
          cases hsome
        | some others =>
          rw [hothers] at hsome
          cases hsome
          obtain ⟨hforms, rfl⟩ := (ih hrest).mp hothers
          exact ⟨⟨by decide, hforms⟩, rfl⟩
      · rintro ⟨⟨-, hforms⟩, rfl⟩
        rw [(ih hrest).mpr ⟨hforms, rfl⟩]
    | sign =>
      refine iff_of_false (by rintro ⟨⟩) ?_
      rintro ⟨⟨hne, -⟩, -⟩
      exact hne rfl
    | other =>
      rw [List.filter_cons_of_neg (by simp [hform])]
      exact (ih hrest).trans (and_congr_left' (and_iff_right (by decide)).symm)

/-! ### Objects -/

/-- What the plain library reads from some members: the fixed keys one by one, and the tags. -/
structure ReadsAs (nodes : List (String × Json)) (made : Filter) : Prop where
  /-- The ids. -/
  ids : Record.fieldOf ⟨"ids", Decoder.nullable (Decoder.set keyText), some none⟩ nodes =
    .ok made.ids
  /-- The authors. -/
  authors : Record.fieldOf ⟨"authors", Decoder.nullable (Decoder.set keyText), some none⟩ nodes =
    .ok made.authors
  /-- The kinds. -/
  kinds : Record.fieldOf ⟨"kinds", Decoder.nullable (Decoder.set Decoder.uint16), some none⟩ nodes =
    .ok made.kinds
  /-- The earliest time. -/
  since : Record.fieldOf ⟨"since", Decoder.nullable Decoder.uint64, some none⟩ nodes = .ok made.since
  /-- The latest time. -/
  till : Record.fieldOf ⟨"until", Decoder.nullable Decoder.uint64, some none⟩ nodes = .ok made.till
  /-- The most events. -/
  limit : Record.fieldOf ⟨"limit", Decoder.nullable Decoder.count, some none⟩ nodes = .ok made.limit
  /-- The search. -/
  search : Record.fieldOf ⟨"search", Decoder.nullable Decoder.string, some none⟩ nodes =
    .ok made.search
  /-- The tags. -/
  tags : ∃ entries, tags? nodes = some entries ∧ made.tags = SortedMap.ofList entries

/-- **The filter of an object is read field by field.** -/
theorem filter?_eq_some_iff (hkeys : (nodes.map Prod.fst).Nodup) {made : Filter} :
    filter? (.object nodes) = some made ↔ ReadsAs nodes made := by
  rw [filter?]
  constructor
  · intro hread
    split at hread
    next fixed entries hvisit hfixed hentries =>
      cases hread
      simp only [Filter.fixedRecord, Record.ofMembers_field_eq_ok, Record.ofMembers_start] at hfixed
      -- a pair for each field, the last one outermost
      obtain ⟨_, _, ⟨_, _, ⟨_, _, ⟨_, _, ⟨_, _, ⟨_, _, ⟨_, _, ⟨⟩, hids, rfl⟩, hauthors, rfl⟩, hkinds,
        rfl⟩, hsince, rfl⟩, htill, rfl⟩, hlimit, rfl⟩, hsearch, rfl⟩ := hfixed
      exact ⟨hids, hauthors, hkinds, hsince, htill, hlimit, hsearch, entries, hentries, rfl⟩
    next => cases hread
  · rintro ⟨hids, hauthors, hkinds, hsince, htill, hlimit, hsearch, entries, hentries, htags⟩
    have hfixed : (Filter.fixedRecord keyText).ofMembers nodes =
        .ok { made with tags := SortedMap.empty } := by
      simp [Filter.fixedRecord, Record.ofMembers_field_eq_ok, Record.ofMembers_start, hids, hauthors,
        hkinds, hsince, htill, hlimit, hsearch]
    have hvisit := (Filter.checked_fixedRecord keyText).visit_eq_ok hkeys hfixed
    rw [hvisit, hfixed, hentries]
    simp only [← htags]

section

variable {object : ConstraintObject} {query : Filter}

/-- The plain library reads the text of constraints as the constraints in order. -/
theorem read_plain (object : ConstraintObject) :
    plain.read object.text = filter? (.object object.arranged.members) := by
  rw [plain]
  simp only [object.parse?_text, Option.bind_some]

/-- The plain library reads the text of constraints field by field. -/
theorem read_plain_eq_some_iff :
    plain.read object.text = some query ↔ ReadsAs object.arranged.members query := by
  rw [read_plain, filter?_eq_some_iff object.arranged.nodup_keys]

/-- Under a hash and one letter constraints are texts. -/
theorem exists_texts_of_letter (object : ConstraintObject) :
    ∀ node ∈ object.members, KeyForm.of node.1 = .letter → ∃ texts, node.2 = .strings texts :=
  fun node hmem hform => (object.isConstraint node hmem).exists_texts
    (Or.inr (Or.inr (Filter.not_mem_fixedKeys_of_letter hform)))

/-- The tags that the plain library reads are those under a hash and one letter. -/
theorem find?_tags_of_readsAs (h : ReadsAs object.members query) (key : String) :
    query.tags.find? key =
      if KeyForm.of key = .letter then (object.member? key).map textSet else none := by
  obtain ⟨entries, hentries, htags⟩ := h.tags
  obtain ⟨-, rfl⟩ := (tags?_eq_some_iff (exists_texts_of_letter object)).mp hentries
  have hkeys : ((object.members.filter (fun node => KeyForm.of node.1 = .letter)).map
      fun node => (node.1, textSet node.2)).map Prod.fst |>.Nodup := by
    rw [List.map_map]
    exact object.nodup_keys.sublist (List.filter_sublist.map _)
  have hfound := findIn?_filter (fun key => KeyForm.of key = .letter) object.members key
  rw [htags, find?_ofList_of_nodup hkeys, findIn?_map, hfound, ConstraintObject.member?]
  simp only [decide_eq_true_eq]
  split_ifs <;> rfl

/-- What the plain library reads can be written. -/
theorem isWritable_of_readsAs (h : ReadsAs object.members query) : query.IsWritable := by
  refine Filter.isWritable_of_letter fun key hkey => ?_
  obtain ⟨values, hvalues⟩ := mem_keys.mp hkey
  rw [find?_tags_of_readsAs h] at hvalues
  by_contra hform
  rw [if_neg hform] at hvalues
  cases hvalues

/-! ### What is relied on -/

/-- A set of spelled values has the values, spelled alike. -/
theorem sameValues_ofList {α : Type} [Ordered α] [DecidableEq α] (encode : α → Json) (spell : α → α)
    (hspell : ∀ a, spell (spell a) = spell a) (values : Option (List α)) :
    SameValues encode spell values ((values.map fun given => SortedSet.ofList (given.map spell)).map
      fun set => .array (set.toList.map encode)) := by
  cases values with
  | none => rfl
  | some given =>
    refine ⟨_, rfl, fun a => ?_⟩
    simp only [List.mem_map, ← SortedSet.mem_def, SortedSet.mem_ofList]
    constructor
    · rintro ⟨_, ⟨value, hvalue, rfl⟩, rfl⟩
      exact ⟨value, hvalue, (hspell value).symm⟩
    · rintro ⟨value, hvalue, rfl⟩
      exact ⟨spell value, ⟨value, hvalue, rfl⟩, hspell value⟩

/-- Ids and authors are kept in lower case. -/
theorem sameValues_keys (h : ReadsAs object.members query) {key : String}
    (hkey : key = "ids" ∨ key = "authors") {texts : Option (List String)}
    (hgiven : object.member? key = texts.map Json.strings) :
    SameValues Json.string Text.lowerHex texts (query.toJson.member? key) := by
  have hfound := Filter.foundIn_members (isWritable_of_readsAs h)
  have hsame := sameValues_ofList Json.string Text.lowerHex Text.lowerHex_lowerHex texts
  rcases hkey with rfl | rfl
  · obtain ⟨-, hids⟩ := (fieldOf_keys hgiven).mp h.ids
    rw [Filter.toJson_eq, Json.member?, hfound.ids, hids]
    exact hsame
  · obtain ⟨-, hauthors⟩ := (fieldOf_keys hgiven).mp h.authors
    rw [Filter.toJson_eq, Json.member?, hfound.authors, hauthors]
    exact hsame

/-- Kinds are kept. -/
theorem sameValues_kinds (h : ReadsAs object.members query) {kinds : Option (List UInt16)}
    (hgiven : object.member? "kinds" = kinds.map fun kinds => .array (kinds.map kindJson)) :
    SameValues kindJson id kinds (query.toJson.member? "kinds") := by
  have hkinds : kinds.map SortedSet.ofList = query.kinds :=
    Except.ok.inj ((fieldOf_kinds hgiven).symm.trans h.kinds)
  have hsame := sameValues_ofList kindJson id (fun _ => rfl) kinds
  simp only [List.map_id, hkinds] at hsame
  rw [Filter.toJson_eq, Json.member?, (Filter.foundIn_members (isWritable_of_readsAs h)).kinds]
  exact hsame

/-- Bounds and searches are kept. -/
theorem member?_scalar (h : ReadsAs object.members query) {key : String}
    (hkey : key ∈ ["since", "until", "limit", "search"]) :
    query.toJson.member? key = object.member? key := by
  have hfound := Filter.foundIn_members (isWritable_of_readsAs h)
  have hsearch : ∀ text, Json.string text ≠ .null := by rintro text ⟨⟩
  simp only [List.mem_cons, List.not_mem_nil, or_false] at hkey
  rw [Filter.toJson_eq, Json.member?]
  rcases hkey with rfl | rfl | rfl | rfl
  · obtain ⟨since, hsince⟩ := object.exists_member?_eq fun h => h.exists_bound (Or.inl rfl)
    have hread := Record.fieldOf_nullable hsince Decoder.uint64_number Filter.boundJson_ne_null
    rw [hfound.since, hsince, ← Except.ok.inj (hread.symm.trans h.since)]
  · obtain ⟨till, htill⟩ := object.exists_member?_eq fun h => h.exists_bound (Or.inr (Or.inl rfl))
    have hread := Record.fieldOf_nullable htill Decoder.uint64_number Filter.boundJson_ne_null
    rw [hfound.till, htill, ← Except.ok.inj (hread.symm.trans h.till)]
  · obtain ⟨limit, hlimit⟩ := object.exists_member?_eq fun h => h.exists_bound (Or.inr (Or.inr rfl))
    have hread := Record.fieldOf_nullable hlimit Decoder.count_number Filter.boundJson_ne_null
    rw [hfound.limit, hlimit, ← Except.ok.inj (hread.symm.trans h.limit)]
  · obtain ⟨text, htext⟩ := object.exists_member?_eq IsConstraint.exists_search
    have hread := Record.fieldOf_nullable htext Decoder.string_string hsearch
    rw [hfound.search, htext, ← Except.ok.inj (hread.symm.trans h.search)]

/-- Tag constraints under a hash and one letter are kept. -/
theorem sameValues_tag (h : ReadsAs object.members query) {key : String}
    (hform : KeyForm.of key = .letter) {texts : Option (List String)}
    (hgiven : object.member? key = texts.map Json.strings) :
    SameValues Json.string id texts (query.toJson.member? key) := by
  have hsame := sameValues_ofList Json.string id (fun _ => rfl) texts
  have hsets : (texts.map Json.strings).map textSet = texts.map SortedSet.ofList := by
    cases texts with
    | none => rfl
    | some given => exact congrArg some (textSet_strings given)
  simp only [List.map_id] at hsame
  rw [Filter.toJson_eq, Json.member?,
    Filter.findIn?_members_of_not_mem (Filter.not_mem_fixedKeys_of_letter hform),
    find?_tags_of_readsAs h, if_pos hform, hgiven, hsets]
  exact hsame

/-- Whatever stands under any other key without a meaning of its own is dropped. -/
theorem member?_of_not_letter (h : ReadsAs object.members query) {key : String}
    (hfixed : key ∉ Filter.fixedKeys) (hform : KeyForm.of key ≠ .letter) :
    query.toJson.member? key = none := by
  rw [Filter.toJson_eq, Json.member?, Filter.findIn?_members_of_not_mem hfixed,
    find?_tags_of_readsAs h, if_neg hform, Option.map_none]

/-- Constraints are read when ids and authors are keys and no key is a hash and one character that is
no letter. -/
theorem exists_readsAs {ids authors : Option (List String)}
    (hids : object.member? "ids" = ids.map Json.strings) (hidKeys : AreKeys ids)
    (hauthors : object.member? "authors" = authors.map Json.strings) (hauthorKeys : AreKeys authors)
    (hforms : ∀ key ∈ object.keys, KeyForm.of key ≠ .sign) :
    ∃ made, ReadsAs object.members made := by
  have hsearch : ∀ text, Json.string text ≠ .null := by rintro text ⟨⟩
  -- under each of the other fixed keys stands nothing or a constraint of its kind
  obtain ⟨kinds, hkinds⟩ := object.exists_member?_eq IsConstraint.exists_kinds
  obtain ⟨since, hsince⟩ := object.exists_member?_eq fun h => h.exists_bound (Or.inl rfl)
  obtain ⟨till, htill⟩ := object.exists_member?_eq fun h => h.exists_bound (Or.inr (Or.inl rfl))
  obtain ⟨limit, hlimit⟩ := object.exists_member?_eq fun h => h.exists_bound (Or.inr (Or.inr rfl))
  obtain ⟨search, htext⟩ := object.exists_member?_eq IsConstraint.exists_search
  have hentries := (tags?_eq_some_iff (exists_texts_of_letter object)).mpr
    ⟨fun node hmem => hforms node.1 (List.mem_map_of_mem hmem), rfl⟩
  exact ⟨⟨_, _, _, since, till, limit, search, _⟩,
    (fieldOf_keys hids).mpr ⟨hidKeys, rfl⟩, (fieldOf_keys hauthors).mpr ⟨hauthorKeys, rfl⟩,
    fieldOf_kinds hkinds,
    Record.fieldOf_nullable hsince Decoder.uint64_number Filter.boundJson_ne_null,
    Record.fieldOf_nullable htill Decoder.uint64_number Filter.boundJson_ne_null,
    Record.fieldOf_nullable hlimit Decoder.count_number Filter.boundJson_ne_null,
    Record.fieldOf_nullable htext Decoder.string_string hsearch, _, hentries, rfl⟩

end

/-- **The plain library does what is relied on.** -/
theorem plain_conforms : plain.Conforms where
  accepts {object _ _} hids hidKeys hauthors hauthorKeys hforms := by
    rw [← object.member?_arranged] at hids hauthors
    obtain ⟨made, hmade⟩ := exists_readsAs hids hidKeys hauthors hauthorKeys
      (by simpa only [ConstraintObject.mem_keys_arranged] using hforms)
    exact ⟨made, read_plain_eq_some_iff.mpr hmade⟩
  refuses {object} hform := by
    rw [Option.eq_none_iff_forall_ne_some]
    intro query hread
    obtain ⟨key, hkey, hsign⟩ := hform
    obtain ⟨entries, hentries, -⟩ := (read_plain_eq_some_iff.mp hread).tags
    -- the tags of a text that is read have no such key
    obtain ⟨hforms, -⟩ := (tags?_eq_some_iff (exists_texts_of_letter _)).mp hentries
    obtain ⟨node, hnode, rfl⟩ := List.mem_map.mp (object.mem_keys_arranged.mpr hkey)
    exact hforms node hnode hsign
  keys hread _ hkey _ hgiven _ :=
    sameValues_keys (read_plain_eq_some_iff.mp hread) hkey (by simpa using hgiven)
  kinds hread _ hgiven :=
    sameValues_kinds (read_plain_eq_some_iff.mp hread) (by simpa using hgiven)
  scalars {object _} hread _ hkey :=
    (member?_scalar (read_plain_eq_some_iff.mp hread) hkey).trans (object.member?_arranged _)
  tags hread _ hform _ hgiven :=
    sameValues_tag (read_plain_eq_some_iff.mp hread) hform (by simpa using hgiven)
  drops hread _ hfixed hform :=
    member?_of_not_letter (read_plain_eq_some_iff.mp hread) hfixed hform

end RelayLibrary

end RelayFeeds
