import RelayFeeds.Proofs.Json.Arranged

/-! # Filters by their members

A filter is written as the object of its constraints. Unless a tag constraint stands under a fixed
key, the keys of the object are distinct and each constraint is found under its own key, so that the
constraints with a fixed key are read one by one.

* **`isWritable_of_decode`** — a filter that was decoded has no tag constraint under a fixed key.
* **`nodup_keys_members`** — the keys of the members are distinct.
* **`foundIn_members`** — each constraint that is not about tags is found under its key.
* **`ofMembers_fixedRecord`** — the constraints with a fixed key are read back.
* **`decode_object`** — a filter is read back from its members in any order. -/

namespace RelayFeeds

open SortedMap

namespace Filter

/-- A filter can be written when no tag constraint stands under a fixed key. -/
def IsWritable (filter : Filter) : Prop := ∀ key ∈ filter.tags.keys, key ∉ fixedKeys

instance (filter : Filter) : Decidable filter.IsWritable :=
  inferInstanceAs (Decidable (∀ key ∈ filter.tags.keys, key ∉ fixedKeys))

section

variable {τ : Type} [Source τ]

/-- Tag constraints are decoded from members without a fixed key. -/
theorem not_mem_fixedKeys_of_decodeTags {members : List (String × τ)}
    {tags : List (String × SortedSet String)} (h : decodeTags members = .ok tags) :
    ∀ entry ∈ tags, entry.1 ∉ fixedKeys := by
  induction members generalizing tags with
  | nil =>
    cases h
    exact List.forall_mem_nil _
  | cons member rest ih =>
    obtain ⟨key, node⟩ := member
    rw [decodeTags] at h
    split_ifs at h with hfixed
    · exact ih h
    · split at h
      next => cases h
      next value hvalue =>
        split at h
        next => cases h
        next values hvalues =>
          obtain ⟨others, hrest, rfl⟩ := Decoder.map_eq_ok.mp h
          refine List.forall_mem_cons.mpr ⟨?_, ih hrest⟩
          simpa using hfixed

/-- **A filter that was decoded can be written.** -/
theorem isWritable_of_decode {node : τ} {filter : Filter} (h : Filter.decode node = .ok filter) :
    filter.IsWritable := by
  simp only [Filter.decode] at h
  split at h
  next members closed hshape =>
    split at h
    next => cases h
    next =>
      split_ifs at h
      split at h
      next => cases h
      next => cases h
      next fixed tags hfixed htags =>
        cases h
        refine List.forall_mem_map.mpr fun entry hentry => ?_
        exact not_mem_fixedKeys_of_decodeTags htags entry (mem_of_mem_ofList hentry)
  next => cases h

end

/-- The members of the object of a filter that are tag constraints. -/
def tagMembers (filter : Filter) : List (String × Json) :=
  filter.tags.entries.map (fun entry => (entry.1, entry.2.toJson))

/-- The members of the object of a filter. -/
def members (filter : Filter) : List (String × Json) := filter.fixedMembers ++ filter.tagMembers

/-- A filter is written as the object of its members. -/
theorem toJson_eq (filter : Filter) : filter.toJson = .object filter.members := rfl

variable {filter : Filter}

/-! ### Keys -/

/-- Tag constraints stand under their keys. -/
theorem keys_tagMembers : filter.tagMembers.map Prod.fst = filter.tags.keys :=
  List.map_map

/-- The other constraints stand under fixed keys in their order. -/
theorem keys_fixedMembers : (filter.fixedMembers.map Prod.fst).Sublist fixedKeys := by
  simp only [fixedMembers, List.map_append]
  exact (((((keys_optional.append keys_optional).append keys_optional).append
    keys_optional).append keys_optional).append keys_optional).append keys_optional

/-- **The keys of the members are distinct.** -/
theorem nodup_keys_members (h : filter.IsWritable) : (filter.members.map Prod.fst).Nodup := by
  have hfixed : fixedKeys.Nodup := by decide
  rw [members, List.map_append, keys_tagMembers]
  refine List.nodup_append.mpr
    ⟨hfixed.sublist keys_fixedMembers, filter.tags.ascending.nodup, ?_⟩
  rintro key hkey _ htag rfl
  exact h key htag (keys_fixedMembers.subset hkey)

/-- Under a fixed key the members have a constraint that is not about tags. -/
theorem findIn?_members (h : filter.IsWritable) {key : String} (hkey : key ∈ fixedKeys) :
    findIn? key filter.members = findIn? key filter.fixedMembers := by
  have htag : findIn? key filter.tagMembers = none := by
    have hnone : filter.tags.find? key = none := not_mem_keys.mp fun hmem => h key hmem hkey
    have hvalues := find?_mapValues filter.tags (fun _ values => values.toJson) key
    rw [hnone] at hvalues
    exact hvalues
  rw [members, findIn?_append, htag, Option.or_none]

/-- The constraints that are not about tags, each as what is found under its key. -/
structure FoundIn (filter : Filter) (nodes : List (String × Json)) : Prop where
  /-- The ids. -/
  ids : findIn? "ids" nodes = filter.ids.map SortedSet.toJson
  /-- The authors. -/
  authors : findIn? "authors" nodes = filter.authors.map SortedSet.toJson
  /-- The kinds. -/
  kinds : findIn? "kinds" nodes = filter.kinds.map kindsJson
  /-- The earliest time. -/
  since : findIn? "since" nodes = filter.since.map boundJson
  /-- The latest time. -/
  till : findIn? "until" nodes = filter.till.map boundJson
  /-- The most events. -/
  limit : findIn? "limit" nodes = filter.limit.map boundJson
  /-- The search. -/
  search : findIn? "search" nodes = filter.search.map Json.string

/-- **Each constraint that is not about tags is found under its key.** -/
theorem foundIn_members (h : filter.IsWritable) : filter.FoundIn filter.members := by
  have hfound : ∀ key ∈ fixedKeys, findIn? key filter.members = findIn? key filter.fixedMembers :=
    fun key hkey => findIn?_members h hkey
  simp only [fixedKeys, List.mem_cons, List.not_mem_nil, or_false, fixedMembers, List.append_assoc,
    findIn?_append, findIn?_optional, forall_eq_or_imp, if_true, String.reduceEq, if_false,
    Option.or_self, Option.or_none, Option.none_or, forall_eq] at hfound
  obtain ⟨hids, hauthors, hkinds, hsince, htill, hlimit, hsearch⟩ := hfound
  exact ⟨hids, hauthors, hkinds, hsince, htill, hlimit, hsearch⟩

/-! ### Constraints with a fixed key -/

/-- A set of kinds is read back. -/
theorem set_kindsJson (kinds : SortedSet UInt16) :
    Decoder.set Decoder.uint16 (kindsJson kinds) = .ok kinds := by
  rw [Decoder.set, kindsJson, Decoder.list_array fun kind _ => Decoder.uint16_number kind]
  exact congrArg Except.ok kinds.ofList_toList

/-- A set of kinds is not written as null. -/
theorem kindsJson_ne_null (kinds : SortedSet UInt16) : kindsJson kinds ≠ .null := by
  intro h
  cases h

/-- A bound is not written as null. -/
theorem boundJson_ne_null (bound : UInt64) : boundJson bound ≠ .null := by
  intro h
  cases h

/-- A set of texts is read back. -/
theorem set_toJson (values : SortedSet String) :
    Decoder.set Decoder.string values.toJson = .ok values := by
  rw [Decoder.set, SortedSet.toJson, Decoder.list_strings]
  exact congrArg Except.ok values.ofList_toList

/-- A set of texts is not written as null. -/
theorem toJson_ne_null (values : SortedSet String) : values.toJson ≠ .null := by
  intro h
  cases h

/-- **The constraints with a fixed key are read back.** -/
theorem ofMembers_fixedRecord (h : filter.IsWritable) :
    (fixedRecord Decoder.string).ofMembers filter.members =
      .ok { filter with tags := SortedMap.empty } := by
  obtain ⟨hids, hauthors, hkinds, hsince, htill, hlimit, hsearch⟩ := foundIn_members h
  have hwords : ∀ text, Json.string text ≠ .null := by
    intro text h
    cases h
  simp [fixedRecord, Record.ofMembers_field_eq_ok, Record.ofMembers_start,
    Record.fieldOf_nullable hids set_toJson toJson_ne_null,
    Record.fieldOf_nullable hauthors set_toJson toJson_ne_null,
    Record.fieldOf_nullable hkinds set_kindsJson kindsJson_ne_null,
    Record.fieldOf_nullable hsince Decoder.uint64_number boundJson_ne_null,
    Record.fieldOf_nullable htill Decoder.uint64_number boundJson_ne_null,
    Record.fieldOf_nullable hlimit Decoder.count_number boundJson_ne_null,
    Record.fieldOf_nullable hsearch Decoder.string_string hwords]

/-- Members that make up the constraints with a fixed key pass their checks. -/
theorem checked_fixedRecord (named : Decoder Json String) : (fixedRecord named).Checked :=
  (Record.checked_start _).field _ |>.field _ |>.field _ |>.field _ |>.field _ |>.field _
    |>.field _

/-- The constraints with a fixed key are looked up wherever they stand. -/
theorem looksUp_fixedRecord (named : Decoder Json String) : (fixedRecord named).LooksUp :=
  (Record.looksUp_start _).field _ |>.field _ |>.field _ |>.field _ |>.field _ |>.field _
    |>.field _

/-! ### Whole filters -/

/-- Among the members of a filter every key without a constraint of its own has a set of texts. -/
theorem findIn?_members_of_not_mem {key : String} (hkey : key ∉ fixedKeys) :
    findIn? key filter.members = (filter.tags.find? key).map SortedSet.toJson := by
  have hfixed : findIn? key filter.fixedMembers = none := by
    rw [Option.eq_none_iff_forall_ne_some]
    intro node hnode
    have hmem : key ∈ filter.fixedMembers.map Prod.fst :=
      List.mem_map.mpr ⟨_, mem_of_findIn? hnode, rfl⟩
    exact hkey (keys_fixedMembers.subset hmem)
  rw [members, findIn?_append, hfixed, Option.none_or]
  exact find?_mapValues filter.tags (fun _ values => values.toJson) key

/-- Sets with the same texts are equal. -/
theorem toJson_inj {values others : SortedSet String} :
    values.toJson = others.toJson ↔ values = others := by
  refine ⟨fun h => ?_, congrArg SortedSet.toJson⟩
  have hread := set_toJson values
  rw [h, set_toJson] at hread
  exact (Except.ok.inj hread).symm

/-- Tag constraints are decoded from the sets of texts that stand under other keys than the fixed
ones. -/
theorem exists_decodeTags {nodes : List (String × Json)}
    (h : ∀ key node, (key, node) ∈ nodes → key ∉ fixedKeys →
      ∃ values : SortedSet String, node = values.toJson) :
    ∃ tags, decodeTags nodes = .ok tags ∧ (tags.map Prod.fst).Sublist (nodes.map Prod.fst) ∧
      ∀ key values, (key, values) ∈ tags ↔ key ∉ fixedKeys ∧ (key, values.toJson) ∈ nodes := by
  induction nodes with
  | nil => exact ⟨[], rfl, List.nil_sublist _, by simp⟩
  | cons member rest ih =>
    obtain ⟨name, node⟩ := member
    obtain ⟨tags, htags, hkeys, hmem⟩ :=
      ih fun key node hmem => h key node (List.mem_cons_of_mem _ hmem)
    rw [decodeTags]
    by_cases hname : name ∈ fixedKeys
    · refine ⟨tags, ?_, hkeys.trans (List.sublist_cons_self _ _), fun key values => ?_⟩
      · rw [if_pos (by simpa using hname), htags]
      · rw [hmem, List.mem_cons, Prod.mk.injEq]
        refine and_congr_right fun hkey => (or_iff_right fun heq => ?_).symm
        exact hkey (heq.1 ▸ hname)
    · obtain ⟨first, rfl⟩ := h name node List.mem_cons_self hname
      refine ⟨(name, first) :: tags, ?_, hkeys.cons_cons name, fun key values => ?_⟩
      · rw [if_neg (by simpa using hname)]
        simp only [Source.value?, set_toJson, htags, Except.map]
      · rw [List.mem_cons, List.mem_cons, hmem, Prod.mk.injEq, Prod.mk.injEq, toJson_inj, and_or_left]
        refine or_congr_left (iff_and_self.mpr ?_)
        rintro ⟨rfl, -⟩
        exact hname

/-- **A filter is read back from its members in any order.** -/
theorem decode_object (h : filter.IsWritable) {nodes : List (String × Json)}
    (hkeys : (nodes.map Prod.fst).Nodup)
    (hfound : ∀ key, findIn? key nodes = findIn? key filter.members) :
    Filter.decode (Json.object nodes) = .ok filter := by
  have hfixed : (fixedRecord Decoder.string).ofMembers nodes =
      .ok { filter with tags := SortedMap.empty } := by
    rw [looksUp_fixedRecord Decoder.string nodes filter.members hfound]
    exact ofMembers_fixedRecord h
  have hvisit : Record.visit (fixedRecord Decoder.string).checks readable [] nodes = .ok () :=
    (checked_fixedRecord Decoder.string).visit_eq_ok hkeys hfixed
  have hnodes : ∀ key, key ∉ fixedKeys → ∀ node, (key, node) ∈ nodes ↔
      ∃ values, filter.tags.find? key = some values ∧ values.toJson = node := by
    intro key hkey node
    rw [mem_iff_findIn? hkeys, hfound, findIn?_members_of_not_mem hkey, Option.map_eq_some_iff]
  have hsets : ∀ key node, (key, node) ∈ nodes → key ∉ fixedKeys →
      ∃ values : SortedSet String, node = values.toJson := by
    intro key node hnode hkey
    obtain ⟨values, -, hvalues⟩ := (hnodes key hkey node).mp hnode
    exact ⟨values, hvalues.symm⟩
  obtain ⟨tags, htags, hsub, hmem⟩ := exists_decodeTags hsets
  have hmap : SortedMap.ofList tags = filter.tags := by
    refine SortedMap.ext fun key => Option.ext fun values => ?_
    rw [find?_ofList_of_nodup (hkeys.sublist hsub), ← mem_iff_findIn? (hkeys.sublist hsub), hmem]
    constructor
    · rintro ⟨hkey, hnode⟩
      obtain ⟨others, hothers, hsame⟩ := (hnodes key hkey _).mp hnode
      rwa [toJson_inj.mp hsame] at hothers
    · intro hvalues
      have hkey : key ∉ fixedKeys := h key (mem_keys.mpr ⟨values, hvalues⟩)
      exact ⟨hkey, (hnodes key hkey _).mpr ⟨values, hvalues, rfl⟩⟩
  simp only [Filter.decode, Source.shape, hvisit, if_true, hfixed, htags, hmap]

end Filter

end RelayFeeds
