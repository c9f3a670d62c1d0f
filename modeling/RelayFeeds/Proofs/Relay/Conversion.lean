import RelayFeeds.Proofs.Filter.Assignment
import RelayFeeds.Proofs.Relay.Plain

/-! # Converting filters for relays

Whatever library makes a query of a filter, as long as it does what is relied on, the object of the
query has what the filter has under the fixed keys, and the tag constraints under a hash and one ASCII
letter. A hash and one other character is refused. Tag constraints under longer names, and under names
without a hash, are lost on the way and no error tells of it, so that relays may return events that the
filter excludes.

* **`sharesFixed_of_read`** — fixed keys come over as they are.
* **`sameValues_of_read`** — so do tag constraints under a hash and one letter.
* **`conveys_iff`** — a query says the same as its filter when all tag keys are of that form.
* **`convert_exact`** — which filters are converted, and to what.
* **`plain_drops_long_tag`** — a constraint that is lost. -/

namespace RelayFeeds

open SortedMap

namespace Filter

/-- An object shares the constraints of a filter that are not about tags, ids and authors in some
spelling as far as they are keys. -/
structure SharesFixed (object : Json) (filter : Filter) : Prop where
  /-- The ids are the same. -/
  ids : AreKeys (textsOf filter.ids) →
    SameValues Json.string Text.lowerHex (textsOf filter.ids) (object.member? "ids")
  /-- The authors are the same. -/
  authors : AreKeys (textsOf filter.authors) →
    SameValues Json.string Text.lowerHex (textsOf filter.authors) (object.member? "authors")
  /-- The kinds are the same. -/
  kinds : SameValues kindJson id (filter.kinds.map SortedSet.toList) (object.member? "kinds")
  /-- The earliest time is the same. -/
  since : object.member? "since" = filter.since.map boundJson
  /-- The latest time is the same. -/
  till : object.member? "until" = filter.till.map boundJson
  /-- The most events are the same. -/
  limit : object.member? "limit" = filter.limit.map boundJson
  /-- The search is the same. -/
  search : object.member? "search" = filter.search.map Json.string

/-- An object carries the constraints of a filter, and no others. -/
structure Conveys (object : Json) (filter : Filter) : Prop extends SharesFixed object filter where
  /-- Every tag constraint is there with the same values. -/
  tags : ∀ key values, filter.tags.find? key = some values →
    SameValues Json.string id (some values.toList) (object.member? key)
  /-- There is no other one. -/
  others : ∀ key ∉ fixedKeys, filter.tags.find? key = none → object.member? key = none

end Filter

namespace RelayLibrary

variable {φ : Type} {library : RelayLibrary φ} {filter : Filter} {query : φ}

/-- A filter is converted when its text is read. -/
theorem convert_eq_ok :
    library.convert filter = .ok query ↔ library.read filter.toJson.print = some query := by
  rw [convert]
  cases library.read filter.toJson.print <;> simp

/-- A filter is refused when its text is. -/
theorem convert_of_read_eq_none (h : library.read filter.toJson.print = none) :
    library.convert filter =
      .error { message := "Relay client rejected filter " ++ filter.toJson.print } := by
  rw [convert, h]

/-- **Fixed keys come over as they are.** -/
theorem sharesFixed_of_read (h : library.Conforms) (hwritable : filter.IsWritable)
    (hread : library.read filter.toJson.print = some query) :
    Filter.SharesFixed (library.toJson query) filter := by
  rw [← Filter.text_constraints hwritable] at hread
  have hfound := Filter.foundIn_members hwritable
  refine ⟨h.keys hread (Or.inl rfl) (Filter.member?_ids hwritable),
    h.keys hread (Or.inr rfl) (Filter.member?_authors hwritable), h.kinds hread ?_,
    (h.scalars hread (by decide)).trans hfound.since, (h.scalars hread (by decide)).trans hfound.till,
    (h.scalars hread (by decide)).trans hfound.limit,
    (h.scalars hread (by decide)).trans hfound.search⟩
  rw [Filter.member?_constraints, hfound.kinds, Option.map_map]
  rfl

/-- **Tag constraints under a hash and one letter come over as they are.** -/
theorem sameValues_of_read (h : library.Conforms) (hwritable : filter.IsWritable)
    (hread : library.read filter.toJson.print = some query) {key : String}
    (hform : KeyForm.of key = .letter) :
    SameValues Json.string id (Filter.textsOf (filter.tags.find? key))
      ((library.toJson query).member? key) := by
  rw [← Filter.text_constraints hwritable] at hread
  refine h.tags hread hform ?_
  rw [Filter.member?_constraints,
    Filter.findIn?_members_of_not_mem (Filter.not_mem_fixedKeys_of_letter hform), Option.map_map]
  rfl

/-- Whatever stands under any other key that is no fixed one is dropped. -/
theorem member?_of_read (h : library.Conforms) (hwritable : filter.IsWritable)
    (hread : library.read filter.toJson.print = some query) {key : String}
    (hfixed : key ∉ Filter.fixedKeys) (hform : KeyForm.of key ≠ .letter) :
    (library.toJson query).member? key = none := by
  rw [← Filter.text_constraints hwritable] at hread
  exact h.drops hread hfixed hform

/-- **A query says the same as its filter when all tag keys are a hash and one letter**, and only
then. -/
theorem conveys_iff (h : library.Conforms) (hwritable : filter.IsWritable)
    (hread : library.read filter.toJson.print = some query) :
    Filter.Conveys (library.toJson query) filter ↔
      ∀ key ∈ filter.tags.keys, KeyForm.of key = .letter := by
  constructor
  · -- under any other key there is nothing in the object
    intro hconveys key hkey
    by_contra hform
    obtain ⟨values, hvalues⟩ := mem_keys.mp hkey
    obtain ⟨texts, htexts, -⟩ := hconveys.tags key values hvalues
    rw [member?_of_read h hwritable hread (hwritable key hkey) hform] at htexts
    cases htexts
  · intro hletters
    refine ⟨sharesFixed_of_read h hwritable hread, ?_, ?_⟩
    · intro key values hvalues
      have hsame := sameValues_of_read h hwritable hread (hletters key (mem_keys.mpr ⟨_, hvalues⟩))
      rwa [hvalues] at hsame
    · intro key hfixed habsent
      by_cases hform : KeyForm.of key = .letter
      · have hsame := sameValues_of_read h hwritable hread hform
        rwa [habsent] at hsame
      · exact member?_of_read h hwritable hread hfixed hform

/-- A filter with a tag constraint under a hash and one character that is no letter is refused. -/
theorem convert_of_sign (h : library.Conforms) (hwritable : filter.IsWritable)
    (hsign : ∃ key ∈ filter.tags.keys, KeyForm.of key = .sign) :
    library.convert filter =
      .error { message := "Relay client rejected filter " ++ filter.toJson.print } := by
  obtain ⟨key, hkey, hform⟩ := hsign
  have hmem : key ∈ (filter.constraints hwritable).keys := by
    rw [Filter.keys_constraints]
    exact List.mem_append_right _ hkey
  have hread := h.refuses ⟨key, hmem, hform⟩
  rw [Filter.text_constraints] at hread
  exact convert_of_read_eq_none hread

/-- Another filter is converted when its ids and authors are keys. -/
theorem exists_convert_eq_ok (h : library.Conforms) (hwritable : filter.IsWritable)
    (hids : AreKeys (Filter.textsOf filter.ids)) (hauthors : AreKeys (Filter.textsOf filter.authors))
    (hforms : ∀ key ∈ filter.tags.keys, KeyForm.of key ≠ .sign) :
    ∃ query, library.convert filter = .ok query := by
  have hall : ∀ key ∈ (filter.constraints hwritable).keys, KeyForm.of key ≠ .sign := by
    rw [Filter.keys_constraints, List.forall_mem_append]
    refine ⟨fun key hkey => ?_, hforms⟩
    -- no fixed key starts with a hash
    rw [Filter.of_eq_other_of_mem_fixedKeys key (Filter.keys_fixedMembers.subset hkey)]
    decide
  obtain ⟨query, hread⟩ := h.accepts (Filter.member?_ids hwritable) hids
    (Filter.member?_authors hwritable) hauthors hall
  rw [Filter.text_constraints] at hread
  exact ⟨query, convert_eq_ok.mpr hread⟩

/-- **What a library makes of a filter**, if it does what is relied on. A query carries all constraints
of its filter when each tag constraint stands under a hash and one ASCII letter. Of a filter that can
be written a query shares what is not about tags and the tag constraints of that form; nothing stands
under other keys, so the query carries all constraints in that case only. Such a filter is refused when
a tag constraint stands under a hash and one other character, and otherwise converted if its ids and
authors are keys. -/
theorem convert_exact (h : library.Conforms) (filter : Filter) :
    (∀ query, library.convert filter = .ok query →
      (∀ key ∈ filter.tags.keys, KeyForm.of key = .letter) →
        Filter.Conveys (library.toJson query) filter) ∧
    (filter.IsWritable →
      (∀ query, library.convert filter = .ok query →
        Filter.SharesFixed (library.toJson query) filter ∧
        (∀ key, KeyForm.of key = .letter →
          SameValues Json.string id (Filter.textsOf (filter.tags.find? key))
            ((library.toJson query).member? key)) ∧
        (∀ key ∉ Filter.fixedKeys, KeyForm.of key ≠ .letter →
          (library.toJson query).member? key = none) ∧
        (Filter.Conveys (library.toJson query) filter ↔
          ∀ key ∈ filter.tags.keys, KeyForm.of key = .letter)) ∧
      ((∃ key ∈ filter.tags.keys, KeyForm.of key = .sign) → library.convert filter =
        .error { message := "Relay client rejected filter " ++ filter.toJson.print }) ∧
      (AreKeys (Filter.textsOf filter.ids) → AreKeys (Filter.textsOf filter.authors) →
        (∀ key ∈ filter.tags.keys, KeyForm.of key ≠ .sign) →
          ∃ query, library.convert filter = .ok query)) := by
  refine ⟨?_, fun hwritable => ⟨?_, convert_of_sign h hwritable, exists_convert_eq_ok h hwritable⟩⟩
  · intro query hquery hletters
    exact (conveys_iff h (Filter.isWritable_of_letter hletters) (convert_eq_ok.mp hquery)).mpr hletters
  · intro query hquery
    have hread := convert_eq_ok.mp hquery
    exact ⟨sharesFixed_of_read h hwritable hread, fun _ => sameValues_of_read h hwritable hread,
      fun _ => member?_of_read h hwritable hread, conveys_iff h hwritable hread⟩

/-- Notes under a topic by an author whose key is spelled in upper case. -/
def topicNotes : Filter where
  authors := some (SortedSet.singleton (String.ofList (List.replicate 64 'A')))
  kinds := some (SortedSet.singleton 1)
  limit := some 5
  tags := SortedMap.ofList [("#t", SortedSet.singleton "rust")]

/-- The query of these notes, with the author in lower case. -/
def topicQuery : Filter :=
  { topicNotes with
    authors := some (SortedSet.singleton (String.ofList (List.replicate 64 'a'))) }

/-- At notes under a topic and the plain library, where the author comes out in lower case. -/
theorem convert_exact_topic_notes :
    plain.Conforms ∧ topicNotes.IsWritable ∧ plain.convert topicNotes = .ok topicQuery ∧
      Filter.Conveys (plain.toJson topicQuery) topicNotes ∧
      ∃ query, plain.convert topicNotes = .ok query := by
  have hwritable : topicNotes.IsWritable := by decide
  have hletters : ∀ key ∈ topicNotes.tags.keys, KeyForm.of key = .letter := by decide
  have hids : AreKeys (Filter.textsOf topicNotes.ids) := by rintro given ⟨⟩
  have hauthors : AreKeys (Filter.textsOf topicNotes.authors) := by
    rintro given ⟨⟩
    decide +kernel
  have hfilter : filter? (.object (SortedMap.ofList topicNotes.members).entries) =
      some topicQuery := by decide +kernel
  have hquery : plain.convert topicNotes = .ok topicQuery := by
    rw [convert_eq_ok, ← Filter.text_constraints hwritable, read_plain]
    exact hfilter
  obtain ⟨hconveys, hexact⟩ := convert_exact plain_conforms topicNotes
  exact ⟨plain_conforms, hwritable, hquery, hconveys topicQuery hquery hletters,
    (hexact hwritable).2.2 hids hauthors (by decide)⟩

/-- Notes under a topic with a long name. -/
def longTopicNotes : Filter where
  kinds := some (SortedSet.singleton 1)
  tags := SortedMap.ofList [("#topic", SortedSet.singleton "rust")]

/-- A note under another topic. -/
def otherTopicNote : Event where
  id := HexKey.zero
  author := HexKey.zero
  createdAt := 0
  kind := 1
  tags := [⟨"topic", ["lean"]⟩]
  content := ""

/-- **A tag constraint under a longer name is lost.** The plain library, which does what is relied on,
makes a query without it, so that the relay may return a note that the filter excludes. -/
theorem plain_drops_long_tag :
    plain.Conforms ∧ ∃ query, plain.convert longTopicNotes = .ok query ∧
      (plain.toJson query).member? "#topic" = none ∧
      ¬ Filter.Conveys (plain.toJson query) longTopicNotes ∧
      query.isMatch otherTopicNote = true ∧ longTopicNotes.isMatch otherTopicNote = false := by
  refine ⟨plain_conforms, { kinds := some (SortedSet.singleton 1) }, by decide +kernel, by decide, ?_,
    by decide, by decide⟩
  intro hconveys
  obtain ⟨texts, hlost, -⟩ :=
    hconveys.tags "#topic" (SortedSet.singleton "rust") (by decide)
  cases hlost

end RelayLibrary

end RelayFeeds
