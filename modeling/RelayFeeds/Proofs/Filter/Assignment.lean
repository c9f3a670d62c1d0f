import RelayFeeds.Filter.Basic
import RelayFeeds.Proofs.Ordered.Contents

/-! # Assignments — one value for each tag key

An event may carry several tags of one name, and each tag constraint of a filter may be met by a
different one. An *assignment* for an event gives every tag key at most one carried value. At a
fixed assignment a filter is a product of independent constraints, so conjunction and disjunction
of filters are exact there; what filters match is recovered by ranging over all assignments.

* **`found_iff`** — a search is found where every word of it is a part, case aside.
* **`isMatch_iff`** — matching, constraint by constraint.
* **`exists_common_assignment`** — some assignment is admitted by all filters of a list exactly when
  each tag key has a carried value that all of them allow.
* **`isMatch_iff_exists_admits`** — an event matches when some assignment for it is admitted. -/

namespace RelayFeeds

/-- An event carries a value under a name when a tag of that name has it as its first value. -/
def Event.Carries (event : Event) (name value : String) : Prop :=
  ∃ tag ∈ event.tags, tag.name = name ∧ tag.value? = some value

/-- An assignment for an event: at most one value for each tag key, carried under the key's name. -/
structure Assignment (event : Event) where
  /-- The value given to a tag key. -/
  value? : String → Option String
  /-- The event carries it. -/
  carried : ∀ {key value}, value? key = some value → event.Carries (tagName key) value

namespace Filter

/-- A text meets a search, if any, when it has every word of it as a part, case aside; words stand
between blanks. -/
def Finds (search : Option String) (content : String) : Prop :=
  ∀ text, search = some text → ∀ word ∈ text.toList.splitOnP Text.isBlank,
    Text.lowercase word <:+: Text.lowercase content.toList

/-- An event fits a filter when it meets every constraint but those on tags. -/
structure Fits (filter : Filter) (event : Event) : Prop where
  /-- The id is allowed. -/
  ids : allows filter.ids event.id.text = true
  /-- The author is allowed. -/
  authors : allows filter.authors event.author.text = true
  /-- The kind is allowed. -/
  kinds : allows filter.kinds event.kind = true
  /-- The time is late enough. -/
  since : notBefore filter.since event.createdAt = true
  /-- The time is early enough. -/
  till : notAfter filter.till event.createdAt = true
  /-- The words are found. -/
  search : Finds filter.search event.content

/-- Tag constraints admit an assignment when its value for every constrained key is allowed. -/
def TagsAdmit (tags : SortedMap String (SortedSet String)) {event : Event}
    (assignment : Assignment event) : Prop :=
  ∀ key values, tags.find? key = some values → ∃ value ∈ values, assignment.value? key = some value

/-- A filter admits an assignment when the event fits it and its tag constraints do. -/
structure Admits (filter : Filter) {event : Event} (assignment : Assignment event) : Prop extends
    filter.Fits event where
  /-- The value of every constrained key is allowed. -/
  tags : TagsAdmit filter.tags assignment

/-- An absent set allows everything. -/
@[simp] theorem allows_none {α : Type} [Ordered α] [DecidableEq α] (a : α) :
    allows none a = true := rfl

/-- A set allows its members. -/
@[simp] theorem allows_some {α : Type} [Ordered α] [DecidableEq α] {values : SortedSet α} {a : α} :
    allows (some values) a = true ↔ a ∈ values := decide_eq_true_iff

/-- No time is before an absent bound. -/
@[simp] theorem notBefore_none (time : UInt64) : notBefore none time = true := rfl

/-- No time is after an absent bound. -/
@[simp] theorem notAfter_none (time : UInt64) : notAfter none time = true := rfl

/-- Every text meets an absent search. -/
@[simp] theorem finds_none (content : String) : Finds none content := by rintro text ⟨⟩

/-- **A search is found in the texts that meet it.** -/
theorem found_iff {search : Option String} {content : String} :
    found search content = true ↔ Finds search content := by
  cases search with
  | none => exact iff_of_true rfl (finds_none content)
  | some text =>
    simp only [found, Text.words_eq, List.all_filter, List.all_eq_true, Text.occursIn_iff, Finds,
      Option.some.injEq, forall_eq', Bool.or_eq_true, Bool.not_not, List.isEmpty_iff]
    refine forall₂_congr fun word _ => or_iff_right_of_imp ?_
    -- between two blanks in a row stands the empty word, which is a part of every text
    rintro rfl
    exact List.nil_infix

variable {event : Event}

/-- A tag constraint is met when the event carries one of its values. -/
theorem tagged_iff {key : String} {wanted : SortedSet String} :
    tagged key wanted event.tags = true ↔
      ∃ value ∈ wanted, event.Carries (tagName key) value := by
  simp only [tagged, List.any_eq_true, Bool.and_eq_true, beq_iff_eq]
  constructor
  · rintro ⟨tag, htag, hname, hvalue⟩
    cases hv : tag.value? with
    | none =>
      rw [hv] at hvalue
      cases hvalue
    | some value =>
      rw [hv] at hvalue
      exact ⟨value, of_decide_eq_true hvalue, tag, htag, hname, hv⟩
  · rintro ⟨value, hwanted, tag, htag, hname, hv⟩
    refine ⟨tag, htag, hname, ?_⟩
    rw [hv]
    exact decide_eq_true hwanted

/-- **Matching, constraint by constraint.** -/
theorem isMatch_iff {filter : Filter} :
    filter.isMatch event = true ↔
      filter.Fits event ∧ ∀ key values, filter.tags.find? key = some values →
        ∃ value ∈ values, event.Carries (tagName key) value := by
  simp only [isMatch, Bool.and_eq_true, List.all_eq_true, Prod.forall, tagged_iff, found_iff,
    SortedMap.mem_entries]
  constructor
  · rintro ⟨⟨⟨⟨⟨⟨hids, hauthors⟩, hkinds⟩, hsince⟩, htill⟩, hsearch⟩, htags⟩
    exact ⟨⟨hids, hauthors, hkinds, hsince, htill, hsearch⟩, htags⟩
  · rintro ⟨⟨hids, hauthors, hkinds, hsince, htill, hsearch⟩, htags⟩
    exact ⟨⟨⟨⟨⟨⟨hids, hauthors⟩, hkinds⟩, hsince⟩, htill⟩, hsearch⟩, htags⟩

/-- The value that an admitted assignment gives to a constrained key is allowed. -/
theorem TagsAdmit.mem {tags : SortedMap String (SortedSet String)} {assignment : Assignment event}
    {key value : String} {values : SortedSet String} (h : TagsAdmit tags assignment)
    (hvalues : tags.find? key = some values) (hassigned : assignment.value? key = some value) :
    value ∈ values := by
  obtain ⟨allowed, hallowed, hassigned'⟩ := h key values hvalues
  rw [hassigned] at hassigned'
  cases hassigned'
  exact hallowed

/-- Tag constraints with a key set admit what its values and the other keys admit. -/
theorem tagsAdmit_insert {tags : SortedMap String (SortedSet String)} {key : String}
    {values : SortedSet String} {assignment : Assignment event} :
    TagsAdmit (tags.insert key values) assignment ↔
      (∃ value ∈ values, assignment.value? key = some value) ∧
        ∀ other others, other ≠ key → tags.find? other = some others →
          ∃ value ∈ others, assignment.value? other = some value := by
  constructor
  · intro h
    refine ⟨h key values ?_, ?_⟩
    · rw [SortedMap.find?_insert, if_pos rfl]
    · intro other others hne hothers
      refine h other others ?_
      rw [SortedMap.find?_insert, if_neg hne, hothers]
  · rintro ⟨hkey, hrest⟩ other others hothers
    rw [SortedMap.find?_insert] at hothers
    by_cases heq : other = key
    · rw [if_pos heq] at hothers
      cases hothers
      rw [heq]
      exact hkey
    · rw [if_neg heq] at hothers
      exact hrest other others heq hothers

/-- A constraint under a key without one is a further constraint. -/
theorem tagsAdmit_insert_of_none {tags : SortedMap String (SortedSet String)} {key : String}
    {values : SortedSet String} {assignment : Assignment event} (h : tags.find? key = none) :
    TagsAdmit (tags.insert key values) assignment ↔
      TagsAdmit tags assignment ∧ ∃ value ∈ values, assignment.value? key = some value := by
  rw [tagsAdmit_insert, and_comm, and_congr_left_iff]
  intro _
  constructor
  · intro hrest other others hothers
    have hne : other ≠ key := by
      rintro rfl
      rw [h] at hothers
      cases hothers
    exact hrest other others hne hothers
  · intro htags other others _ hothers
    exact htags other others hothers

/-! ### Assignments that several filters admit -/

/-- A value that an event carries for a key and that every filter constraining the key allows. -/
def CommonValue (filters : List Filter) (event : Event) (key value : String) : Prop :=
  event.Carries (tagName key) value ∧
    ∀ filter ∈ filters, ∀ values, filter.tags.find? key = some values → value ∈ values

open Classical in
/-- The assignment of a common value wherever there is one. -/
noncomputable def commonAssignment (filters : List Filter) (event : Event) : Assignment event where
  value? key :=
    if h : ∃ value, CommonValue filters event key value then some h.choose else none
  carried := by
    intro key value h
    split at h
    next hex =>
      cases h
      exact hex.choose_spec.1
    next => cases h

/-- The common assignment has a common value for every key that has one. -/
theorem commonAssignment_value? {filters : List Filter} {key : String}
    (h : ∃ value, CommonValue filters event key value) :
    ∃ value, (commonAssignment filters event).value? key = some value ∧
      CommonValue filters event key value := by
  refine ⟨h.choose, ?_, h.choose_spec⟩
  simp only [commonAssignment, dif_pos h]

/-- **Some assignment is admitted by all filters of a list** exactly when the event fits each and
every key that one of them constrains has a carried value allowed by all that constrain it. -/
theorem exists_common_assignment {filters : List Filter} :
    (∃ assignment : Assignment event, ∀ filter ∈ filters, filter.Admits assignment) ↔
      (∀ filter ∈ filters, filter.Fits event) ∧
        ∀ key, (∃ filter ∈ filters, key ∈ filter.tags.keys) →
          ∃ value, CommonValue filters event key value := by
  constructor
  · rintro ⟨assignment, hadmits⟩
    refine ⟨fun filter hfilter => (hadmits filter hfilter).toFits, ?_⟩
    rintro key ⟨filter, hfilter, hkey⟩
    obtain ⟨values, hvalues⟩ := SortedMap.mem_keys.mp hkey
    obtain ⟨value, _, hassigned⟩ := (hadmits filter hfilter).tags key values hvalues
    refine ⟨value, assignment.carried hassigned, ?_⟩
    -- another filter that constrains the key allows the one value assigned to it
    intro other hother others hothers
    exact (hadmits other hother).tags.mem hothers hassigned
  · rintro ⟨hfits, hcommon⟩
    refine ⟨commonAssignment filters event, ?_⟩
    intro filter hfilter
    refine ⟨hfits filter hfilter, ?_⟩
    intro key values hvalues
    have hkey : key ∈ filter.tags.keys := SortedMap.mem_keys.mpr ⟨values, hvalues⟩
    obtain ⟨value, hassigned, hvalue⟩ :=
      commonAssignment_value? (hcommon key ⟨filter, hfilter, hkey⟩)
    exact ⟨value, hvalue.2 filter hfilter values hvalues, hassigned⟩

/-- **An event matches a filter when the filter admits some assignment for it.** -/
theorem isMatch_iff_exists_admits {filter : Filter} :
    filter.isMatch event = true ↔ ∃ assignment : Assignment event, filter.Admits assignment := by
  have hcommon := @exists_common_assignment event [filter]
  simp only [List.mem_singleton, forall_eq, exists_eq_left] at hcommon
  rw [isMatch_iff, hcommon, and_congr_right_iff]
  intro _
  simp only [SortedMap.mem_keys, forall_exists_index, CommonValue, List.mem_singleton, forall_eq]
  constructor
  · intro h key values hvalues
    obtain ⟨value, hvalue, hcarries⟩ := h key values hvalues
    refine ⟨value, hcarries, ?_⟩
    intro values' hvalues'
    rw [hvalues] at hvalues'
    cases hvalues'
    exact hvalue
  · intro h key values hvalues
    obtain ⟨value, hcarries, hvalue⟩ := h key values hvalues
    exact ⟨value, hvalue values hvalues, hcarries⟩

/-- An event matches a list of filters when one of them admits some assignment for it. -/
theorem anyMatch_iff_exists_admits {filters : List Filter} :
    anyMatch filters event = true ↔
      ∃ assignment : Assignment event, ∃ filter ∈ filters, filter.Admits assignment := by
  simp only [anyMatch, List.any_eq_true, isMatch_iff_exists_admits]
  constructor
  · rintro ⟨filter, hfilter, assignment, hadmits⟩
    exact ⟨assignment, filter, hfilter, hadmits⟩
  · rintro ⟨assignment, filter, hfilter, hadmits⟩
    exact ⟨filter, hfilter, assignment, hadmits⟩

end Filter

end RelayFeeds
