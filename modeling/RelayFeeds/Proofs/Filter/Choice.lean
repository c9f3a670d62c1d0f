import Mathlib.Data.List.Forall2
import RelayFeeds.Proofs.Filter.Intersection

/-! # Intersections as choices

A list of filters is a disjunction, so an event is in the intersection of several lists when one
filter can be chosen from each of them such that the event matches the chosen filters jointly. Jointly
is more than one by one: a tag key that several of them constrain asks for one carried value that all
of these allow.

* **`exists_choice_iff`** — choosing from each list and choosing for all lists at once are the same.
* **`exists_assignment_iff_matchesJointly`** — filters are matched jointly when they admit a common
  assignment.
* **`intersectAll_matches_choices`** — the intersection matches what some choice jointly matches. -/

namespace RelayFeeds.Filter

/-- One member with a property can be chosen from each of some lists exactly when each has one. -/
theorem exists_choice_iff {α : Type} {p : α → Prop} {groups : List (List α)} :
    (∃ chosen, List.Forall₂ (· ∈ ·) chosen groups ∧ ∀ a ∈ chosen, p a) ↔
      ∀ group ∈ groups, ∃ a ∈ group, p a := by
  induction groups with
  | nil => simp [List.forall₂_nil_right_iff]
  | cons group rest ih =>
    rw [List.forall_mem_cons, ← ih]
    constructor
    · rintro ⟨chosen, hchosen, hall⟩
      obtain ⟨a, others, ha, hothers, rfl⟩ := List.forall₂_cons_right_iff.mp hchosen
      rw [List.forall_mem_cons] at hall
      exact ⟨⟨a, ha, hall.1⟩, others, hothers, hall.2⟩
    · rintro ⟨⟨a, ha, hpa⟩, others, hothers, hall⟩
      exact ⟨a :: others, List.Forall₂.cons ha hothers, List.forall_mem_cons.mpr ⟨hpa, hall⟩⟩

/-- An event matches filters jointly when it fits each of them and carries, for every tag key that
one of them constrains, a value that all of them which constrain the key allow. -/
structure MatchesJointly (filters : List Filter) (event : Event) : Prop where
  /-- The event meets every constraint but those on tags. -/
  fits : ∀ filter ∈ filters, filter.Fits event
  /-- The event carries a common value for every constrained tag key. -/
  tags : ∀ key, (∃ filter ∈ filters, key ∈ filter.tags.keys) →
    ∃ value, CommonValue filters event key value

variable {event : Event}

/-- **An event matches filters jointly when they admit a common assignment for it.** -/
theorem exists_assignment_iff_matchesJointly {filters : List Filter} :
    (∃ assignment : Assignment event, ∀ filter ∈ filters, filter.Admits assignment) ↔
      MatchesJointly filters event := by
  rw [exists_common_assignment]
  exact ⟨fun h => ⟨h.1, h.2⟩, fun h => ⟨h.fits, h.tags⟩⟩

/-- The intersection of lists matches an event exactly when some choice from them does jointly. -/
theorem anyMatch_intersectAll_iff {groups : List (List Filter)} (hgroups : groups ≠ []) :
    anyMatch (intersectAll groups) event = true ↔
      ∃ chosen, List.Forall₂ (· ∈ ·) chosen groups ∧ MatchesJointly chosen event := by
  simp only [anyMatch_iff_exists_admits, exists_mem_intersectAll_admits, hgroups, ne_eq,
    not_false_eq_true, true_and, ← exists_assignment_iff_matchesJointly, ← exists_choice_iff]
  constructor
  · rintro ⟨assignment, chosen, hchosen, hadmits⟩
    exact ⟨chosen, hchosen, assignment, hadmits⟩
  · rintro ⟨chosen, hchosen, assignment, hadmits⟩
    exact ⟨assignment, chosen, hchosen, hadmits⟩

/-- **The intersection of lists matches what some choice of one filter from each jointly matches.**
Of two lists or more it has possible filters only, and a visibly impossible filter matches nothing. -/
theorem intersectAll_matches_choices {groups : List (List Filter)} (hgroups : groups ≠ []) :
    (∀ event, anyMatch (intersectAll groups) event = true ↔
        ∃ chosen, List.Forall₂ (· ∈ ·) chosen groups ∧ MatchesJointly chosen event) ∧
      (2 ≤ groups.length → ∀ filter ∈ intersectAll groups, filter.isUnsatisfiable = false) ∧
      ∀ (filter : Filter) (event : Event),
        filter.isUnsatisfiable = true → filter.isMatch event = false :=
  ⟨fun _ => anyMatch_intersectAll_iff hgroups, isUnsatisfiable_of_mem_intersectAll,
    fun _ _ => not_isMatch_of_isUnsatisfiable⟩

/-- Three lists of filters on topics, with two filters to choose from in the second. -/
def topicGroups : List (List Filter) :=
  [[notesSince 10 ["a", "b"]], [notesSince 20 ["c"], notesSince 20 ["b", "d"]],
    [withTag { search := some "Rust" } "t" ["b", "c"]]]

/-- A note on a topic that some filter of each list asks for is matched by the choice of these. A note
that matches each list by one of its two topics, but not all by the same, is matched by no choice. -/
theorem topicGroups_choices :
    topicGroups ≠ [] ∧ 2 ≤ topicGroups.length ∧
      anyMatch (intersectAll topicGroups) (noteOn ["a", "b"]) = true ∧
      (∃ chosen, List.Forall₂ (· ∈ ·) chosen topicGroups ∧
        MatchesJointly chosen (noteOn ["a", "b"])) ∧
      (∀ group ∈ topicGroups, anyMatch group (noteOn ["a", "c"]) = true) ∧
      (¬∃ chosen, List.Forall₂ (· ∈ ·) chosen topicGroups ∧
        MatchesJointly chosen (noteOn ["a", "c"])) ∧
      (∀ filter ∈ intersectAll topicGroups, filter.isUnsatisfiable = false) ∧
      isUnsatisfiable { since := some 20, till := some 10 } = true ∧
      isMatch { since := some 20, till := some 10 } (noteOn ["a", "b"]) = false := by
  have hgroups : topicGroups ≠ [] := List.cons_ne_nil _ _
  have hlength : 2 ≤ topicGroups.length := by decide
  obtain ⟨hchoices, hpossible, himpossible⟩ := intersectAll_matches_choices hgroups
  have hshared : anyMatch (intersectAll topicGroups) (noteOn ["a", "b"]) = true := by
    decide +kernel
  have happart : ¬anyMatch (intersectAll topicGroups) (noteOn ["a", "c"]) = true := by
    decide +kernel
  have hinverted : isUnsatisfiable { since := some 20, till := some 10 } = true := by
    decide +kernel
  exact ⟨hgroups, hlength, hshared, (hchoices _).mp hshared, by decide +kernel,
    fun hchosen => happart ((hchoices _).mpr hchosen), hpossible hlength, hinverted,
    himpossible _ _ hinverted⟩

end RelayFeeds.Filter
