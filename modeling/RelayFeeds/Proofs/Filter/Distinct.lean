import Mathlib.Logic.Basic
import RelayFeeds.Filter.Algebra

/-! # First occurrences

`distinct` walks a list with the members seen so far at hand. What it keeps is the list with later
repetitions erased:

* **`distinct_eq_eraseDups`** — the first occurrences are the list without its later duplicates.
* **`filter_distinct`** — choosing by a property and taking first occurrences commute.
* **`distinct_eq_self`** — a list without repetitions is its own list of first occurrences. -/

namespace RelayFeeds.Filter

variable {α : Type} [DecidableEq α]

/-- Members that were seen may be left out beforehand. -/
theorem distinctFrom_eq_eraseDups (seen values : List α) :
    distinctFrom seen values = (values.filter (fun a => decide (a ∉ seen))).eraseDups := by
  induction values generalizing seen with
  | nil => rfl
  | cons a rest ih =>
    by_cases ha : a ∈ seen
    · rw [distinctFrom, if_pos ha, ih, List.filter_cons_of_neg (by simpa using ha)]
    · rw [distinctFrom, if_neg ha, ih, List.filter_cons_of_pos (by simpa using ha),
        List.eraseDups_cons, List.filter_filter]
      -- having seen `a` as well is to be neither `a` nor seen before
      congr 2
      apply List.filter_congr
      intro b _
      simp only [List.mem_cons, not_or, Bool.decide_and, decide_not, beq_eq_decide]

/-- **The first occurrences are the list without its later duplicates.** -/
theorem distinct_eq_eraseDups (values : List α) : distinct values = values.eraseDups := by
  rw [distinct, distinctFrom_eq_eraseDups, List.filter_eq_self.mpr]
  intro a _
  exact decide_eq_true List.not_mem_nil

/-- First occurrences after some members were seen are the members not seen. -/
theorem mem_distinctFrom {a : α} {seen values : List α} :
    a ∈ distinctFrom seen values ↔ a ∈ values ∧ a ∉ seen := by
  induction values generalizing seen with
  | nil => simp [distinctFrom]
  | cons b rest ih =>
    by_cases hb : b ∈ seen
    · rw [distinctFrom, if_pos hb, ih, List.mem_cons]
      constructor
      · rintro ⟨hrest, hseen⟩
        exact ⟨Or.inr hrest, hseen⟩
      · rintro ⟨rfl | hrest, hseen⟩
        · exact absurd hb hseen
        · exact ⟨hrest, hseen⟩
    · rw [distinctFrom, if_neg hb, List.mem_cons, ih, List.mem_cons, List.mem_cons, not_or]
      by_cases heq : a = b
      · subst heq
        simp [hb]
      · simp [heq]

/-- The first occurrences are the members of the list. -/
@[simp] theorem mem_distinct {a : α} {values : List α} : a ∈ distinct values ↔ a ∈ values := by
  simp [distinct, mem_distinctFrom]

/-- What is kept after some members were seen is a part of the list. -/
theorem distinctFrom_sublist (seen values : List α) : (distinctFrom seen values).Sublist values := by
  induction values generalizing seen with
  | nil => exact List.Sublist.slnil
  | cons a rest ih =>
    rw [distinctFrom]
    split
    · exact (ih seen).cons a
    · exact (ih _).cons_cons a

/-- First occurrences are a part of the list. -/
theorem distinct_sublist (values : List α) : (distinct values).Sublist values :=
  distinctFrom_sublist [] values

/-- No first occurrence occurs again. -/
theorem nodup_distinctFrom (seen values : List α) : (distinctFrom seen values).Nodup := by
  induction values generalizing seen with
  | nil => exact List.nodup_nil
  | cons a rest ih =>
    rw [distinctFrom]
    split
    · exact ih seen
    · rw [List.nodup_cons, mem_distinctFrom]
      exact ⟨fun h => h.2 List.mem_cons_self, ih _⟩

/-- First occurrences are distinct. -/
theorem nodup_distinct (values : List α) : (distinct values).Nodup := nodup_distinctFrom [] values

/-- A list without repetitions and without members seen before is left alone. -/
theorem distinctFrom_eq_self {seen values : List α} (hnodup : values.Nodup)
    (hseen : ∀ a ∈ values, a ∉ seen) : distinctFrom seen values = values := by
  induction values generalizing seen with
  | nil => rfl
  | cons a rest ih =>
    rw [List.nodup_cons] at hnodup
    rw [distinctFrom, if_neg (hseen a List.mem_cons_self), ih hnodup.2]
    intro b hb
    rw [List.mem_cons, not_or]
    refine ⟨?_, hseen b (List.mem_cons_of_mem a hb)⟩
    rintro rfl
    exact hnodup.1 hb

/-- **A list without repetitions is its own list of first occurrences.** -/
theorem distinct_eq_self {values : List α} (h : values.Nodup) : distinct values = values :=
  distinctFrom_eq_self h (fun _ _ => List.not_mem_nil)

/-- A seen value that does not occur makes no difference. -/
theorem distinctFrom_cons_of_not_mem {a : α} {seen values : List α} (h : a ∉ values) :
    distinctFrom (a :: seen) values = distinctFrom seen values := by
  rw [distinctFrom_eq_eraseDups, distinctFrom_eq_eraseDups]
  congr 1
  apply List.filter_congr
  intro b hb
  have hne : b ≠ a := fun heq => h (heq ▸ hb)
  simp [hne]

/-- Choosing by a property commutes with leaving out members seen before. -/
theorem filter_distinctFrom (p : α → Bool) (seen values : List α) :
    (distinctFrom seen values).filter p = distinctFrom seen (values.filter p) := by
  induction values generalizing seen with
  | nil => rfl
  | cons a rest ih =>
    by_cases ha : a ∈ seen
    · by_cases hp : p a = true <;> simp [distinctFrom, ha, hp, ih]
    · by_cases hp : p a = true
      · simp [distinctFrom, ha, hp, ih]
      · have hrest : a ∉ rest.filter p := fun hmem => hp (List.mem_filter.mp hmem).2
        simp [distinctFrom, ha, hp, ih, distinctFrom_cons_of_not_mem hrest]

/-- **Choosing by a property and taking first occurrences commute.** -/
theorem filter_distinct (p : α → Bool) (values : List α) :
    (distinct values).filter p = distinct (values.filter p) :=
  filter_distinctFrom p [] values

end RelayFeeds.Filter
