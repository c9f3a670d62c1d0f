import RelayFeeds.Ordered.Basic

/-! # Value sets — strictly ascending lists

A finite set is the strictly ascending list of its members, so that two sets with the same members
are the same value and are printed alike. Each operation is one pass over lists; its effect on
membership is the lemma beside it. -/

namespace RelayFeeds

universe u

open Ordered

/-- A finite set, held as the strictly ascending list of its members. -/
structure SortedSet (α : Type u) [Ordered α] where
  /-- The members in ascending order. -/
  toList : List α
  /-- Every member comes before all later ones. -/
  ascending : Ascending toList
  deriving DecidableEq

namespace SortedSet

variable {α : Type u} [Ordered α]

/-- Insertion into an ascending list, leaving it alone when the value is there already. -/
def insertAscending (value : α) : List α → List α
  | [] => [value]
  | head :: rest =>
    if less value head then value :: head :: rest
    else if less head value then head :: insertAscending value rest
    else head :: rest

/-- Insertion adds exactly the value. -/
theorem mem_insertAscending {value x : α} {values : List α} :
    x ∈ insertAscending value values ↔ x = value ∨ x ∈ values := by
  induction values with
  | nil => simp [insertAscending]
  | cons head rest ih =>
    by_cases hbefore : less value head = true
    · simp [insertAscending, hbefore]
    · by_cases hafter : less head value = true
      · simp only [insertAscending, hbefore, hafter, Bool.false_eq_true, if_false, if_true,
          List.mem_cons, ih]
        exact or_left_comm
      · have hsame : value = head :=
          less_connex (Bool.eq_false_iff.mpr hbefore) (Bool.eq_false_iff.mpr hafter)
        subst hsame
        simp [insertAscending, less_irrefl]

/-- Insertion keeps a list ascending. -/
theorem ascending_insertAscending {value : α} {values : List α} (h : Ascending values) :
    Ascending (insertAscending value values) := by
  induction values with
  | nil => simp [insertAscending, Ascending]
  | cons head rest ih =>
    have hrest := List.pairwise_cons.mp h
    by_cases hbefore : less value head = true
    · simp only [insertAscending, hbefore, if_true]
      exact List.pairwise_cons.mpr
        ⟨fun x hx => (List.mem_cons.mp hx).elim (fun e => e ▸ hbefore)
          (fun m => less_trans hbefore (hrest.1 x m)), h⟩
    · by_cases hafter : less head value = true
      · simp only [insertAscending, hbefore, hafter, Bool.false_eq_true, if_false, if_true]
        exact List.pairwise_cons.mpr
          ⟨fun x hx => (mem_insertAscending.mp hx).elim (fun e => e ▸ hafter) (hrest.1 x),
            ih hrest.2⟩
      · simpa [insertAscending, hbefore, hafter] using h

/-- The set without members. -/
def empty : SortedSet α := ⟨[], ascending_nil⟩

instance : EmptyCollection (SortedSet α) := ⟨empty⟩

instance : Inhabited (SortedSet α) := ⟨empty⟩

instance : Membership α (SortedSet α) := ⟨fun s a => a ∈ s.toList⟩

instance [DecidableEq α] (a : α) (s : SortedSet α) : Decidable (a ∈ s) :=
  inferInstanceAs (Decidable (a ∈ s.toList))

/-- The set with one more member. -/
def insert (s : SortedSet α) (value : α) : SortedSet α :=
  ⟨insertAscending value s.toList, ascending_insertAscending s.ascending⟩

/-- The set of the values of a list. -/
def ofList (values : List α) : SortedSet α := values.foldl insert empty

/-- The set with one member. -/
def singleton (value : α) : SortedSet α := ⟨[value], ascending_singleton value⟩

/-- The members of either set. -/
def union (s t : SortedSet α) : SortedSet α := t.toList.foldl insert s

/-- The members of both sets. -/
def inter [DecidableEq α] (s t : SortedSet α) : SortedSet α :=
  ⟨s.toList.filter (fun a => decide (a ∈ t.toList)), s.ascending.filter _⟩

/-- Whether there is no member. -/
def isEmpty (s : SortedSet α) : Bool := s.toList.isEmpty

/-- Whether every member of the first set is one of the second. -/
def isSubset [DecidableEq α] (s t : SortedSet α) : Bool := s.toList.all (fun a => decide (a ∈ t))

/-- The number of members. -/
def size (s : SortedSet α) : Nat := s.toList.length

/-- Membership is membership in the list. -/
theorem mem_def {a : α} {s : SortedSet α} : a ∈ s ↔ a ∈ s.toList := Iff.rfl

/-- Nothing belongs to the empty set. -/
@[simp] theorem not_mem_empty (a : α) : ¬a ∈ (empty : SortedSet α) := by
  simp [mem_def, empty]

/-- Insertion adds exactly one member. -/
@[simp] theorem mem_insert {a value : α} {s : SortedSet α} :
    a ∈ s.insert value ↔ a = value ∨ a ∈ s := mem_insertAscending

/-- Inserting the values of a list one by one adds exactly these. -/
theorem mem_foldl_insert {a : α} {values : List α} {s : SortedSet α} :
    a ∈ values.foldl insert s ↔ a ∈ s ∨ a ∈ values := by
  induction values generalizing s with
  | nil => simp
  | cons value values ih =>
    simp only [List.foldl_cons, ih, mem_insert, List.mem_cons]
    exact ⟨fun h => h.elim (fun h => h.elim (fun e => .inr (.inl e)) .inl) (fun h => .inr (.inr h)),
      fun h => h.elim (fun h => .inl (.inr h)) (fun h => h.elim (fun e => .inl (.inl e)) .inr)⟩

/-- A set of a list's values has exactly the list's members. -/
@[simp] theorem mem_ofList {a : α} {values : List α} : a ∈ ofList values ↔ a ∈ values := by
  simp [ofList, mem_foldl_insert]

/-- A singleton has its one member. -/
@[simp] theorem mem_singleton {a value : α} : a ∈ singleton value ↔ a = value := by
  simp [singleton, mem_def]

/-- A union has the members of both sets. -/
@[simp] theorem mem_union {a : α} {s t : SortedSet α} : a ∈ s.union t ↔ a ∈ s ∨ a ∈ t :=
  mem_foldl_insert

/-- An intersection has the shared members. -/
@[simp] theorem mem_inter [DecidableEq α] {a : α} {s t : SortedSet α} :
    a ∈ s.inter t ↔ a ∈ s ∧ a ∈ t := by
  simp [inter, mem_def]

/-- The subset test decides inclusion. -/
@[simp] theorem isSubset_iff [DecidableEq α] {s t : SortedSet α} :
    s.isSubset t = true ↔ ∀ a, a ∈ s → a ∈ t := by
  simp [isSubset, mem_def]

/-- A set is empty when it has no member. -/
theorem isEmpty_iff {s : SortedSet α} : s.isEmpty = true ↔ ∀ a, ¬a ∈ s := by
  simp [isEmpty, mem_def, List.eq_nil_iff_forall_not_mem]

end SortedSet

end RelayFeeds
