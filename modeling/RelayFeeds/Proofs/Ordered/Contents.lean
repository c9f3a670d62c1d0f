import Mathlib.Algebra.Ring.Nat
import Mathlib.Data.List.Basic
import RelayFeeds.Ordered.Map
import RelayFeeds.Ordered.Set

/-! # Containers by their contents

An ascending container has one layout for its contents, so equality of containers is equality of
what they hold:

* **`SortedSet.ext`** — sets with the same members are equal.
* **`SortedMap.mem_entries`** — the entries of a map are its keys with the values found under them.
* **`SortedMap.ext`** — maps with the same value under every key are equal.
* **`SortedMap.sum_values_tally`** — the counts of some items add up to their number. -/

namespace RelayFeeds

universe u v w

namespace Ordered

variable {α : Type u} [Ordered α]

/-- An ascending list has no member twice. -/
theorem Ascending.nodup {values : List α} (h : Ascending values) : values.Nodup :=
  h.imp ne_of_less

/-- **Ascending lists with the same members are equal.** -/
theorem Ascending.eq_of_mem_iff {as bs : List α} (has : Ascending as) (hbs : Ascending bs)
    (h : ∀ x, x ∈ as ↔ x ∈ bs) : as = bs := by
  have hperm : as.Perm bs := (List.perm_ext_iff_of_nodup has.nodup hbs.nodup).mpr h
  refine hperm.eq_of_pairwise ?_ has hbs
  -- two members cannot each come before the other
  intro a b _ _ hab hba
  rw [less_asymm hab] at hba
  cases hba

end Ordered

open Ordered

namespace SortedSet

variable {α : Type u} [Ordered α]

/-- **Sets with the same members are equal.** -/
theorem ext {s t : SortedSet α} (h : ∀ a, a ∈ s ↔ a ∈ t) : s = t := by
  cases s with
  | mk as has =>
    cases t with
    | mk bs hbs =>
      have heq : as = bs := has.eq_of_mem_iff hbs h
      subst heq
      rfl

/-- A set is that of its members in order. -/
@[simp] theorem ofList_toList (s : SortedSet α) : ofList s.toList = s := ext fun _ => mem_ofList

/-- The union of a set with itself is the set. -/
@[simp] theorem union_self (s : SortedSet α) : s.union s = s := by
  apply ext
  intro a
  rw [mem_union, or_self_iff]

/-- The order of the parts of a union makes no difference. -/
theorem union_comm (s t : SortedSet α) : s.union t = t.union s := by
  apply ext
  intro a
  rw [mem_union, mem_union, or_comm]

/-- A set that is not empty has a member. -/
theorem isEmpty_eq_false_iff {s : SortedSet α} : s.isEmpty = false ↔ ∃ a, a ∈ s := by
  rw [← Bool.not_eq_true, isEmpty_iff]
  simp only [not_forall, not_not]

end SortedSet

namespace SortedMap

variable {κ : Type u} {ν : Type v}

/-- In a list with distinct keys an entry is a key with the value found under it. -/
theorem mem_iff_findIn? [DecidableEq κ] {entries : List (κ × ν)}
    (h : (entries.map Prod.fst).Nodup) {key : κ} {value : ν} :
    (key, value) ∈ entries ↔ findIn? key entries = some value := by
  induction entries with
  | nil => simp [findIn?]
  | cons head rest ih =>
    obtain ⟨k, v⟩ := head
    rw [List.map_cons, List.nodup_cons] at h
    by_cases hk : k = key
    · subst hk
      have hrest : (k, value) ∉ rest := by
        intro hmem
        exact h.1 (List.mem_map.mpr ⟨(k, value), hmem, rfl⟩)
      simp [findIn?, hrest, eq_comm]
    · simp [findIn?, hk, ih h.2, Ne.symm hk]

/-- Among the entries with certain keys the same is found under these keys. -/
theorem findIn?_filter [DecidableEq κ] (p : κ → Bool) (entries : List (κ × ν)) (key : κ) :
    findIn? key (entries.filter (fun entry => p entry.1)) =
      if p key = true then findIn? key entries else none := by
  induction entries with
  | nil => exact (ite_self none).symm
  | cons head rest ih =>
    rw [List.filter_cons]
    by_cases hhead : p head.1 = true
    · rw [if_pos hhead, findIn?, findIn?, ih]
      by_cases hkey : head.1 = key
      · rw [if_pos hkey, if_pos hkey, ← hkey, if_pos hhead]
      · rw [if_neg hkey, if_neg hkey]
    · rw [if_neg hhead, ih]
      by_cases hkey : head.1 = key
      · rw [← hkey, if_neg hhead, if_neg hhead]
      · rw [findIn?, if_neg hkey]

variable [Ordered κ]

/-- The entries of a map ascend by their keys. -/
theorem pairwise_entries (m : SortedMap κ ν) :
    m.entries.Pairwise (fun x y => less x.1 y.1 = true) :=
  List.pairwise_map.mp m.ascending

/-- The entries of a map are distinct. -/
theorem nodup_entries (m : SortedMap κ ν) : m.entries.Nodup := by
  refine m.pairwise_entries.imp ?_
  rintro x y hless rfl
  exact ne_of_less hless rfl

/-- An entry after insertion is the inserted one or an earlier one. -/
theorem mem_insertEntry {key : κ} {value : ν} {entries : List (κ × ν)} {entry : κ × ν}
    (h : entry ∈ insertEntry key value entries) : entry = (key, value) ∨ entry ∈ entries := by
  induction entries with
  | nil => exact Or.inl (List.mem_singleton.mp h)
  | cons head rest ih =>
    rw [insertEntry] at h
    split_ifs at h
    · exact List.mem_cons.mp h
    · obtain heq | hmem := List.mem_cons.mp h
      · exact Or.inr (List.mem_cons.mpr (Or.inl heq))
      · exact (ih hmem).imp_right (List.mem_cons_of_mem _)
    · exact (List.mem_cons.mp h).imp_right (List.mem_cons_of_mem _)

/-- The entries of a map of a list are entries of the list. -/
theorem mem_of_mem_ofList {entries : List (κ × ν)} {entry : κ × ν}
    (h : entry ∈ (ofList entries).entries) : entry ∈ entries := by
  suffices hfold : ∀ (m : SortedMap κ ν),
      entry ∈ (entries.foldl (fun m entry => m.insert entry.1 entry.2) m).entries →
        entry ∈ m.entries ∨ entry ∈ entries from
    (hfold empty h).resolve_left List.not_mem_nil
  clear h
  induction entries with
  | nil => exact fun m h => Or.inl h
  | cons head rest ih =>
    intro m h
    obtain hmap | hrest := ih _ h
    · obtain heq | hmem := mem_insertEntry hmap
      · exact Or.inr (List.mem_cons.mpr (Or.inl heq))
      · exact Or.inl hmem
    · exact Or.inr (List.mem_cons_of_mem _ hrest)

variable [DecidableEq κ]

/-- Nothing is found in the empty map. -/
@[simp] theorem find?_empty (key : κ) : (empty : SortedMap κ ν).find? key = none := rfl

/-- **The entries of a map are its keys with the values found under them.** -/
theorem mem_entries {m : SortedMap κ ν} {key : κ} {value : ν} :
    (key, value) ∈ m.entries ↔ m.find? key = some value :=
  mem_iff_findIn? m.ascending.nodup

/-- The keys of a map are those under which something is found. -/
theorem mem_keys {m : SortedMap κ ν} {key : κ} :
    key ∈ m.keys ↔ ∃ value, m.find? key = some value := by
  simp only [keys, List.mem_map, Prod.exists, exists_and_right, exists_eq_right, mem_entries]

/-- A key is not in a map when nothing is found under it. -/
theorem not_mem_keys {m : SortedMap κ ν} {key : κ} : key ∉ m.keys ↔ m.find? key = none := by
  rw [mem_keys, Option.eq_none_iff_forall_ne_some, not_exists]

/-- The values of a map are those that are found under some key. -/
theorem mem_values {m : SortedMap κ ν} {value : ν} :
    value ∈ m.values ↔ ∃ key, m.find? key = some value := by
  simp only [values, List.mem_map, Prod.exists, exists_eq_right, mem_entries]

/-- **Maps with the same value under every key are equal.** -/
theorem ext {m n : SortedMap κ ν} (h : ∀ key, m.find? key = n.find? key) : m = n := by
  have hperm : m.entries.Perm n.entries := by
    refine (List.perm_ext_iff_of_nodup m.nodup_entries n.nodup_entries).mpr ?_
    rintro ⟨key, value⟩
    rw [mem_entries, mem_entries, h]
  have hentries : m.entries = n.entries := by
    refine hperm.eq_of_pairwise ?_ m.pairwise_entries n.pairwise_entries
    intro x y _ _ hxy hyx
    rw [less_asymm hxy] at hyx
    cases hyx
  cases m
  cases n
  cases hentries
  rfl

/-- **In a map of a list the last entry of a key counts.** -/
theorem find?_ofList (entries : List (κ × ν)) (key : κ) :
    (ofList entries).find? key =
      ((entries.filter (fun entry => entry.1 = key)).getLast?).map Prod.snd := by
  suffices hfold : ∀ m : SortedMap κ ν,
      (entries.foldl (fun m entry => m.insert entry.1 entry.2) m).find? key =
        (((entries.filter (fun entry => entry.1 = key)).getLast?).map Prod.snd).or
          (m.find? key) by
    rw [ofList, hfold, find?_empty, Option.or_none]
  induction entries with
  | nil => exact fun m => rfl
  | cons entry rest ih =>
    intro m
    rw [List.foldl_cons, ih, find?_insert]
    by_cases hkey : entry.1 = key
    · rw [if_pos hkey.symm, List.filter_cons_of_pos (by simpa using hkey), List.getLast?_cons]
      cases (rest.filter (fun entry => entry.1 = key)).getLast? <;> rfl
    · rw [if_neg fun heq => hkey heq.symm, List.filter_cons_of_neg (by simpa using hkey)]

/-- In a map of a list with distinct keys every entry counts. -/
theorem find?_ofList_of_nodup {entries : List (κ × ν)} (h : (entries.map Prod.fst).Nodup)
    (key : κ) : (ofList entries).find? key = findIn? key entries := by
  rw [find?_ofList]
  induction entries with
  | nil => rfl
  | cons entry rest ih =>
    obtain ⟨hfresh, hrest⟩ := List.nodup_cons.mp h
    by_cases hkey : entry.1 = key
    · have hothers : rest.filter (fun entry => entry.1 = key) = [] := by
        rw [List.filter_eq_nil_iff]
        intro other hother hsame
        refine hfresh (List.mem_map.mpr ⟨other, hother, ?_⟩)
        rw [hkey]
        exact of_decide_eq_true hsame
      rw [findIn?, if_pos hkey, List.filter_cons_of_pos (by simpa using hkey), hothers]
      rfl
    · rw [findIn?, if_neg hkey, List.filter_cons_of_neg (by simpa using hkey)]
      exact ih hrest

/-- Changing the value of a key changes no other. -/
theorem find?_alter (m : SortedMap κ ν) (key other : κ) (f : Option ν → ν) :
    (m.alter key f).find? other = if other = key then some (f (m.find? key)) else m.find? other :=
  find?_insert m key other _

/-- Setting a key to the value it has changes nothing. -/
theorem insert_eq_self {m : SortedMap κ ν} {key : κ} {value : ν} (h : m.find? key = some value) :
    m.insert key value = m := by
  apply ext
  intro other
  rw [find?_insert]
  by_cases heq : other = key
  · rw [if_pos heq, heq, h]
  · rw [if_neg heq]

/-- Of two values set for a key the later one counts. -/
theorem insert_insert (m : SortedMap κ ν) (key : κ) (earlier later : ν) :
    (m.insert key earlier).insert key later = m.insert key later := by
  apply ext
  intro other
  simp only [find?_insert]
  split <;> rfl

omit [DecidableEq κ] in
/-- Which value a key is set to makes no difference to the keys. -/
theorem keys_insert (m : SortedMap κ ν) (key : κ) (s t : ν) :
    (m.insert key s).keys = (m.insert key t).keys := by
  refine (m.insert key s).ascending.eq_of_mem_iff (m.insert key t).ascending ?_
  intro other
  exact mem_keys_insertEntry.trans mem_keys_insertEntry.symm

/-! ### Counts -/

/-- Changing the value of a key keeps all keys and adds that one. -/
theorem mem_keys_alter {m : SortedMap κ ν} {key other : κ} {f : Option ν → ν} :
    other ∈ (m.alter key f).keys ↔ other = key ∨ other ∈ m.keys :=
  mem_keys_insertEntry

/-- Setting a key in ascending entries adds its new value to the sum and takes its earlier one off. -/
theorem sum_insertEntry {key : κ} {value : Nat} {entries : List (κ × Nat)}
    (h : Ascending (entries.map Prod.fst)) :
    ((insertEntry key value entries).map Prod.snd).sum + (findIn? key entries).getD 0 =
      (entries.map Prod.snd).sum + value := by
  induction entries with
  | nil => simp [insertEntry, findIn?]
  | cons head rest ih =>
    have hrest := List.pairwise_cons.mp h
    by_cases hbefore : less key head.1 = true
    · -- the key comes before all others, so it is none of them
      have hfresh : findIn? key (head :: rest) = none := by
        refine Option.eq_none_iff_forall_ne_some.mpr ?_
        intro earlier hfound
        have hmem := List.mem_map_of_mem (f := Prod.fst)
          ((mem_iff_findIn? h.nodup).mpr hfound)
        obtain heq | hlater := List.mem_cons.mp hmem
        · exact ne_of_less hbefore heq
        · exact ne_of_less (less_trans hbefore (hrest.1 _ hlater)) rfl
      rw [hfresh, insertEntry, if_pos hbefore, List.map_cons, List.sum_cons, Option.getD_none]
      omega
    · by_cases hafter : less head.1 key = true
      · have hsum := ih hrest.2
        rw [insertEntry, if_neg hbefore, if_pos hafter, findIn?, if_neg (ne_of_less hafter),
          List.map_cons, List.map_cons, List.sum_cons, List.sum_cons]
        omega
      · have hsame : key = head.1 :=
          less_connex (Bool.eq_false_iff.mpr hbefore) (Bool.eq_false_iff.mpr hafter)
        rw [insertEntry, if_neg hbefore, if_neg hafter, findIn?, if_pos hsame.symm,
          List.map_cons, List.map_cons, List.sum_cons, List.sum_cons, Option.getD_some]
        omega

section

variable {α : Type w} (kind : α → κ) (items : List α) (m : SortedMap κ Nat)

/-- The keys of the counts of some items are those of the items. -/
theorem mem_keys_tally {key : κ} :
    key ∈ (items.foldl (fun counts item => counts.alter (kind item) (·.getD 0 + 1)) m).keys ↔
      key ∈ m.keys ∨ ∃ item ∈ items, kind item = key := by
  induction items generalizing m with
  | nil => simp
  | cons item rest ih =>
    rw [List.foldl_cons, ih, mem_keys_alter, List.exists_mem_cons_iff, @eq_comm _ key,
      or_comm (a := kind item = key), or_assoc]

/-- **The counts of some items add up to their number.** -/
theorem sum_values_tally :
    (items.foldl (fun counts item => counts.alter (kind item) (·.getD 0 + 1)) m).values.sum =
      m.values.sum + items.length := by
  induction items generalizing m with
  | nil => rfl
  | cons item rest ih =>
    have hone : (m.alter (kind item) (·.getD 0 + 1)).values.sum + (m.find? (kind item)).getD 0 =
        m.values.sum + ((m.find? (kind item)).getD 0 + 1) :=
      sum_insertEntry m.ascending
    rw [List.foldl_cons, ih, List.length_cons]
    omega

end

end SortedMap

end RelayFeeds
