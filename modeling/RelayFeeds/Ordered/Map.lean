import RelayFeeds.Ordered.Basic

/-! # Keyed tables — entries in strictly ascending order of their keys

A finite map is the list of its entries in ascending order of the keys, one entry a key. Insertion
replaces in one pass, so a table built from a list keeps the last value given for each key. -/

namespace RelayFeeds

universe u v w

open Ordered

/-- A finite map, held as its entries in strictly ascending order of the keys. -/
structure SortedMap (κ : Type u) (ν : Type v) [Ordered κ] where
  /-- The entries in ascending order of the keys. -/
  entries : List (κ × ν)
  /-- Every key comes before all later ones. -/
  ascending : Ascending (entries.map Prod.fst)
  deriving DecidableEq

namespace SortedMap

variable {κ : Type u} {ν : Type v} [Ordered κ]

/-- Insertion into ascending entries, replacing the entry of an equal key. -/
def insertEntry (key : κ) (value : ν) : List (κ × ν) → List (κ × ν)
  | [] => [(key, value)]
  | head :: rest =>
    if less key head.1 then (key, value) :: head :: rest
    else if less head.1 key then head :: insertEntry key value rest
    else (key, value) :: rest

/-- The keys after insertion are the inserted one and the earlier ones. -/
theorem mem_keys_insertEntry {key x : κ} {value : ν} {entries : List (κ × ν)} :
    x ∈ (insertEntry key value entries).map Prod.fst ↔ x = key ∨ x ∈ entries.map Prod.fst := by
  induction entries with
  | nil => simp [insertEntry]
  | cons head rest ih =>
    by_cases hbefore : less key head.1 = true
    · simp [insertEntry, hbefore]
    · by_cases hafter : less head.1 key = true
      · simp only [insertEntry, hbefore, hafter, Bool.false_eq_true, if_false, if_true,
          List.map_cons, List.mem_cons, ih]
        exact or_left_comm
      · have hsame : key = head.1 :=
          less_connex (Bool.eq_false_iff.mpr hbefore) (Bool.eq_false_iff.mpr hafter)
        subst hsame
        simp [insertEntry, less_irrefl]

/-- Insertion keeps the keys ascending. -/
theorem ascending_insertEntry {key : κ} {value : ν} {entries : List (κ × ν)}
    (h : Ascending (entries.map Prod.fst)) :
    Ascending ((insertEntry key value entries).map Prod.fst) := by
  induction entries with
  | nil => simp [insertEntry, Ascending]
  | cons head rest ih =>
    have hrest := List.pairwise_cons.mp h
    by_cases hbefore : less key head.1 = true
    · simp only [insertEntry, hbefore, if_true]
      exact List.pairwise_cons.mpr
        ⟨fun x hx => (List.mem_cons.mp hx).elim (fun e => e ▸ hbefore)
          (fun m => less_trans hbefore (hrest.1 x m)), h⟩
    · by_cases hafter : less head.1 key = true
      · simp only [insertEntry, hbefore, hafter, Bool.false_eq_true, if_false, if_true]
        exact List.pairwise_cons.mpr
          ⟨fun x hx => (mem_keys_insertEntry.mp hx).elim (fun e => e ▸ hafter) (hrest.1 x),
            ih hrest.2⟩
      · have hsame : key = head.1 :=
          less_connex (Bool.eq_false_iff.mpr hbefore) (Bool.eq_false_iff.mpr hafter)
        subst hsame
        simpa [insertEntry, less_irrefl] using h

/-- The map without entries. -/
def empty : SortedMap κ ν := ⟨[], ascending_nil⟩

instance : EmptyCollection (SortedMap κ ν) := ⟨empty⟩

instance : Inhabited (SortedMap κ ν) := ⟨empty⟩

/-- The map with a value set for a key, in place of any earlier one. -/
def insert (m : SortedMap κ ν) (key : κ) (value : ν) : SortedMap κ ν :=
  ⟨insertEntry key value m.entries, ascending_insertEntry m.ascending⟩

/-- The map of a list of entries, the last one given for a key counting. -/
def ofList (entries : List (κ × ν)) : SortedMap κ ν :=
  entries.foldl (fun m entry => m.insert entry.1 entry.2) empty

/-- The value of a key in a list of entries. -/
def findIn? [DecidableEq κ] (key : κ) : List (κ × ν) → Option ν
  | [] => none
  | head :: rest => if head.1 = key then some head.2 else findIn? key rest

/-- The value of a key. -/
def find? [DecidableEq κ] (m : SortedMap κ ν) (key : κ) : Option ν := findIn? key m.entries

/-- The keys in ascending order. -/
def keys (m : SortedMap κ ν) : List κ := m.entries.map Prod.fst

/-- The values in ascending order of their keys. -/
def values (m : SortedMap κ ν) : List ν := m.entries.map Prod.snd

/-- The map with every value replaced by one that may depend on the key. -/
def mapValues {μ : Type w} (m : SortedMap κ ν) (f : κ → ν → μ) : SortedMap κ μ :=
  ⟨m.entries.map (fun entry => (entry.1, f entry.1 entry.2)), by
    simpa [List.map_map, Function.comp_def] using m.ascending⟩

/-- The map with one key's value changed, an absent value standing as `none`. -/
def alter [DecidableEq κ] (m : SortedMap κ ν) (key : κ) (f : Option ν → ν) : SortedMap κ ν :=
  m.insert key (f (m.find? key))

/-- The inserted value is found under its key. -/
theorem findIn?_insertEntry_self [DecidableEq κ] (key : κ) (value : ν)
    (entries : List (κ × ν)) : findIn? key (insertEntry key value entries) = some value := by
  induction entries with
  | nil => simp [insertEntry, findIn?]
  | cons head rest ih =>
    by_cases hbefore : less key head.1 = true
    · simp [insertEntry, hbefore, findIn?]
    · by_cases hafter : less head.1 key = true
      · simp [insertEntry, hbefore, hafter, findIn?, ne_of_less hafter, ih]
      · simp [insertEntry, hbefore, hafter, findIn?]

/-- Insertion leaves the values of other keys alone. -/
theorem findIn?_insertEntry_ne [DecidableEq κ] {key other : κ} (hne : other ≠ key) (value : ν)
    (entries : List (κ × ν)) :
    findIn? other (insertEntry key value entries) = findIn? other entries := by
  induction entries with
  | nil => simp [insertEntry, findIn?, hne.symm]
  | cons head rest ih =>
    by_cases hbefore : less key head.1 = true
    · simp [insertEntry, hbefore, findIn?, hne.symm]
    · by_cases hafter : less head.1 key = true
      · simp [insertEntry, hbefore, hafter, findIn?, ih]
      · have hsame : key = head.1 :=
          less_connex (Bool.eq_false_iff.mpr hbefore) (Bool.eq_false_iff.mpr hafter)
        subst hsame
        simp [insertEntry, less_irrefl, findIn?, hne.symm]

/-- Insertion sets the value of its key and no other. -/
theorem find?_insert [DecidableEq κ] (m : SortedMap κ ν) (key other : κ) (value : ν) :
    (m.insert key value).find? other = if other = key then some value else m.find? other := by
  by_cases h : other = key
  · subst h
    simpa [find?, insert] using findIn?_insertEntry_self other value m.entries
  · simpa [find?, insert, h] using findIn?_insertEntry_ne h value m.entries

/-- Replacing values by a function of key and value does so under every key. -/
theorem find?_mapValues [DecidableEq κ] {μ : Type w} (m : SortedMap κ ν) (f : κ → ν → μ)
    (key : κ) : (m.mapValues f).find? key = (m.find? key).map (f key) := by
  suffices h : ∀ entries : List (κ × ν),
      findIn? key (entries.map (fun entry => (entry.1, f entry.1 entry.2))) =
        (findIn? key entries).map (f key) from h m.entries
  intro entries
  induction entries with
  | nil => rfl
  | cons head rest ih =>
    by_cases h : head.1 = key
    · subst h
      simp [findIn?]
    · simp [findIn?, h, ih]

end SortedMap

end RelayFeeds
