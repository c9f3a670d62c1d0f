import RelayFeeds.Json.Reading
import RelayFeeds.Proofs.Json.Finite

/-! # Texts denote finite values

A numeral above the finite range has no value, and any other is an integer or is rounded to a finite
double; so whatever a text denotes is a finite value. What the reader finds within some steps is a
token or is made of what it finds within one step less.

* **`finds`** — whatever the reader finds denotes finite values at most.
* **`isFinite_of_parse?`** — the value of a text is finite. -/

namespace RelayFeeds.Reading

/-- A reading denotes no value but a finite one. -/
def IsFinite (reading : Reading) : Prop :=
  ∀ value, reading.value? = some value → value.isFinite = true

/-! ### Tokens -/

/-- A number of 64 bits is extended by digits only as long as it has 64 bits. -/
theorem gather_lt {value : Nat} (h : value < UInt64.size) (digits : List Char) :
    (gather value digits).1 < UInt64.size := by
  induction digits generalizing value with
  | nil => exact h
  | cons digit rest ih =>
    simp only [gather]
    split
    · rename_i hextended
      exact ih hextended
    · exact h

/-- A numeral denotes a finite number, if any. -/
theorem isFinite_numberOf (negative : Bool) (whole : List Char) (fraction : Option (List Char))
    (exponent : Option Int) : (numberOf negative whole fraction exponent).IsFinite := by
  unfold numberOf
  extract_lets leading fractionDigits all used scale double integer
  have hall : all.1 < 2 ^ 64 := gather_lt (gather_lt (by decide) whole) fractionDigits
  have hdouble : double.IsFinite := by
    intro value hvalue
    cases hx : Double.ofDecimal? negative all.1 scale with
    | none =>
      simp only [double, hx] at hvalue
      cases hvalue
    | some x =>
      simp only [double, hx] at hvalue
      cases hvalue
      exact Double.isFinite_of_ofDecimal? hall hx
  -- a literal is the negative zero, an integer that fits, or else a decimal
  split_ifs
  · rintro value ⟨⟩
    exact Double.isFinite_ofMagnitude (by decide)
  · rintro value ⟨⟩
    rfl
  · exact hdouble
  · exact hdouble

/-- A numeral as read denotes a finite number, if any. -/
theorem isFinite_readNumber (text : List Char) : (readNumber text).1.IsFinite := by
  unfold readNumber
  extract_lets signed whole
  split_ifs
  · rintro value ⟨⟩
  · split
    · rintro value ⟨⟩
    · split
      · rintro value ⟨⟩
      · exact isFinite_numberOf _ _ _ _

/-- A string denotes a text, if anything. -/
theorem isFinite_readString (text : List Char) : (readString text).1.IsFinite := by
  rw [readString]
  split
  · rintro value ⟨⟩
  · split
    · rintro value ⟨⟩
      rfl
    · rintro value ⟨⟩

/-- A word denotes what it stands for, if anything. -/
theorem isFinite_readWord {word : List Char} {reading : Reading} (h : reading.IsFinite)
    (text : List Char) : (readWord word reading text).1.IsFinite := by
  rw [readWord]
  split
  · exact h
  · rintro value ⟨⟩

/-! ### Containers -/

/-- The values of finite items are finite. -/
theorem isFinite_valueItems? {items : List Reading} (h : ∀ item ∈ items, item.IsFinite)
    {values : List Json} (hvalues : valueItems? items = some values) :
    ∀ value ∈ values, value.isFinite = true := by
  induction items generalizing values with
  | nil =>
    cases hvalues
    exact fun value hmem => absurd hmem List.not_mem_nil
  | cons item rest ih =>
    obtain ⟨hitem, hrest⟩ := List.forall_mem_cons.mp h
    rw [valueItems?] at hvalues
    split at hvalues
    · rename_i value others hvalue hothers
      cases hvalues
      exact List.forall_mem_cons.mpr ⟨hitem value hvalue, ih hrest hothers⟩
    · cases hvalues

/-- The values of finite members are finite. -/
theorem isFinite_valueMembers? {members : List (String × Reading)}
    (h : ∀ member ∈ members, member.2.IsFinite) {values : List (String × Json)}
    (hvalues : valueMembers? members = some values) :
    ∀ member ∈ values, member.2.isFinite = true := by
  induction members generalizing values with
  | nil =>
    cases hvalues
    exact fun value hmem => absurd hmem List.not_mem_nil
  | cons member rest ih =>
    obtain ⟨key, item⟩ := member
    obtain ⟨hitem, hrest⟩ := List.forall_mem_cons.mp h
    rw [valueMembers?] at hvalues
    split at hvalues
    · rename_i value others hvalue hothers
      cases hvalues
      exact List.forall_mem_cons.mpr ⟨hitem value hvalue, ih hrest hothers⟩
    · cases hvalues

/-- An array of finite items denotes a finite value, if any. -/
theorem isFinite_array {items : List Reading} (h : ∀ item ∈ items, item.IsFinite)
    (ending : Ending) : (Reading.array items ending).IsFinite := by
  intro value hvalue
  rw [value?] at hvalue
  split_ifs at hvalue
  obtain ⟨values, hvalues, rfl⟩ := Option.map_eq_some_iff.mp hvalue
  exact Json.isFinite_array.mpr (isFinite_valueItems? h hvalues)

/-- An object of finite members denotes a finite value, if any. -/
theorem isFinite_object {members : List (String × Reading)}
    (h : ∀ member ∈ members, member.2.IsFinite) (ending : Ending) :
    (Reading.object members ending).IsFinite := by
  intro value hvalue
  rw [value?] at hvalue
  split_ifs at hvalue
  obtain ⟨values, hvalues, rfl⟩ := Option.map_eq_some_iff.mp hvalue
  refine Json.isFinite_object.mpr fun member hmem => ?_
  exact isFinite_valueMembers? h hvalues member (SortedMap.mem_of_mem_ofList hmem)

/-! ### Texts -/

/-- Whatever the reader finds within some steps denotes finite values at most. -/
structure Finds (steps : Nat) : Prop where
  /-- A value. -/
  value : ∀ depth text, (readValue steps depth text).1.IsFinite
  /-- Items. -/
  items : ∀ depth first text, ∀ item ∈ (readItems steps depth first text).1, item.IsFinite
  /-- Members. -/
  members : ∀ depth first text,
    ∀ member ∈ (readMembers steps depth first text).1, member.2.IsFinite

variable {steps : Nat}

/-- A value found within one more step is a token or a container of what was found. -/
theorem Finds.value_succ (h : Finds steps) (depth : Nat) (text : List Char) :
    (readValue (steps + 1) depth text).1.IsFinite := by
  unfold readValue
  split
  · rintro value ⟨⟩
  · exact isFinite_readString _
  · extract_lets found
    split_ifs
    · exact isFinite_array (fun _ hmem => absurd hmem List.not_mem_nil) _
    · exact isFinite_array (h.items _ _ _) _
  · extract_lets found
    split_ifs
    · exact isFinite_object (fun _ hmem => absurd hmem List.not_mem_nil) _
    · exact isFinite_object (h.members _ _ _) _
  · exact isFinite_readWord (by rintro value ⟨⟩; rfl) _
  · exact isFinite_readWord (by rintro value ⟨⟩; rfl) _
  · exact isFinite_readWord (by rintro value ⟨⟩; rfl) _
  · split_ifs
    · exact isFinite_readNumber _
    · rintro value ⟨⟩

/-- Items found within one more step are an item and further items that were found. -/
theorem Finds.items_succ (h : Finds steps) (depth : Nat) (first : Bool) (text : List Char) :
    ∀ item ∈ (readItems (steps + 1) depth first text).1, item.IsFinite := by
  unfold readItems
  extract_lets more
  have hmore : ∀ rest, ∀ item ∈ (more rest).1, item.IsFinite := by
    intro rest
    have hitem : (readValue steps depth rest).1.IsFinite := h.value _ _
    simp only [more]
    split_ifs
    · exact List.forall_mem_singleton.mpr hitem
    · exact List.forall_mem_cons.mpr ⟨hitem, h.items _ _ _⟩
  split
  · simp
  · split_ifs
    · refine List.forall_mem_singleton.mpr ?_
      rintro value ⟨⟩
    · exact hmore _
  · split_ifs
    · exact hmore _
    · simp

/-- Members found within one more step are a member and further members that were found. -/
theorem Finds.members_succ (h : Finds steps) (depth : Nat) (first : Bool) (text : List Char) :
    ∀ member ∈ (readMembers (steps + 1) depth first text).1, member.2.IsFinite := by
  unfold readMembers
  extract_lets more
  have hmore : ∀ rest, ∀ member ∈ (more rest).1, member.2.IsFinite := by
    intro rest
    simp only [more]
    split
    · split
      · split
        · rename_i rest _
          have hvalue : (readValue steps depth rest).1.IsFinite := h.value _ _
          split_ifs
          · exact List.forall_mem_singleton.mpr hvalue
          · exact List.forall_mem_cons.mpr ⟨hvalue, h.members _ _ _⟩
        · refine List.forall_mem_singleton.mpr ?_
          rintro value ⟨⟩
      · split
        · split_ifs <;> simp
        · simp
      · simp
    · simp
  split
  · simp
  · split_ifs
    · simp
    · exact hmore _
  · split_ifs
    · exact hmore _
    · simp

/-- **Whatever the reader finds denotes finite values at most.** -/
theorem finds (steps : Nat) : Finds steps := by
  induction steps with
  | zero => exact ⟨by rintro depth text value ⟨⟩, by simp [readItems], by simp [readMembers]⟩
  | succ steps ih => exact ⟨ih.value_succ, ih.items_succ, ih.members_succ⟩

end RelayFeeds.Reading

namespace RelayFeeds.Json

/-- **The value of a text is finite.** -/
theorem isFinite_of_parse? {text : String} {value : Json} (h : parse? text = some value) :
    value.isFinite = true := by
  simp only [parse?] at h
  split_ifs at h
  exact (Reading.finds _).value _ _ value h

end RelayFeeds.Json
