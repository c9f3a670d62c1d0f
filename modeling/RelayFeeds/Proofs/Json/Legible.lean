import Mathlib.Data.List.Forall2
import RelayFeeds.Proofs.Json.Printing

/-! # Values that are read back from their text

A value is read back from its compact text when it is not nested too deep and its doubles are read back
one by one. Doubles need not be: their texts have the fewest digits that tell them apart, while the
reader rounds the digits before it scales them.

* **`Json.depth`** — how many containers enclose one another.
* **`Json.doubles`** — the doubles of a value.
* **`Double.IsLegible`** — a double is read back from its text.
* **`Double.reread?_lowerOfPair`**, **`Double.reread?_upperOfPair`** — two doubles that are read as each
  other.
* **`Json.reread?_eq_self_iff`**, **`Json.parse?_print_eq_self_iff`** — the values that are read back.
* **`Json.depth_le_of_reread?`** — what is nested too deep denotes nothing. -/

namespace RelayFeeds

/-- A double is read back from its text. -/
def Double.IsLegible (x : Double) : Prop := (Number.double x).reread? = some (.number (.double x))

instance (x : Double) : Decidable x.IsLegible :=
  inferInstanceAs (Decidable ((Number.double x).reread? = some (.number (.double x))))

/-! ### Doubles that are not read back -/

/-- A number 7.…e-10 with some digits behind the point. -/
def Literal.tiny (fraction : Digits) : Literal where
  negative := false
  whole := ⟨['7'], by decide, List.all_eq_true.mp rfl⟩
  fraction := some fraction
  exponent := some (true, ⟨['1', '0'], by decide, List.all_eq_true.mp rfl⟩)

/-- What the reader makes of such a number. -/
theorem Literal.reading_tiny {fraction : Digits} {digits : Nat} {x : Double}
    (hdigits : Reading.gather 7 fraction.chars = (digits, []))
    (hx : Double.ofDecimal? false digits (-fraction.chars.length - 10) = some x) :
    (tiny fraction).reading = .number (.double x) := by
  have hwhole : Reading.gather 0 ['7'] = (7, []) := by decide
  have hexponent : Text.digitsValue ['1', '0'] = 10 := by decide
  rw [Int.sub_eq_add_neg] at hx
  simp [reading, isPadded, tiny, Reading.numberOf, exponentValue, hwhole, hdigits, hexponent, hx]

namespace Double

/-- The double that is printed as 7.8409810628913e-10. -/
def lowerOfPair : Double := ⟨0x3E0AF0FFF83B2AC9⟩

/-- The next double, which is printed as 7.840981062891301e-10. -/
def upperOfPair : Double := ⟨0x3E0AF0FFF83B2ACA⟩

/-- The text of the lower double of the pair is read as the upper one. -/
theorem reread?_lowerOfPair :
    (Number.double lowerOfPair).reread? = some (.number (.double upperOfPair)) := by
  let fraction : Digits :=
    ⟨['8', '4', '0', '9', '8', '1', '0', '6', '2', '8', '9', '1', '3'], by decide,
      List.all_eq_true.mp rfl⟩
  have htext : (Number.double lowerOfPair).text = (Literal.tiny fraction).text := by decide +kernel
  have hdigits : Reading.gather 7 fraction.chars = (78409810628913, []) := by decide +kernel
  have hx : ofDecimal? false 78409810628913 (-fraction.chars.length - 10) = some upperOfPair := by
    rw [ofDecimal?, scaleByTen?]
    decide +kernel
  rw [Number.reread?_of_literal htext, Literal.reading_tiny hdigits hx]
  rfl

/-- The text of the upper double of the pair is read as the lower one. -/
theorem reread?_upperOfPair :
    (Number.double upperOfPair).reread? = some (.number (.double lowerOfPair)) := by
  let fraction : Digits :=
    ⟨['8', '4', '0', '9', '8', '1', '0', '6', '2', '8', '9', '1', '3', '0', '1'], by decide,
      List.all_eq_true.mp rfl⟩
  have htext : (Number.double upperOfPair).text = (Literal.tiny fraction).text := by decide +kernel
  have hdigits : Reading.gather 7 fraction.chars = (7840981062891301, []) := by decide +kernel
  have hx : ofDecimal? false 7840981062891301 (-fraction.chars.length - 10) = some lowerOfPair := by
    rw [ofDecimal?, scaleByTen?]
    decide +kernel
  rw [Number.reread?_of_literal htext, Literal.reading_tiny hdigits hx]
  rfl

end Double

namespace Json

/-! ### Depth and doubles -/

mutual

/-- How many containers enclose one another at most. -/
def depth : Json → Nat
  | .array items => depthItems items + 1
  | .object members => depthMembers members + 1
  | _ => 0

/-- The greatest depth of the items of an array. -/
def depthItems : List Json → Nat
  | [] => 0
  | item :: rest => max (depth item) (depthItems rest)

/-- The greatest depth of the values of the members of an object. -/
def depthMembers : List (String × Json) → Nat
  | [] => 0
  | (_, value) :: rest => max (depth value) (depthMembers rest)

end

mutual

/-- The doubles of a value. -/
def doubles : Json → List Double
  | .number (.double x) => [x]
  | .array items => doublesItems items
  | .object members => doublesMembers members
  | _ => []

/-- The doubles of the items of an array. -/
def doublesItems : List Json → List Double
  | [] => []
  | item :: rest => doubles item ++ doublesItems rest

/-- The doubles of the values of the members of an object. -/
def doublesMembers : List (String × Json) → List Double
  | [] => []
  | (_, value) :: rest => doubles value ++ doublesMembers rest

end

variable {items : List Json} {members : List (String × Json)} {limit : Nat}

/-- An array is one deeper than its items. -/
theorem depth_array_le_iff :
    (Json.array items).depth ≤ limit + 1 ↔ ∀ item ∈ items, item.depth ≤ limit := by
  rw [depth, Nat.add_le_add_iff_right]
  induction items with
  | nil => simp [depthItems]
  | cons item rest ih => rw [depthItems, max_le_iff, ih, List.forall_mem_cons]

/-- An object is one deeper than the values of its members. -/
theorem depth_object_le_iff :
    (Json.object members).depth ≤ limit + 1 ↔ ∀ member ∈ members, member.2.depth ≤ limit := by
  rw [depth, Nat.add_le_add_iff_right]
  induction members with
  | nil => simp [depthMembers]
  | cons member rest ih => rw [depthMembers, max_le_iff, ih, List.forall_mem_cons]

/-- The doubles of an array are those of its items. -/
theorem doubles_array : (Json.array items).doubles = items.flatMap doubles := by
  rw [doubles]
  induction items with
  | nil => rfl
  | cons item rest ih => rw [doublesItems, ih, List.flatMap_cons]

/-- The doubles of an object are those of the values of its members. -/
theorem doubles_object :
    (Json.object members).doubles = members.flatMap fun member => member.2.doubles := by
  rw [doubles]
  induction members with
  | nil => rfl
  | cons member rest ih => rw [doublesMembers, ih, List.flatMap_cons]

/-! ### Containers that are read back -/

/-- Items denote values when each denotes one. -/
theorem rereadItems?_eq_some_iff {values : List Json} :
    rereadItems? limit items = some values ↔
      List.Forall₂ (fun item value => reread? limit item = some value) items values := by
  induction items generalizing values with
  | nil => simp [rereadItems?, eq_comm]
  | cons item rest ih =>
    simp only [rereadItems?, Option.map₂_eq_some_iff, List.forall₂_cons_left_iff, ← ih,
      Option.mem_def]
    constructor
    · rintro ⟨value, others, hvalue, hothers, rfl⟩
      exact ⟨value, others, hvalue, hothers, rfl⟩
    · rintro ⟨value, others, hvalue, hothers, rfl⟩
      exact ⟨value, others, hvalue, hothers, rfl⟩

/-- Members denote values under their keys when each denotes one. -/
theorem rereadMembers?_eq_some_iff {values : List (String × Json)} :
    rereadMembers? limit members = some values ↔
      List.Forall₂ (fun member value =>
        member.1 = value.1 ∧ reread? limit member.2 = some value.2) members values := by
  induction members generalizing values with
  | nil => simp [rereadMembers?, eq_comm]
  | cons member rest ih =>
    obtain ⟨key, item⟩ := member
    simp only [rereadMembers?, Option.map₂_eq_some_iff, List.forall₂_cons_left_iff, ← ih,
      Option.mem_def]
    constructor
    · rintro ⟨value, others, hvalue, hothers, rfl⟩
      exact ⟨(key, value), others, ⟨rfl, hvalue⟩, hothers, rfl⟩
    · rintro ⟨⟨_, value⟩, others, ⟨rfl, hvalue⟩, hothers, rfl⟩
      exact ⟨value, others, hvalue, hothers, rfl⟩

/-- Of two lists whose members are related in order, each member of the first is related. -/
theorem exists_of_forall₂ {α β : Type} {R : α → β → Prop} {as : List α} {bs : List β}
    (h : List.Forall₂ R as bs) : ∀ a ∈ as, ∃ b, R a b := by
  induction h with
  | nil => exact List.forall_mem_nil _
  | cons hab _ ih => exact List.forall_mem_cons.mpr ⟨⟨_, hab⟩, ih⟩

/-- Items are read back when each is. -/
theorem rereadItems?_eq_self_iff :
    rereadItems? limit items = some items ↔ ∀ item ∈ items, reread? limit item = some item := by
  rw [rereadItems?_eq_some_iff, List.forall₂_same]

/-- Members in ascending order of their keys are read back when each is. -/
theorem rereadMembers?_map_eq_self_iff (hkeys : Ordered.Ascending (members.map Prod.fst)) :
    (rereadMembers? limit members).map ofMembers = some (.object members) ↔
      ∀ member ∈ members, reread? limit member.2 = some member.2 := by
  rw [Option.map_eq_some_iff]
  constructor
  · rintro ⟨values, hvalues, hobject⟩
    have hsame : values.map Prod.fst = members.map Prod.fst := by
      have hall := rereadMembers?_eq_some_iff.mp hvalues
      clear hvalues hobject hkeys
      induction hall with
      | nil => rfl
      | cons hmember _ ih => rw [List.map_cons, List.map_cons, ih, hmember.1]
    rw [ofMembers_of_ascending (hsame ▸ hkeys), Json.object.injEq] at hobject
    rw [hobject, rereadMembers?_eq_some_iff, List.forall₂_same] at hvalues
    exact fun member hmem => (hvalues member hmem).2
  · intro h
    refine ⟨members, ?_, ofMembers_of_ascending hkeys⟩
    rw [rereadMembers?_eq_some_iff, List.forall₂_same]
    exact fun member hmem => ⟨rfl, h member hmem⟩

/-! ### Values -/

/-- A property of values that containers take over from what stands in them holds of every value. -/
theorem treeInduction {motive : Json → Prop} (null : motive .null)
    (bool : ∀ value, motive (.bool value)) (number : ∀ value, motive (.number value))
    (string : ∀ value, motive (.string value))
    (array : ∀ items, (∀ item ∈ items, motive item) → motive (.array items))
    (object : ∀ members : List (String × Json),
      (∀ member ∈ members, motive member.2) → motive (.object members)) (value : Json) :
    motive value := by
  match value with
  | .null => exact null
  | .bool value => exact bool value
  | .number value => exact number value
  | .string value => exact string value
  | .array items =>
    exact array items fun item hmem => treeInduction null bool number string array object item
  | .object members =>
    exact object members fun member hmem =>
      treeInduction null bool number string array object member.2
termination_by sizeOf value
decreasing_by
  · have hlt := List.sizeOf_lt_of_mem hmem
    simp only [Json.array.sizeOf_spec]
    omega
  · have hlt := List.sizeOf_lt_of_mem hmem
    have hsize : sizeOf member = 1 + sizeOf member.1 + sizeOf member.2 := rfl
    simp only [Json.object.sizeOf_spec]
    omega

/-- **The values that are read back**: not nested too deep, with legible doubles. -/
theorem reread?_eq_self_iff {value : Json} (h : value.IsArranged) :
    value.reread? limit = some value ↔
      value.depth ≤ limit ∧ ∀ x ∈ value.doubles, x.IsLegible := by
  induction value using treeInduction generalizing limit with
  | null => simp [reread?, depth, doubles]
  | bool value => simp [reread?, depth, doubles]
  | number value =>
    cases value with
    | integer n fits => simp [reread?, depth, doubles, Number.reread?_integer]
    | double x => simp [reread?, depth, doubles, Double.IsLegible]
  | string value => simp [reread?, depth, doubles]
  | array items ih =>
    cases limit with
    | zero => simp [reread?, depth]
    | succ limit =>
      have hitems : ∀ item ∈ items, item.reread? limit = some item ↔
          item.depth ≤ limit ∧ ∀ x ∈ item.doubles, x.IsLegible :=
        fun item hmem => ih item hmem (h.of_mem_array item hmem)
      have hmap : (Json.array items).reread? (limit + 1) = some (.array items) ↔
          ∀ item ∈ items, item.reread? limit = some item := by
        rw [reread?, ← rereadItems?_eq_self_iff, Option.map_eq_some_iff]
        simp
      rw [hmap, depth_array_le_iff, doubles_array, List.forall_mem_flatMap, ← forall₂_and]
      exact forall₂_congr hitems
  | object members ih =>
    obtain ⟨hkeys, hvalues⟩ := h.of_object
    cases limit with
    | zero => simp [reread?, depth]
    | succ limit =>
      have hmembers : ∀ member ∈ members, member.2.reread? limit = some member.2 ↔
          member.2.depth ≤ limit ∧ ∀ x ∈ member.2.doubles, x.IsLegible :=
        fun member hmem => ih member hmem (hvalues member hmem)
      rw [reread?, rereadMembers?_map_eq_self_iff hkeys, depth_object_le_iff, doubles_object,
        List.forall_mem_flatMap, ← forall₂_and]
      exact forall₂_congr hmembers

/-- **What is nested too deep denotes nothing.** -/
theorem depth_le_of_reread? {value denoted : Json} (h : value.reread? limit = some denoted) :
    value.depth ≤ limit := by
  induction value using treeInduction generalizing limit denoted with
  | array items ih =>
    cases limit with
    | zero => cases h
    | succ limit =>
      obtain ⟨values, hvalues, -⟩ := Option.map_eq_some_iff.mp h
      have hall := exists_of_forall₂ (rereadItems?_eq_some_iff.mp hvalues)
      refine depth_array_le_iff.mpr fun item hmem => ?_
      obtain ⟨denoted, hdenoted⟩ := hall item hmem
      exact ih item hmem hdenoted
  | object members ih =>
    cases limit with
    | zero => cases h
    | succ limit =>
      obtain ⟨values, hvalues, -⟩ := Option.map_eq_some_iff.mp h
      have hall := exists_of_forall₂ (rereadMembers?_eq_some_iff.mp hvalues)
      refine depth_object_le_iff.mpr fun member hmem => ?_
      obtain ⟨denoted, -, hdenoted⟩ := hall member hmem
      exact ih member hmem hdenoted
  | _ => exact Nat.zero_le _

end Json

end RelayFeeds
