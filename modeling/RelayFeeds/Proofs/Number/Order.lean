import RelayFeeds.Proofs.Number.Rounding

/-! # Order of doubles

Doubles that are numbers compare by their keys, the magnitudes with their signs. Rounding integers and
multiplying by what is not negative behave with keys as they do with numbers: integers keep their
order, what is not negative has products that are not, and a factor between zero and one moves a
negative integer up.

* **`le_iff`** — comparing doubles is comparing keys.
* **`key_ofInt_mono`** — rounding integers keeps order.
* **`key_mul_nonneg`** — a product of doubles that are not below zero is not below zero.
* **`key_lt_key_mul`** — a factor below one lifts a negative integer. -/

namespace RelayFeeds.Double

/-- One double is at most another when both are numbers and their keys are so ordered. -/
theorem le_iff {x y : Double} :
    x.le y = true ↔ x.isNaN = false ∧ y.isNaN = false ∧ x.key ≤ y.key := by
  simp [le, and_assoc]

/-- The sign of a double made from a magnitude is the one given. -/
theorem isNegative_ofMagnitude {negative : Bool} {magnitude : ℕ} (h : magnitude < signWeight) :
    (ofMagnitude negative magnitude).isNegative = negative := by
  rw [signWeight] at h
  rw [Bool.eq_iff_iff, isNegative, Nat.ble_eq, ofMagnitude, signWeight, UInt64.toNat_ofNat']
  cases negative <;> simp <;> omega

/-- The key of a double made from a magnitude is that magnitude with its sign. -/
theorem key_ofMagnitude {negative : Bool} {magnitude : ℕ} (h : magnitude < signWeight) :
    (ofMagnitude negative magnitude).key = if negative then -(magnitude : ℤ) else magnitude := by
  rw [key, isNegative_ofMagnitude h, magnitude_ofMagnitude h]
  rfl

/-- A double that is not below zero has its magnitude for a key. -/
theorem key_eq_magnitude {x : Double} (h : 0 ≤ x.key) : x.key = x.magnitude := by
  rw [key, Int.ofNat_eq_natCast] at *
  split_ifs at * <;> omega

/-- Rounded magnitudes leave the sign bit alone. -/
theorem nearest_lt_signWeight {num den : ℕ} (hden : den ≠ 0) : nearest num den < signWeight := by
  by_cases hnum : num = 0
  · rw [nearest, if_pos hnum]
    decide
  · obtain ⟨unit, n, -, -, hnearest⟩ := nearest_eq hnum hden
    rw [hnearest]
    exact (min_le_right _ _).trans_lt (by decide)

/-- The key of the double nearest to an integer. -/
theorem key_ofInt (n : ℤ) :
    (ofInt n).key = if n < 0 then -(nearest n.natAbs 1 : ℤ) else nearest n.natAbs 1 := by
  rw [ofInt, key_ofMagnitude (nearest_lt_signWeight Nat.one_ne_zero)]
  simp

/-- Rounding natural numbers keeps order. -/
theorem nearest_one_mono {m n : ℕ} (h : m ≤ n) : nearest m 1 ≤ nearest n 1 :=
  nearest_mono Nat.one_ne_zero Nat.one_ne_zero (by simpa using h)

/-- **Rounding integers to doubles keeps order.** -/
theorem key_ofInt_mono {m n : ℤ} (h : m ≤ n) : (ofInt m).key ≤ (ofInt n).key := by
  rw [key_ofInt, key_ofInt]
  split_ifs with hm hn hn
  · -- the larger of two negative integers has the smaller magnitude
    have := nearest_one_mono (show n.natAbs ≤ m.natAbs by omega)
    omega
  · omega
  · omega
  · have := nearest_one_mono (show m.natAbs ≤ n.natAbs by omega)
    omega

/-- The magnitude of an integer that is not zero is that of one at least. -/
theorem one_le_nearest {n : ℕ} (h : n ≠ 0) : 1023 * leadingWeight ≤ nearest n 1 := by
  have hone : nearest 1 1 = 1023 * leadingWeight := by decide +kernel
  rw [← hone]
  exact nearest_one_mono (Nat.one_le_iff_ne_zero.mpr h)

/-- The doubles of negative integers are below zero. -/
theorem key_ofInt_neg {n : ℤ} (h : n < 0) : (ofInt n).key < 0 := by
  have hone := one_le_nearest (n := n.natAbs) (by omega)
  rw [leadingWeight] at hone
  rw [key_ofInt, if_pos h]
  omega

/-- A double that is not below zero has a sign only when it is zero. -/
theorem magnitude_eq_zero {x : Double} (h : 0 ≤ x.key) (hnegative : x.isNegative = true) :
    x.magnitude = 0 := by
  rw [key, hnegative, if_pos rfl, Int.ofNat_eq_natCast] at h
  omega

/-- The magnitude of a product is zero when that of a factor is. -/
theorem mulMagnitude_eq_zero {a b : ℕ} (h : a = 0 ∨ b = 0) : mulMagnitude a b = 0 := by
  have hzero : (ratio 0).1 = 0 := by decide
  have hproduct : (ratio a).1 * (ratio b).1 = 0 := by
    obtain rfl | rfl := h
    · rw [hzero, Nat.zero_mul]
    · rw [hzero, Nat.mul_zero]
  rw [mulMagnitude, nearest, if_pos hproduct]

/-- The magnitude of a product leaves the sign bit alone. -/
theorem mulMagnitude_lt_signWeight (a b : ℕ) : mulMagnitude a b < signWeight :=
  nearest_lt_signWeight (Nat.mul_ne_zero (ratio_snd_ne_zero a) (ratio_snd_ne_zero b))

/-- **A product of doubles that are not below zero is not below zero.** -/
theorem key_mul_nonneg {x y : Double} (hx : 0 ≤ x.key) (hy : 0 ≤ y.key) : 0 ≤ (x.mul y).key := by
  have hsigns : (x.isNegative != y.isNegative) = true → x.magnitude = 0 ∨ y.magnitude = 0 := by
    intro hne
    cases hnegative : x.isNegative with
    | true => exact Or.inl (magnitude_eq_zero hx hnegative)
    | false =>
      rw [hnegative, Bool.false_bne] at hne
      exact Or.inr (magnitude_eq_zero hy hne)
  have hnan : 0 ≤ nan.key := by decide
  rw [mul]
  split_ifs with _ _ hzero
  · exact hnan
  · rw [key_ofMagnitude (mulMagnitude_lt_signWeight _ _)]
    split_ifs with hnegative
    · rw [mulMagnitude_eq_zero (hsigns hnegative)]
      exact le_refl 0
    · exact Int.natCast_nonneg _
  · exact hnan
  · rw [key_ofMagnitude (by decide)]
    split_ifs with hnegative
    · rw [Bool.or_eq_true, decide_eq_true_iff, decide_eq_true_iff] at hzero
      exact absurd (hsigns hnegative) hzero
    · exact Int.natCast_nonneg _

/-- A finite double is a number. -/
theorem isNaN_of_isFinite {x : Double} (h : x.isFinite = true) : x.isNaN = false := by
  rw [isFinite, Nat.blt_eq] at h
  rw [isNaN, ← Bool.not_eq_true, Nat.blt_eq]
  omega

/-- A finite product has the rounded magnitude with the sign of its factors. -/
theorem mul_of_isFinite {x y : Double} (hx : x.isFinite = true) (hy : y.isFinite = true) :
    x.mul y = ofMagnitude (x.isNegative != y.isNegative) (mulMagnitude x.magnitude y.magnitude) := by
  rw [mul, isNaN_of_isFinite hx, isNaN_of_isFinite hy, hx, hy]
  rfl

/-- **A factor below one lifts a negative integer of 64 bits**, even when the product is rounded. -/
theorem key_lt_key_mul {x : Double} {n : ℤ} (hx : 0 ≤ x.key) (hone : x.key < (ofInt 1).key)
    (hn : n < 0) (hfits : -0x8000000000000000 ≤ n) : (ofInt n).key < (x.mul (ofInt n)).key := by
  have hfactor : x.magnitude < 1023 * leadingWeight := by
    have hkey : (ofInt 1).key = (1023 * leadingWeight : ℕ) := by decide +kernel
    rw [key_eq_magnitude hx, hkey] at hone
    exact_mod_cast hone
  have hfinite : x.isFinite = true := by
    rw [isFinite, Nat.blt_eq]
    exact hfactor.trans (by decide)
  have hbound : (ofInt n).isFinite = true := isFinite_ofInt ⟨hfits, by omega⟩
  have hmagnitude : (ofInt n).magnitude = nearest n.natAbs 1 :=
    magnitude_ofMagnitude (nearest_lt_signWeight Nat.one_ne_zero)
  have hnormal : leadingWeight < nearest n.natAbs 1 :=
    lt_of_lt_of_le (by decide) (one_le_nearest (n := n.natAbs) (by omega))
  have hproduct := mulMagnitude_lt hfactor hnormal
  rw [mul_of_isFinite hfinite hbound, key_ofMagnitude (mulMagnitude_lt_signWeight _ _), hmagnitude,
    key_ofInt, if_pos hn]
  split_ifs <;> omega

end RelayFeeds.Double
