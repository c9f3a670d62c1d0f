import Mathlib.Algebra.Order.Ring.Nat
import RelayFeeds.Number.Double

/-! # Rounding stays finite

A ratio well below the end of the finite range rounds to a finite double. So does every integer of 64
bits, and so does every decimal whose digits fit 64 bits, as far as it has a double at all: its digits
are rounded first, a division only takes away from them, and a product is given up when it leaves the
range.

* **`nearest_le`** — the magnitude nearest to a ratio below a power of two is bounded by that power.
* **`isFinite_ofInt`** — the double of an integer of 64 bits is finite.
* **`isFinite_of_ofDecimal?`** — the double of a decimal is finite. -/

namespace RelayFeeds.Double

/-! ### Rounding -/

/-- The nearest integer to a ratio is its quotient or the next integer. -/
theorem roundDiv_le (num den : Nat) : roundDiv num den ≤ num / den + 1 := by
  simp only [roundDiv]
  split_ifs <;> omega

/-- A ratio in units of a power of two. -/
def inUnits (num den : Nat) : Int → Nat × Nat
  | .ofNat k => (num, den * Nat.pow 2 k)
  | .negSucc k => (num * Nat.pow 2 (k + 1), den)

/-- In units of a power of two with at most 53 binary digits less than it has itself, a ratio rounds to
54 digits at most. -/
theorem roundDiv_inUnits_le {num den : Nat} (hden : den ≠ 0) {unit : Int}
    (hunit : (num.log2 : Int) ≤ den.log2 + unit + 53) :
    roundDiv (inUnits num den unit).1 (inUnits num den unit).2 ≤ 2 ^ 54 := by
  refine (roundDiv_le _ _).trans (Nat.div_lt_of_lt_mul ?_)
  have hnum : num < 2 ^ (num.log2 + 1) := Nat.lt_log2_self
  have hden' : 2 ^ den.log2 ≤ den := Nat.log2_self_le hden
  cases unit with
  | ofNat k =>
    have hexp : num.log2 + 1 ≤ den.log2 + k + 54 := by
      simp only [Int.ofNat_eq_natCast] at hunit
      omega
    calc
      num < 2 ^ (num.log2 + 1) := hnum
      _ ≤ 2 ^ (den.log2 + k + 54) := Nat.pow_le_pow_right (by decide) hexp
      _ = 2 ^ den.log2 * 2 ^ k * 2 ^ 54 := by rw [Nat.pow_add, Nat.pow_add]
      _ ≤ den * 2 ^ k * 2 ^ 54 := by gcongr
  | negSucc k =>
    have hexp : num.log2 + 1 + (k + 1) ≤ den.log2 + 54 := by omega
    calc
      num * 2 ^ (k + 1) < 2 ^ (num.log2 + 1) * 2 ^ (k + 1) :=
        Nat.mul_lt_mul_of_pos_right hnum (Nat.two_pow_pos _)
      _ = 2 ^ (num.log2 + 1 + (k + 1)) := by rw [Nat.pow_add _ _ (k + 1)]
      _ ≤ 2 ^ (den.log2 + 54) := Nat.pow_le_pow_right (by decide) hexp
      _ = 2 ^ den.log2 * 2 ^ 54 := Nat.pow_add _ _ _
      _ ≤ den * 2 ^ 54 := by gcongr

/-- **The magnitude nearest to a ratio below a power of two is bounded by that power.** -/
theorem nearest_le {num den e : Nat} (hden : den ≠ 0) (h : num < den * 2 ^ e) :
    nearest num den ≤ (e + 1026) * leadingWeight := by
  by_cases hnum : num = 0
  · rw [nearest, if_pos hnum]
    exact Nat.zero_le _
  rw [nearest, if_neg hnum]
  extract_lets guess scaled first fitted unit pair rounded
  have hlog : num.log2 ≤ den.log2 + e := by
    have hlt : 2 ^ num.log2 < 2 ^ (den.log2 + 1 + e) := calc
      2 ^ num.log2 ≤ num := Nat.log2_self_le hnum
      _ < den * 2 ^ e := h
      _ ≤ 2 ^ (den.log2 + 1) * 2 ^ e := by gcongr; exact Nat.lt_log2_self.le
      _ = 2 ^ (den.log2 + 1 + e) := (Nat.pow_add _ _ _).symm
    have := (Nat.pow_lt_pow_iff_right (by decide : 1 < 2)).mp hlt
    omega
  have hfitted : guess - 1 ≤ fitted ∧ fitted ≤ guess := by
    simp only [fitted]
    split_ifs <;> omega
  have hunit : fitted ≤ unit ∧ unit ≤ e - 52 := by
    simp only [unit]
    split_ifs <;> simp only [guess, Int.ofNat_eq_natCast] at hfitted <;> omega
  have hround : roundDiv pair.1 pair.2 ≤ 2 ^ 54 := by
    refine roundDiv_inUnits_le hden ?_
    simp only [guess, Int.ofNat_eq_natCast] at hfitted
    omega
  have hrounded : rounded ≤ (e + 1026) * leadingWeight := by
    simp only [rounded, leadingWeight]
    omega
  split_ifs
  · exact hrounded
  · omega

/-- A magnitude bounded by a moderate power of two is finite. -/
theorem lt_infiniteMagnitude {magnitude e : Nat} (he : e ≤ 1000)
    (h : magnitude ≤ (e + 1026) * leadingWeight) : magnitude < infiniteMagnitude := by
  simp only [leadingWeight, infiniteMagnitude] at *
  omega

/-! ### Integers -/

/-- The magnitude of a double made from one is that magnitude. -/
theorem magnitude_ofMagnitude {negative : Bool} {magnitude : Nat}
    (h : magnitude < signWeight) : (ofMagnitude negative magnitude).magnitude = magnitude := by
  rw [signWeight] at h
  rw [Double.magnitude, ofMagnitude, signWeight, UInt64.toNat_ofNat']
  cases negative <;> simp <;> omega

/-- A double made from a finite magnitude is finite. -/
theorem isFinite_ofMagnitude {negative : Bool} {magnitude : Nat}
    (h : magnitude < infiniteMagnitude) : (ofMagnitude negative magnitude).isFinite = true := by
  have hlt : magnitude < signWeight := h.trans (by decide)
  rw [isFinite, magnitude_ofMagnitude hlt, Nat.blt_eq]
  exact h

/-- **The double of an integer of 64 bits is finite.** -/
theorem isFinite_ofInt {n : Int} (h : -0x8000000000000000 ≤ n ∧ n < 0x10000000000000000) :
    (ofInt n).isFinite = true := by
  have hn : n.natAbs < 1 * 2 ^ 64 := by omega
  exact isFinite_ofMagnitude
    (lt_infiniteMagnitude (by decide) (nearest_le Nat.one_ne_zero hn))

/-! ### Decimals -/

/-- The denominator of a magnitude is not zero. -/
theorem ratio_snd_ne_zero (magnitude : Nat) : (ratio magnitude).2 ≠ 0 := by
  rw [ratio, ratioOf.eq_def]
  split
  · exact Nat.one_ne_zero
  · exact (Nat.two_pow_pos _).ne'

/-- The significand of a magnitude has 53 binary digits at most. -/
theorem significand_lt (magnitude : Nat) : significand magnitude < 2 ^ 53 := by
  rw [significand, leadingWeight]
  split <;> omega

/-- A bounded magnitude stands for a number below a power of two. -/
theorem ratio_lt {magnitude e : Nat} (h : magnitude ≤ (e + 1022) * leadingWeight) :
    (ratio magnitude).1 < (ratio magnitude).2 * 2 ^ e := by
  have hexponent : exponent magnitude ≤ e - 53 := by
    rw [leadingWeight] at h
    rw [exponent, leadingWeight, Int.ofNat_eq_natCast]
    split <;> omega
  have hsignificand := significand_lt magnitude
  rw [ratio]
  cases hk : exponent magnitude with
  | ofNat k =>
    rw [hk, Int.ofNat_eq_natCast] at hexponent
    calc
      significand magnitude * 2 ^ k < 2 ^ 53 * 2 ^ k :=
        Nat.mul_lt_mul_of_pos_right hsignificand (Nat.two_pow_pos _)
      _ = 2 ^ (53 + k) := (Nat.pow_add _ _ _).symm
      _ ≤ 2 ^ e := Nat.pow_le_pow_right (by decide) (by omega)
      _ = 1 * 2 ^ e := (Nat.one_mul _).symm
  | negSucc k =>
    rw [hk] at hexponent
    calc
      significand magnitude < 2 ^ 53 := hsignificand
      _ ≤ 2 ^ (k + 1 + e) := Nat.pow_le_pow_right (by decide) (by omega)
      _ = 2 ^ (k + 1) * 2 ^ e := Nat.pow_add _ _ _

/-- A quotient loses as many binary digits as the divisor has, and gains a few by rounding. -/
theorem divMagnitude_le {a b e f : Nat} (ha : (ratio a).1 < (ratio a).2 * 2 ^ (e + f))
    (hb : (ratio b).2 * 2 ^ f ≤ (ratio b).1) :
    divMagnitude a b ≤ (e + 1026) * leadingWeight := by
  have hpos : 0 < (ratio b).1 :=
    (Nat.mul_pos (Nat.pos_of_ne_zero (ratio_snd_ne_zero b)) (Nat.two_pow_pos f)).trans_le hb
  refine nearest_le (Nat.mul_ne_zero (ratio_snd_ne_zero a) hpos.ne') ?_
  refine Nat.lt_of_mul_lt_mul_right (a := 2 ^ f) ?_
  calc
    (ratio a).1 * (ratio b).2 * 2 ^ f = (ratio a).1 * ((ratio b).2 * 2 ^ f) := Nat.mul_assoc _ _ _
    _ ≤ (ratio a).1 * (ratio b).1 := Nat.mul_le_mul_left _ hb
    _ < (ratio a).2 * 2 ^ (e + f) * (ratio b).1 := Nat.mul_lt_mul_of_pos_right ha hpos
    _ = (ratio a).2 * (ratio b).1 * 2 ^ e * 2 ^ f := by
      rw [Nat.mul_right_comm, Nat.pow_add, ← Nat.mul_assoc]

/-- The powers of ten by which a magnitude is divided are not below one. -/
theorem le_ratio_powerOfTen : ∀ k ≤ 308,
    (ratio (powerOfTen k)).2 * 2 ^ 0 ≤ (ratio (powerOfTen k)).1 := by
  decide +kernel

/-- The power of ten by which a magnitude is divided again and again is well above one. -/
theorem le_ratio_powerOfTen_308 :
    (ratio (powerOfTen 308)).2 * 2 ^ 4 ≤ (ratio (powerOfTen 308)).1 := by
  decide +kernel

/-- A moderate magnitude that is scaled by a power of ten stays finite. -/
theorem lt_of_scaleByTen? {magnitude : Nat} {exponent : Int} {scaled : Nat}
    (h : magnitude ≤ (64 + 1026) * leadingWeight)
    (hscaled : scaleByTen? magnitude exponent = some scaled) : scaled < infiniteMagnitude := by
  fun_induction scaleByTen? magnitude exponent with
  | case1 =>
    cases hscaled
    decide
  | case2 => cases hscaled
  | case3 magnitude exponent _ _ _ product hproduct =>
    rw [← Option.some.inj hscaled]
    exact hproduct
  | case4 => cases hscaled
  | case5 magnitude exponent _ _ hnegative hbound =>
    cases hscaled
    have hratio : (ratio magnitude).1 < (ratio magnitude).2 * 2 ^ (68 + 0) := ratio_lt h
    have hten := le_ratio_powerOfTen (-exponent).toNat (by omega)
    exact lt_infiniteMagnitude (by decide) (divMagnitude_le hratio hten)
  | case6 magnitude exponent _ _ _ _ ih =>
    -- the division takes off more digits than rounding can add
    exact ih (divMagnitude_le (ratio_lt h) le_ratio_powerOfTen_308) hscaled

/-- **The double of a decimal is finite.** -/
theorem isFinite_of_ofDecimal? {negative : Bool} {significand : Nat} {exponent : Int} {x : Double}
    (hsignificand : significand < 2 ^ 64) (h : ofDecimal? negative significand exponent = some x) :
    x.isFinite = true := by
  obtain ⟨scaled, hscaled, rfl⟩ := Option.map_eq_some_iff.mp h
  have hone : significand < 1 * 2 ^ 64 := by omega
  exact isFinite_ofMagnitude (lt_of_scaleByTen? (nearest_le Nat.one_ne_zero hone) hscaled)

end RelayFeeds.Double
