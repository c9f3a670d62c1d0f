import Mathlib.Algebra.Order.Field.Power
import Mathlib.Data.Rat.Cast.Order
import Mathlib.Tactic.Linarith
import Mathlib.Tactic.Positivity
import RelayFeeds.Proofs.Number.Finite

/-! # Rounding keeps order

A ratio is rounded to an integer in the unit that fits it, in which it has 53 binary digits unless it
is as small as the smallest doubles. Larger ratios have larger units, and a carry into a further digit
makes the same magnitude as the next unit does, so that magnitudes keep the order of the ratios. What
is below a magnitude by a unit in the last place is rounded to less.

* **`isNearestEven_roundDiv`** — a ratio is rounded to the nearest integer, a tie to the even one.
* **`nearest_eq`** — a ratio is rounded to the nearest integer in the unit that fits it.
* **`nearest_mono`** — rounding keeps order.
* **`mulMagnitude_lt`** — a factor below one lowers a magnitude. -/

namespace RelayFeeds.Double

/-! ### Integers nearest to a ratio -/

/-- An integer is nearest to a number when it is at most half a unit away and, at exactly that
distance, even. -/
structure IsNearestEven (x : ℚ) (n : ℕ) : Prop where
  /-- It is not much less. -/
  lower : x ≤ n + 1 / 2
  /-- It is not much more. -/
  upper : n ≤ x + 1 / 2
  /-- It is even when it is half a unit less. -/
  even_of_lower : x = n + 1 / 2 → n % 2 = 0
  /-- It is even when it is half a unit more. -/
  even_of_upper : n = x + 1 / 2 → n % 2 = 0

/-- Nearest integers keep order. -/
theorem IsNearestEven.mono {x y : ℚ} {m n : ℕ} (hx : IsNearestEven x m) (hy : IsNearestEven y n)
    (h : x ≤ y) : m ≤ n := by
  by_contra hlt
  have hcast : (n : ℚ) + 1 ≤ m := by exact_mod_cast not_le.mp hlt
  have hupper := hx.upper
  have hlower := hy.lower
  -- two different integers can only meet halfway between them, where both would be even
  have hm := hx.even_of_upper (by linarith)
  have hn := hy.even_of_lower (by linarith)
  have hnext : m = n + 1 := by
    have : (m : ℚ) = n + 1 := by linarith
    exact_mod_cast this
  omega

/-- A ratio is rounded to the nearest integer, a tie to the even one. -/
theorem isNearestEven_roundDiv (num : ℕ) {den : ℕ} (hden : den ≠ 0) :
    IsNearestEven (num / den : ℚ) (roundDiv num den) := by
  have hpos : (0 : ℚ) < den := by exact_mod_cast Nat.pos_of_ne_zero hden
  have hsplit : (num : ℚ) / den = (num / den : ℕ) + (num % den : ℕ) / den := by
    rw [div_eq_iff hpos.ne', add_mul, div_mul_cancel₀ _ hpos.ne', mul_comm]
    exact_mod_cast (Nat.div_add_mod num den).symm
  have hmod : ((num % den : ℕ) : ℚ) / den < 1 := by
    rw [div_lt_one hpos]
    exact_mod_cast Nat.mod_lt num (Nat.pos_of_ne_zero hden)
  have hnonneg : 0 ≤ ((num % den : ℕ) : ℚ) / den := by positivity
  have hhalf : 2 * (num % den) < den ↔ ((num % den : ℕ) : ℚ) / den < 1 / 2 := by
    rw [div_lt_iff₀ hpos, ← Nat.cast_lt (α := ℚ)]
    push_cast
    constructor <;> intro h <;> linarith
  have hhalf' : den < 2 * (num % den) ↔ 1 / 2 < ((num % den : ℕ) : ℚ) / den := by
    rw [lt_div_iff₀ hpos, ← Nat.cast_lt (α := ℚ)]
    push_cast
    constructor <;> intro h <;> linarith
  rw [hsplit]
  -- what is left is about the quotient and the part that is cut off
  generalize ((num % den : ℕ) : ℚ) / den = part at *
  simp only [roundDiv, hhalf, hhalf']
  generalize num / den = quotient at *
  split_ifs with hbelow habove heven
  · exact ⟨by linarith, by linarith, fun h => by linarith, fun h => by linarith⟩
  · exact ⟨by push_cast; linarith, by push_cast; linarith, fun h => by push_cast at h; linarith,
      fun h => by push_cast at h; linarith⟩
  · exact ⟨by linarith, by linarith, fun _ => heven, fun _ => heven⟩
  · have hodd : (quotient + 1) % 2 = 0 := by omega
    exact ⟨by push_cast; linarith, by push_cast; linarith, fun _ => hodd, fun _ => hodd⟩

/-! ### Units -/

/-- A unit fits a number when it is that of the smallest doubles and the number has 53 binary digits
in it at most, or the number has just 53 of them. -/
structure UnitFits (x : ℚ) (unit : ℤ) : Prop where
  /-- No unit is below that of the smallest doubles. -/
  least : -1074 ≤ unit
  /-- The number has 53 digits at most. -/
  upper : x < 2 ^ 53 * 2 ^ unit
  /-- It has all of them in a larger unit. -/
  lower : unit = -1074 ∨ 2 ^ 52 * 2 ^ unit ≤ x

/-- The units of larger numbers are larger. -/
theorem UnitFits.mono {x y : ℚ} {u v : ℤ} (hx : UnitFits x u) (hy : UnitFits y v) (h : x ≤ y) :
    u ≤ v := by
  by_contra hlt
  have hleast := hy.least
  obtain hu | hu := hx.lower
  · omega
  · have hnext : (2 : ℚ) ^ (v + 1) ≤ 2 ^ u := zpow_le_zpow_right₀ (by norm_num) (by omega)
    rw [zpow_add_one₀ (by norm_num)] at hnext
    have hupper := hy.upper
    linarith

/-- A ratio in a unit is the ratio divided by it. -/
theorem inUnits_eq_div (num den : ℕ) (unit : ℤ) :
    ((inUnits num den unit).1 : ℚ) / (inUnits num den unit).2 = num / den / 2 ^ unit := by
  cases unit with
  | ofNat k =>
    simp only [inUnits, Nat.pow_eq, Int.ofNat_eq_natCast, zpow_natCast]
    push_cast
    rw [div_div]
  | negSucc k =>
    simp only [inUnits, Nat.pow_eq, zpow_negSucc]
    push_cast
    rw [div_inv_eq_mul, div_mul_eq_mul_div]

/-- A denominator is not zero in any unit. -/
theorem inUnits_snd_ne_zero {num den : ℕ} (hden : den ≠ 0) (unit : ℤ) :
    (inUnits num den unit).2 ≠ 0 := by
  cases unit with
  | ofNat k => exact Nat.mul_ne_zero hden (Nat.two_pow_pos k).ne'
  | negSucc k => exact hden

/-- The quotient of a ratio in a unit is below a bound when the ratio is. -/
theorem inUnits_div_lt_iff {num den : ℕ} (hden : den ≠ 0) (unit : ℤ) (bound : ℕ) :
    (inUnits num den unit).1 / (inUnits num den unit).2 < bound ↔
      (num / den : ℚ) < bound * 2 ^ unit := by
  have hpos : (0 : ℚ) < (inUnits num den unit).2 := by
    exact_mod_cast Nat.pos_of_ne_zero (inUnits_snd_ne_zero hden unit)
  have hunit : (0 : ℚ) < 2 ^ unit := by positivity
  rw [Nat.div_lt_iff_lt_mul (Nat.pos_of_ne_zero (inUnits_snd_ne_zero hden unit)),
    ← div_lt_iff₀ hunit, ← inUnits_eq_div, div_lt_iff₀ hpos]
  exact_mod_cast Iff.rfl

/-- A power of two is split. -/
theorem two_zpow_add (e : ℤ) (k : ℕ) : (2 : ℚ) ^ (e + k) = 2 ^ k * 2 ^ e := by
  rw [zpow_add₀ (by norm_num), zpow_natCast, mul_comm]

/-- A ratio has 52 or 53 binary digits in the unit that the digits of its parts suggest. -/
theorem ratio_bounds_of_log2 {num den : ℕ} (hnum : num ≠ 0) (hden : den ≠ 0) {guess : ℤ}
    (hguess : guess = num.log2 - den.log2 - 52) :
    (2 : ℚ) ^ 51 * 2 ^ guess < num / den ∧ (num / den : ℚ) < 2 ^ 53 * 2 ^ guess := by
  have hpos : (0 : ℚ) < den := by exact_mod_cast Nat.pos_of_ne_zero hden
  have hnum₁ : ((2 : ℚ) ^ num.log2) ≤ num := by exact_mod_cast Nat.log2_self_le hnum
  have hnum₂ : (num : ℚ) < 2 ^ (num.log2 + 1) := by exact_mod_cast Nat.lt_log2_self
  have hden₁ : ((2 : ℚ) ^ den.log2) ≤ den := by exact_mod_cast Nat.log2_self_le hden
  have hden₂ : (den : ℚ) < 2 ^ (den.log2 + 1) := by exact_mod_cast Nat.lt_log2_self
  have hsplit : (2 : ℚ) ^ 52 * 2 ^ guess * 2 ^ den.log2 = 2 ^ num.log2 := by
    rw [← two_zpow_add, ← zpow_natCast, ← zpow_natCast, ← zpow_add₀ (by norm_num)]
    congr 1
    push_cast
    omega
  rw [pow_succ] at hnum₂ hden₂
  constructor
  · rw [lt_div_iff₀ hpos]
    calc
      (2 : ℚ) ^ 51 * 2 ^ guess * den < 2 ^ 51 * 2 ^ guess * (2 ^ den.log2 * 2) := by gcongr
      _ = 2 ^ 52 * 2 ^ guess * 2 ^ den.log2 := by linarith
      _ = 2 ^ num.log2 := hsplit
      _ ≤ num := hnum₁
  · rw [div_lt_iff₀ hpos]
    calc
      (num : ℚ) < 2 ^ num.log2 * 2 := hnum₂
      _ = 2 ^ 53 * 2 ^ guess * 2 ^ den.log2 := by linarith
      _ ≤ 2 ^ 53 * 2 ^ guess * den := by gcongr

/-- A number of 52 or 53 binary digits in a unit has 53 in that unit or in the next smaller one. -/
theorem bounds_of_guess {x : ℚ} {guess : ℤ} (hlower : 2 ^ 51 * 2 ^ guess < x)
    (hupper : x < 2 ^ 53 * 2 ^ guess) :
    2 ^ 52 * 2 ^ (if x < 2 ^ 52 * 2 ^ guess then guess - 1 else guess) ≤ x ∧
      x < 2 ^ 53 * 2 ^ (if x < 2 ^ 52 * 2 ^ guess then guess - 1 else guess) := by
  split_ifs with hsmall
  · have hhalf := two_zpow_add (guess - 1) 1
    rw [Nat.cast_one, sub_add_cancel] at hhalf
    rw [hhalf] at hlower hsmall
    constructor <;> linarith
  · exact ⟨not_lt.mp hsmall, hupper⟩

/-- **A ratio that is not zero is rounded to the nearest integer in the unit that fits it.** -/
theorem nearest_eq {num den : ℕ} (hnum : num ≠ 0) (hden : den ≠ 0) :
    ∃ (unit : ℤ) (n : ℕ), UnitFits (num / den) unit ∧ IsNearestEven (num / den / 2 ^ unit) n ∧
      nearest num den = min (n + (unit + 1074).toNat * leadingWeight) infiniteMagnitude := by
  rw [nearest, if_neg hnum]
  extract_lets guess scaled first fitted unit pair rounded
  have hguess : guess = num.log2 - den.log2 - 52 := rfl
  obtain ⟨hlower, hupper⟩ := ratio_bounds_of_log2 hnum hden hguess
  have hfirst : first.1 / first.2 < leadingWeight ↔ (num / den : ℚ) < 2 ^ 52 * 2 ^ guess := by
    have hweight : (leadingWeight : ℚ) = 2 ^ 52 := by norm_num [leadingWeight]
    rw [← hweight]
    exact inUnits_div_lt_iff hden guess leadingWeight
  -- the guess is the unit that fits or the next larger one
  have hfitted : 2 ^ 52 * 2 ^ fitted ≤ (num / den : ℚ) ∧ (num / den : ℚ) < 2 ^ 53 * 2 ^ fitted := by
    simp only [fitted, hfirst]
    exact bounds_of_guess hlower hupper
  have hunit : UnitFits (num / den) unit := by
    simp only [unit]
    split_ifs with hsub
    · refine ⟨le_refl _, hfitted.2.trans_le ?_, Or.inl rfl⟩
      gcongr
      exact one_le_two
    · exact ⟨not_lt.mp hsub, hfitted.2, Or.inr hfitted.1⟩
  have hround : IsNearestEven (num / den / 2 ^ unit) (roundDiv pair.1 pair.2) := by
    rw [← inUnits_eq_div]
    exact isNearestEven_roundDiv _ (inUnits_snd_ne_zero hden unit)
  refine ⟨unit, _, hunit, hround, ?_⟩
  split_ifs with hlt
  · exact (min_eq_left hlt.le).symm
  · exact (min_eq_right (not_lt.mp hlt)).symm

/-! ### Order -/

/-- What is rounded in the unit that fits it has 53 binary digits at most, or is the next power of
two. -/
theorem UnitFits.nearest_le {x : ℚ} {unit : ℤ} {n : ℕ} (h : UnitFits x unit)
    (hn : IsNearestEven (x / 2 ^ unit) n) : n ≤ 2 ^ 53 := by
  have hdigits : x / 2 ^ unit < 2 ^ 53 := (div_lt_iff₀ (by positivity)).mpr h.upper
  have hupper := hn.upper
  have hlt : (n : ℚ) < (2 ^ 53 + 1 : ℕ) := by
    push_cast
    linarith
  exact Nat.lt_succ_iff.mp (by exact_mod_cast hlt)

/-- What is rounded in a unit above that of the smallest doubles has 53 binary digits at least. -/
theorem UnitFits.le_nearest {x : ℚ} {unit : ℤ} {n : ℕ} (h : UnitFits x unit)
    (hunit : unit ≠ -1074) (hn : IsNearestEven (x / 2 ^ unit) n) : 2 ^ 52 ≤ n := by
  have hdigits : 2 ^ 52 ≤ x / 2 ^ unit :=
    (le_div_iff₀ (by positivity)).mpr (h.lower.resolve_left hunit)
  have hlower := hn.lower
  have hlt : ((2 ^ 52 : ℕ) : ℚ) < (n + 1 : ℕ) := by
    push_cast
    linarith
  exact Nat.lt_succ_iff.mp (by exact_mod_cast hlt)

/-- **Rounding keeps order.** -/
theorem nearest_mono {a b c d : ℕ} (hb : b ≠ 0) (hd : d ≠ 0) (h : (a / b : ℚ) ≤ c / d) :
    nearest a b ≤ nearest c d := by
  by_cases ha : a = 0
  · rw [nearest, if_pos ha]
    exact Nat.zero_le _
  have hc : c ≠ 0 := by
    rintro rfl
    have hpos : (0 : ℚ) < a / b :=
      div_pos (by exact_mod_cast Nat.pos_of_ne_zero ha) (by exact_mod_cast Nat.pos_of_ne_zero hb)
    rw [Nat.cast_zero, zero_div] at h
    exact absurd h hpos.not_ge
  obtain ⟨u, m, hu, hm, hab⟩ := nearest_eq ha hb
  obtain ⟨v, n, hv, hn, hcd⟩ := nearest_eq hc hd
  rw [hab, hcd]
  refine min_le_min_right _ ?_
  have hleast := hu.least
  obtain rfl | hlt := (hu.mono hv h).eq_or_lt
  · have hmn : m ≤ n := hm.mono hn (by gcongr)
    omega
  · -- a larger unit makes up for the digit that a carry may bring
    have hupper := hu.nearest_le hm
    have hlower := hv.le_nearest (by omega) hn
    rw [leadingWeight]
    omega

/-- The value of a finite magnitude. -/
def value (magnitude : ℕ) : ℚ := (ratio magnitude).1 / (ratio magnitude).2

/-- The value of a magnitude is its significand in units of its exponent. -/
theorem value_eq (magnitude : ℕ) : value magnitude = significand magnitude * 2 ^ exponent magnitude := by
  rw [value, ratio]
  cases exponent magnitude with
  | ofNat k =>
    simp [ratioOf]
  | negSucc k =>
    simp [ratioOf, div_eq_mul_inv]

/-- A magnitude above the subnormal ones is made up of its significand and its exponent. -/
theorem eq_of_leadingWeight_le {magnitude : ℕ} (h : leadingWeight ≤ magnitude) :
    2 ^ 52 ≤ significand magnitude ∧ significand magnitude < 2 ^ 53 ∧ -1074 ≤ exponent magnitude ∧
      magnitude = significand magnitude + (exponent magnitude + 1074).toNat * leadingWeight := by
  rw [significand, exponent, if_neg h.not_gt, if_neg h.not_gt]
  rw [leadingWeight] at *
  simp only [Int.ofNat_eq_natCast]
  omega

/-- The values of magnitudes below that of one are below it by a unit in the last place at least. -/
theorem value_le_of_lt_one {magnitude : ℕ} (h : magnitude < 1023 * leadingWeight) :
    value magnitude ≤ 1 - 1 / 2 ^ 53 := by
  have hsignificand : (significand magnitude : ℚ) ≤ 2 ^ 53 - 1 := by
    have hle : significand magnitude + 1 ≤ 2 ^ 53 := significand_lt magnitude
    have hcast : (significand magnitude : ℚ) + 1 ≤ 2 ^ 53 := by exact_mod_cast hle
    linarith
  have hexponent : exponent magnitude ≤ -53 := by
    rw [leadingWeight] at h
    rw [exponent, leadingWeight, Int.ofNat_eq_natCast]
    split <;> omega
  calc
    value magnitude = significand magnitude * 2 ^ exponent magnitude := value_eq magnitude
    _ ≤ (2 ^ 53 - 1) * 2 ^ (-53 : ℤ) := by
      gcongr
      exact one_le_two
    _ = 1 - 1 / 2 ^ 53 := by norm_num

/-- What lies below a significand in units of an exponent by a unit in the last place at least is
rounded to less, unless the two are the smallest normal ones. -/
theorem UnitFits.rounded_lt {x : ℚ} {unit exponent : ℤ} {n significand : ℕ} (h : UnitFits x unit)
    (hn : IsNearestEven (x / 2 ^ unit) n) (hlower : 2 ^ 52 ≤ significand)
    (hupper : significand < 2 ^ 53) (hexponent : -1074 ≤ exponent)
    (hnormal : significand = 2 ^ 52 → exponent ≠ -1074)
    (hx : x ≤ (1 - 1 / 2 ^ 53) * (significand * 2 ^ exponent)) :
    n + (unit + 1074).toNat * 2 ^ 52 < significand + (exponent + 1074).toNat * 2 ^ 52 := by
  have hlowerQ : (2 : ℚ) ^ 52 ≤ significand := by exact_mod_cast hlower
  have hupperQ : (significand : ℚ) < 2 ^ 53 := by exact_mod_cast hupper
  have hpos : (0 : ℚ) < 2 ^ exponent := by positivity
  have hunit : unit ≤ exponent := by
    refine h.mono (y := significand * 2 ^ exponent) ⟨hexponent, by gcongr, Or.inr (by gcongr)⟩ ?_
    have hnonneg : (0 : ℚ) ≤ significand * 2 ^ exponent := by positivity
    linarith
  have hleast := h.least
  have hcarry := h.nearest_le hn
  have hnUpper := hn.upper
  obtain rfl | hlt := hunit.eq_or_lt
  · -- in the unit of the exponent at least half a unit is missing, and more unless the significand
    -- is the least one, in which the number has too few digits
    have hx' : x / 2 ^ unit ≤ (1 - 1 / 2 ^ 53) * significand := by
      rw [div_le_iff₀ hpos, mul_assoc]
      exact hx
    have hne : significand ≠ 2 ^ 52 := by
      rintro rfl
      have hdigits := (le_div_iff₀ hpos).mpr (h.lower.resolve_left (hnormal rfl))
      push_cast at hx'
      linarith
    have hgt : (2 : ℚ) ^ 52 + 1 ≤ significand := by
      exact_mod_cast Nat.lt_of_le_of_ne hlower hne.symm
    have hlt : (n : ℚ) < significand := by linarith
    have hlt' : n < significand := by exact_mod_cast hlt
    omega
  · by_cases hnext : significand = 2 ^ 52 ∧ exponent = unit + 1
    · -- just below a power of two there is no carry
      obtain ⟨rfl, rfl⟩ := hnext
      have hx' : x / 2 ^ unit ≤ 2 ^ 53 - 1 := by
        rw [div_le_iff₀ (by positivity)]
        rw [zpow_add_one₀ (by norm_num)] at hx
        push_cast at hx
        linarith
      have hlt : (n : ℚ) < (2 ^ 53 : ℕ) := by
        push_cast
        linarith
      have hlt' : n < 2 ^ 53 := by exact_mod_cast hlt
      omega
    · omega

/-- **A factor below one lowers a magnitude above the subnormal ones, however it is rounded.** -/
theorem mulMagnitude_lt {a b : ℕ} (ha : a < 1023 * leadingWeight) (hb : leadingWeight < b) :
    mulMagnitude a b < b := by
  rw [mulMagnitude]
  by_cases hzero : (ratio a).1 * (ratio b).1 = 0
  · rw [nearest, if_pos hzero]
    omega
  obtain ⟨unit, n, hunit, hn, hnearest⟩ := nearest_eq hzero
    (Nat.mul_ne_zero (ratio_snd_ne_zero a) (ratio_snd_ne_zero b))
  rw [hnearest]
  refine (min_le_left _ _).trans_lt ?_
  obtain ⟨hlower, hupper, hexponent, hparts⟩ := eq_of_leadingWeight_le hb.le
  have hproduct : (((ratio a).1 * (ratio b).1 : ℕ) : ℚ) / ((ratio a).2 * (ratio b).2 : ℕ) ≤
      (1 - 1 / 2 ^ 53) * (significand b * 2 ^ exponent b) := by
    push_cast
    rw [mul_div_mul_comm, ← value_eq, ← value, ← value]
    have hvalue : 0 ≤ value b := by
      rw [value_eq]
      positivity
    gcongr
    exact value_le_of_lt_one ha
  have hnormal : significand b = 2 ^ 52 → exponent b ≠ -1074 := by
    intro hs he
    rw [hs, he] at hparts
    exact absurd hparts hb.ne'
  rw [hparts]
  exact hunit.rounded_lt hn hlower hupper hexponent hnormal hproduct

end RelayFeeds.Double
