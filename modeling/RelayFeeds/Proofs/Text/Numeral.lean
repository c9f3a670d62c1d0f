import Mathlib.Tactic.IntervalCases
import RelayFeeds.Text.Numeral

/-! # Numerals are read back

The numeral of a number has digits only and stands for the number. It is the shortest such text: it
begins with a zero only when it is that of zero.

* **`head?_numeral`** — the numeral of a positive number does not begin with a zero.
* **`takeWhile_isDigit`**, **`dropWhile_isDigit`** — digits are taken up to what is none.
* **`readUInt16?_numeral`** — a number reads back from its numeral. -/

namespace RelayFeeds.Text

/-! ### Digits in front of a text -/

section

variable {digits rest : List Char}

/-- Digits are taken up to what is none. -/
theorem takeWhile_isDigit (hdigits : ∀ c ∈ digits, isDigit c = true)
    (hrest : ∀ c ∈ rest.head?, isDigit c = false) : (digits ++ rest).takeWhile isDigit = digits := by
  have hnone : rest.takeWhile isDigit = [] := by
    cases rest with
    | nil => rfl
    | cons c rest => rw [List.takeWhile_cons_of_neg (by simp [hrest c rfl])]
  rw [List.takeWhile_append_of_pos hdigits, hnone, List.append_nil]

/-- What is no digit is left behind digits. -/
theorem dropWhile_isDigit (hdigits : ∀ c ∈ digits, isDigit c = true)
    (hrest : ∀ c ∈ rest.head?, isDigit c = false) : (digits ++ rest).dropWhile isDigit = rest := by
  rw [List.dropWhile_append_of_pos hdigits]
  cases rest with
  | nil => rfl
  | cons c rest => rw [List.dropWhile_cons_of_neg (by simp [hrest c rfl])]

end

/-! ### Numerals -/

/-- The digits of a numeral stand for the number. -/
theorem digitsValue_numeral (n : Nat) : digitsValue (numeral n) = n := by
  have hvalue : digitsValue (numeral n) = Nat.ofDigitChars 10 (numeral n) 0 := by
    rw [Nat.ofDigitChars_eq_foldl, digitsValue]
    simp only [digitValue, Nat.mul_comm 10]
  rw [hvalue, numeral, Nat.ofDigitChars_toDigits (by decide) (by decide)]

/-- A numeral has digits only. -/
theorem isDigit_of_mem_numeral {n : Nat} {c : Char} (h : c ∈ numeral n) : isDigit c = true := by
  have hdigit : c.isDigit = true := Nat.isDigit_of_mem_toDigits (by decide) (by decide) h
  rw [Char.isDigit, Bool.and_eq_true, decide_eq_true_iff, decide_eq_true_iff] at hdigit
  rw [isDigit, Bool.and_eq_true, decide_eq_true_iff, decide_eq_true_iff]
  exact hdigit

/-- A character that is no digit is in no numeral. -/
theorem not_mem_numeral {n : Nat} {c : Char} (h : isDigit c = false) : c ∉ numeral n := by
  intro hmem
  rw [isDigit_of_mem_numeral hmem] at h
  cases h

/-- A numeral is not empty. -/
theorem numeral_ne_nil (n : Nat) : numeral n ≠ [] := Nat.toDigits_ne_nil

/-- **The numeral of a positive number does not begin with a zero.** -/
theorem head?_numeral {n : Nat} (h : 0 < n) : (numeral n).head? ≠ some '0' := by
  induction n using Nat.strongRecOn with
  | ind n ih =>
    by_cases hlt : n < 10
    · rw [numeral, Nat.toDigits_of_lt_base hlt]
      clear ih
      interval_cases n <;> decide
    · have hleading : (numeral (n / 10)).head? ≠ some '0' := ih (n / 10) (by omega) (by omega)
      rw [numeral, Nat.toDigits_of_base_le (by decide) (by omega)]
      rwa [List.head?_append, Option.or_of_isSome (List.isSome_head?.mpr Nat.toDigits_ne_nil)]

/-- A number below a bound reads back from its numeral. -/
theorem readNumeral?_numeral {bound n : Nat} (h : n < bound) :
    readNumeral? bound (numeral n) = some n := by
  have hdigits : (numeral n).all isDigit = true :=
    List.all_eq_true.mpr fun _ => isDigit_of_mem_numeral
  have hplus : ∀ rest, numeral n ≠ '+' :: rest := by
    intro rest heq
    have hmem : '+' ∈ numeral n := heq ▸ List.mem_cons_self
    exact not_mem_numeral (by decide) hmem
  rw [readNumeral?.eq_2 _ _ hplus]
  simp [numeral_ne_nil, hdigits, digitsValue_numeral, h]

/-- **A 16-bit number reads back from its numeral.** -/
theorem readUInt16?_numeral (n : UInt16) :
    readUInt16? (String.ofList (numeral n.toNat)) = some n := by
  rw [readUInt16?, String.toList_ofList, readNumeral?_numeral n.toNat_lt_size, Option.map_some,
    UInt16.ofNat_toNat]

end RelayFeeds.Text
