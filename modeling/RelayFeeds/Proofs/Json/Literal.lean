import RelayFeeds.Json.Printer
import RelayFeeds.Json.Reading
import RelayFeeds.Proofs.Text.Numeral

/-! # Literals — numbers as they are written

A literal is a sign, whole digits and, where they are written, a fraction and an exponent. What follows
a number in a printed text can belong to no literal, so the reader finds the same number wherever the
literal stands. Every finite number is printed as a literal; an integer is read back from it.

* **`Literal.readNumber_text`** — what the reader makes of a literal.
* **`Literal.text_ofInt`**, **`Literal.exists_eq_text`** — finite numbers are printed as literals.
* **`Literal.reading_ofInt`** — an integer is read back. -/

namespace RelayFeeds

/-- Decimal digits, at least one. -/
structure Digits where
  /-- The digits from the highest down. -/
  chars : List Char
  /-- There is one. -/
  ne_nil : chars ≠ []
  /-- They are digits. -/
  isDigit : ∀ c ∈ chars, Text.isDigit c = true

/-- The digits of a number. -/
def Digits.ofNat (n : Nat) : Digits where
  chars := Text.numeral n
  ne_nil := Text.numeral_ne_nil n
  isDigit _ := Text.isDigit_of_mem_numeral

/-- The digit zero. -/
def Digits.zero : Digits := ⟨['0'], by decide, List.all_eq_true.mp rfl⟩

/-- Digits with zeros behind them. -/
def Digits.scaled (digits : Digits) (zeros : Nat) : Digits where
  chars := digits.chars ++ List.replicate zeros '0'
  ne_nil := by simp [digits.ne_nil]
  isDigit := List.forall_mem_append.mpr
    ⟨digits.isDigit, fun c hmem => List.eq_of_mem_replicate hmem ▸ rfl⟩

/-- Digits with zeros in front of them. -/
def Digits.padded (digits : Digits) (zeros : Nat) : Digits where
  chars := List.replicate zeros '0' ++ digits.chars
  ne_nil := by simp [digits.ne_nil]
  isDigit := List.forall_mem_append.mpr
    ⟨fun c hmem => List.eq_of_mem_replicate hmem ▸ rfl, digits.isDigit⟩

/-- Some first digits. -/
def Digits.first (digits : Digits) (n : Nat) (h : 0 < n) : Digits where
  chars := digits.chars.take n
  ne_nil := by
    rw [Ne, List.take_eq_nil_iff, not_or]
    exact ⟨h.ne', digits.ne_nil⟩
  isDigit c hmem := digits.isDigit c (List.mem_of_mem_take hmem)

/-- The digits behind some first ones. -/
def Digits.behind (digits : Digits) (n : Nat) (h : n < digits.chars.length) : Digits where
  chars := digits.chars.drop n
  ne_nil := by
    rw [Ne, List.drop_eq_nil_iff]
    exact h.not_ge
  isDigit c hmem := digits.isDigit c (List.mem_of_mem_drop hmem)

/-- Digits begin with a digit. -/
theorem Digits.exists_eq_cons (digits : Digits) :
    ∃ c rest, digits.chars = c :: rest ∧ Text.isDigit c = true := by
  obtain ⟨c, rest, heq⟩ := List.exists_cons_of_ne_nil digits.ne_nil
  exact ⟨c, rest, heq, digits.isDigit c (heq ▸ List.mem_cons_self)⟩

/-- A number as it is written. -/
structure Literal where
  /-- Whether a minus sign leads it. -/
  negative : Bool
  /-- The digits before the point. -/
  whole : Digits
  /-- The digits behind the point. -/
  fraction : Option Digits
  /-- Whether the exponent has a minus sign, and its digits. -/
  exponent : Option (Bool × Digits)

namespace Literal

/-- The text of a fraction. -/
def fractionText (literal : Literal) : List Char :=
  literal.fraction.elim [] fun digits => '.' :: digits.chars

/-- The text of an exponent, with its sign. -/
def exponentText (literal : Literal) : List Char :=
  literal.exponent.elim [] fun exponent =>
    'e' :: (if exponent.1 then '-' else '+') :: exponent.2.chars

/-- The text of a literal without its sign. -/
def unsignedText (literal : Literal) : List Char :=
  literal.whole.chars ++ (literal.fractionText ++ literal.exponentText)

/-- The text of a literal. -/
def text (literal : Literal) : List Char :=
  (if literal.negative then ['-'] else []) ++ literal.unsignedText

/-- The exponent that is written. -/
def exponentValue (literal : Literal) : Option Int :=
  literal.exponent.map fun exponent =>
    if exponent.1 then -Int.ofNat (Text.digitsValue exponent.2.chars)
    else Int.ofNat (Text.digitsValue exponent.2.chars)

/-- Whether zeros stand in front of the whole digits. -/
def isPadded (literal : Literal) : Bool :=
  literal.whole.chars.head? == some '0' && literal.whole.chars.length != 1

/-- What the reader finds at a literal. -/
def reading (literal : Literal) : Reading :=
  if literal.isPadded then .broken
  else Reading.numberOf literal.negative literal.whole.chars (literal.fraction.map Digits.chars)
    literal.exponentValue

end Literal

namespace Reading

/-- What may follow a value inside a container, or nothing. -/
def Delimits (rest : List Char) : Prop := ∀ c ∈ rest.head?, c ∈ [',', ']', '\x7d']

variable {rest : List Char}

/-- Nothing follows the value of a whole text. -/
theorem delimits_nil : Delimits [] := nofun

/-- A delimiter is not a given other character. -/
theorem Delimits.ne {c : Char} (h : Delimits rest) (hc : c ∉ [',', ']', '\x7d']) :
    ∀ tail, rest ≠ c :: tail := by
  rintro tail rfl
  exact hc (h c rfl)

/-- A delimiter is no digit. -/
theorem Delimits.isDigit (h : Delimits rest) : ∀ c ∈ rest.head?, Text.isDigit c = false := by
  have hall : ∀ c ∈ [',', ']', '\x7d'], Text.isDigit c = false := by simp [Text.isDigit]
  exact fun c hc => hall c (h c hc)

end Reading

namespace Literal

open Reading

variable {rest : List Char}

/-- What stands behind a fraction is no digit. -/
theorem isDigit_of_mem_exponentText (literal : Literal) (h : Delimits rest) :
    ∀ c ∈ (literal.exponentText ++ rest).head?, Text.isDigit c = false := by
  rw [exponentText]
  cases literal.exponent with
  | none => exact h.isDigit
  | some exponent =>
    rintro c ⟨⟩
    decide

/-- What stands behind the whole digits is no digit. -/
theorem isDigit_of_mem_fractionText (literal : Literal) (h : Delimits rest) :
    ∀ c ∈ (literal.fractionText ++ (literal.exponentText ++ rest)).head?,
      Text.isDigit c = false := by
  rw [fractionText]
  cases literal.fraction with
  | none => exact literal.isDigit_of_mem_exponentText h
  | some digits =>
    rintro c ⟨⟩
    decide

/-- The exponent of a literal is read. -/
theorem readExponent_text (literal : Literal) (h : Delimits rest) :
    readExponent (literal.exponentText ++ rest) = some (literal.exponentValue, rest) := by
  rw [exponentText, exponentValue]
  cases literal.exponent with
  | none =>
    cases rest with
    | nil => rfl
    | cons c rest =>
      have hc : (c == 'e' || c == 'E') = false := by
        have hall : ∀ c ∈ [',', ']', '\x7d'], (c == 'e' || c == 'E') = false := by simp
        exact hall c (h c rfl)
      simp [readExponent, hc]
  | some exponent =>
    obtain ⟨negative, digits⟩ := exponent
    have htake := Text.takeWhile_isDigit digits.isDigit h.isDigit
    have hdrop := Text.dropWhile_isDigit digits.isDigit h.isDigit
    cases negative <;> simp [readExponent, htake, hdrop, digits.ne_nil]

/-- The fraction of a literal is read. -/
theorem readFraction_text (literal : Literal) (h : Delimits rest) :
    readFraction (literal.fractionText ++ (literal.exponentText ++ rest)) =
      some (literal.fraction.map Digits.chars, literal.exponentText ++ rest) := by
  have hbehind := literal.isDigit_of_mem_exponentText h
  rw [fractionText]
  cases literal.fraction with
  | none =>
    have hpoint : ∀ tail, literal.exponentText ++ rest ≠ '.' :: tail := by
      rw [exponentText]
      cases literal.exponent with
      | none => exact h.ne (by decide)
      | some exponent => simp
    exact readFraction.eq_2 _ hpoint
  | some digits =>
    have htake := Text.takeWhile_isDigit digits.isDigit hbehind
    have hdrop := Text.dropWhile_isDigit digits.isDigit hbehind
    simp [readFraction, htake, hdrop, digits.ne_nil]

/-- **What the reader makes of a literal**, whatever delimits it. -/
theorem readNumber_text (literal : Literal) (h : Delimits rest) :
    readNumber (literal.text ++ rest) =
      (literal.reading, if literal.isPadded then [] else rest) := by
  have hbehind := literal.isDigit_of_mem_fractionText h
  have htake := Text.takeWhile_isDigit literal.whole.isDigit hbehind
  have hdrop := Text.dropWhile_isDigit literal.whole.isDigit hbehind
  have hunsigned : literal.unsignedText ++ rest =
      literal.whole.chars ++ (literal.fractionText ++ (literal.exponentText ++ rest)) := by
    simp [unsignedText]
  have hsign : ∀ tail, literal.unsignedText ++ rest ≠ '-' :: tail := by
    obtain ⟨c, digits, heq, hc⟩ := literal.whole.exists_eq_cons
    rw [hunsigned, heq]
    rintro tail ⟨⟩
    cases hc
  rw [text]
  cases hnegative : literal.negative
  case' true =>
    rw [if_pos rfl, List.append_assoc, List.singleton_append, readNumber.eq_1, hunsigned]
  case' false =>
    rw [if_neg Bool.false_ne_true, List.nil_append, readNumber.eq_2 _ hsign, hunsigned]
  all_goals
    simp [htake, hdrop, readFraction_text literal h, readExponent_text literal h,
      literal.whole.ne_nil, reading, isPadded, hnegative]
    split <;> rfl

/-! ### Integers -/

/-- An integer as it is written. -/
def ofInt (n : Int) : Literal where
  negative := decide (n < 0)
  whole := Digits.ofNat n.natAbs
  fraction := none
  exponent := none

/-- An integer is printed as it is written. -/
theorem text_ofInt {n : Int} (fits : -0x8000000000000000 ≤ n ∧ n < 0x10000000000000000) :
    (Number.integer n fits).text = (ofInt n).text := by
  rw [Number.text, Number.integerText]
  split <;>
    simp [text, unsignedText, ofInt, fractionText, exponentText, Digits.ofNat, Text.numeral, *]

/-- No zeros stand in front of an integer. -/
theorem isPadded_ofInt (n : Int) : (ofInt n).isPadded = false := by
  obtain hzero | hpos := Nat.eq_zero_or_pos n.natAbs
  · rw [isPadded, ofInt, hzero]
    rfl
  · have hhead : (Text.numeral n.natAbs).head? ≠ some '0' := Text.head?_numeral hpos
    simp [isPadded, ofInt, Digits.ofNat, hhead]

end Literal

namespace Reading

/-- Further digits only add to a number. -/
theorem le_foldl_digits (digits : List Char) (n : Nat) :
    n ≤ digits.foldl (fun n c => n * 10 + Text.digitValue c) n := by
  induction digits generalizing n with
  | nil => exact le_refl n
  | cons digit rest ih =>
    calc
      n ≤ n * 10 + Text.digitValue digit := by omega
      _ ≤ rest.foldl (fun n c => n * 10 + Text.digitValue c) (n * 10 + Text.digitValue digit) :=
        ih _

/-- Digits that stand for a number of 64 bits are all taken into it. -/
theorem gather_eq {value : Nat} {digits : List Char}
    (h : digits.foldl (fun n c => n * 10 + Text.digitValue c) value < UInt64.size) :
    gather value digits = (digits.foldl (fun n c => n * 10 + Text.digitValue c) value, []) := by
  induction digits generalizing value with
  | nil => rfl
  | cons digit rest ih =>
    rw [List.foldl_cons] at h ⊢
    rw [gather, if_pos ((le_foldl_digits rest _).trans_lt h), ih h]

end Reading

namespace Literal

open Reading

/-- **An integer of 64 bits is read back.** -/
theorem reading_ofInt {n : Int} (fits : -0x8000000000000000 ≤ n ∧ n < 0x10000000000000000) :
    (ofInt n).reading = .number (.integer n fits) := by
  have hvalue : Text.digitsValue (Text.numeral n.natAbs) = n.natAbs := Text.digitsValue_numeral _
  have hgather : gather 0 (Text.numeral n.natAbs) = (n.natAbs, []) := by
    rw [gather_eq] <;> rw [← Text.digitsValue, hvalue]
    rw [UInt64.size]
    omega
  have hsigned : (if n < 0 then -|n| else |n|) = n := by
    split_ifs with hn
    · rw [abs_of_neg hn, neg_neg]
    · exact abs_of_nonneg (not_lt.mp hn)
  have hzero : ¬(n < 0 ∧ n = 0) := by omega
  rw [reading, isPadded_ofInt, if_neg Bool.false_ne_true, numberOf]
  simp [ofInt, Digits.ofNat, exponentValue, hgather, hsigned, hzero, fits]

/-! ### Doubles -/

/-- A decimal is printed as a literal. -/
theorem exists_eq_decimalText (negative : Bool) (digits : Digits) (exponent : Int) :
    ∃ literal : Literal, literal.negative = negative ∧
      Double.decimalText digits.chars exponent = literal.unsignedText := by
  have hlength : 0 < digits.chars.length := List.length_pos_iff.mpr digits.ne_nil
  unfold Double.decimalText
  extract_lets leading fraction sign
  have hleading : leading = exponent + digits.chars.length - 1 := rfl
  split_ifs with hpositional hwhole hamong
  · -- a whole number, with a fraction all the same
    refine ⟨⟨negative, digits.scaled exponent.toNat, some .zero, none⟩, rfl, ?_⟩
    simp [unsignedText, fractionText, exponentText, Digits.scaled, Digits.zero]
  · -- the point stands among the digits
    refine ⟨⟨negative, digits.first (leading + 1).toNat (by omega),
      some (digits.behind (leading + 1).toNat (by omega)), none⟩, rfl, ?_⟩
    simp [unsignedText, fractionText, exponentText, Digits.first, Digits.behind]
  · -- zeros stand between the point and the digits
    refine ⟨⟨negative, .zero, some (digits.padded (-leading - 1).toNat), none⟩, rfl, ?_⟩
    simp [unsignedText, fractionText, exponentText, Digits.padded, Digits.zero]
  · -- the point stands behind the first digit when there are more
    have hfraction : ∃ (whole : Digits) (behind : Option Digits),
        fraction = whole.chars ++ behind.elim [] (fun digits => '.' :: digits.chars) := by
      simp only [fraction]
      split
      · rename_i first second rest heq
        have hmore : 1 < digits.chars.length := by simp [heq]
        exact ⟨digits.first 1 (by decide), some (digits.behind 1 hmore), by
          simp [Digits.first, Digits.behind, heq]⟩
      · exact ⟨digits, none, by simp⟩
    obtain ⟨whole, behind, hfraction⟩ := hfraction
    refine ⟨⟨negative, whole, behind, some (decide (leading < 0), .ofNat leading.natAbs)⟩, rfl, ?_⟩
    simp [unsignedText, fractionText, exponentText, Digits.ofNat, Text.numeral, sign, hfraction]

/-- **A finite double is printed as a literal.** -/
theorem exists_eq_text {x : Double} (h : x.isFinite = true) :
    ∃ literal : Literal, (Number.double x).text = literal.text := by
  rw [Number.text, if_pos h]
  by_cases hzero : x.magnitude = 0
  · refine ⟨⟨x.isNegative, .zero, some .zero, none⟩, ?_⟩
    rw [Double.text, if_pos hzero]
    rfl
  · obtain ⟨literal, hnegative, hdecimal⟩ := exists_eq_decimalText x.isNegative
      (.ofNat (Double.shortest x.magnitude).1) (Double.shortest x.magnitude).2
    refine ⟨literal, ?_⟩
    rw [Double.text, if_neg hzero, text, hnegative, ← hdecimal]
    rfl

end Literal

end RelayFeeds
