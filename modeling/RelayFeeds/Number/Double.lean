/-! # Doubles — 64-bit binary floating point over exact arithmetic

A double is its 64 bits. Results are rounded from exact ratios of natural numbers, to the nearest
double and a tie to the one with an even significand, so every operation is a total function of the
bits. The magnitude (all bits but the sign) grows with the number it stands for; comparison is
therefore comparison of signed magnitudes. -/

namespace RelayFeeds

/-- A double-precision number, given by its bits. -/
structure Double where
  /-- Sign, exponent and fraction, from the highest bit down. -/
  bits : UInt64
  deriving DecidableEq

namespace Double

/-- The weight of the sign bit. -/
def signWeight : Nat := 0x8000000000000000

/-- The magnitude of the infinities, above that of every finite double. -/
def infiniteMagnitude : Nat := 0x7FF0000000000000

/-- The weight of the implicit leading bit of a normal significand. -/
def leadingWeight : Nat := 0x10000000000000

/-- All bits but the sign, as a number. -/
def magnitude (x : Double) : Nat := x.bits.toNat % signWeight

/-- Whether the sign bit is set. -/
def isNegative (x : Double) : Bool := signWeight.ble x.bits.toNat

/-- Whether the bits stand for no number at all. -/
def isNaN (x : Double) : Bool := infiniteMagnitude.blt x.magnitude

/-- Whether the bits stand for a number. -/
def isFinite (x : Double) : Bool := x.magnitude.blt infiniteMagnitude

/-- The double of a sign and a magnitude. -/
def ofMagnitude (negative : Bool) (magnitude : Nat) : Double :=
  ⟨UInt64.ofNat (magnitude + if negative then signWeight else 0)⟩

/-- Positive zero. -/
def zero : Double := ofMagnitude false 0

/-- One of the bit patterns that stand for no number. -/
def nan : Double := ofMagnitude false 0x7FF8000000000000

/-- The integer that, scaled by a power of two, is the absolute value of a finite magnitude. -/
def significand (magnitude : Nat) : Nat :=
  if magnitude < leadingWeight then magnitude else magnitude % leadingWeight + leadingWeight

/-- The exponent of the power of two that scales the significand of a finite magnitude. -/
def exponent (magnitude : Nat) : Int :=
  if magnitude < leadingWeight then -1074 else Int.ofNat (magnitude / leadingWeight) - 1075

/-- A natural number times a power of two, as a ratio. -/
def ratioOf (significand : Nat) (exponent : Int) : Nat × Nat :=
  match exponent with
  | .ofNat k => (significand * Nat.pow 2 k, 1)
  | .negSucc k => (significand, Nat.pow 2 (k + 1))

/-- The absolute value of a finite magnitude, as a ratio. -/
def ratio (magnitude : Nat) : Nat × Nat := ratioOf (significand magnitude) (exponent magnitude)

/-- The integer nearest to a ratio, a tie going to the even one. -/
def roundDiv (num den : Nat) : Nat :=
  let quotient := num / den
  let twice := 2 * (num % den)
  if twice < den then quotient
  else if den < twice then quotient + 1
  else if quotient % 2 = 0 then quotient else quotient + 1

/-- The magnitude nearest to a ratio, the infinite one above the finite range. -/
def nearest (num den : Nat) : Nat :=
  if num = 0 then 0
  else
    -- in units of `2 ^ guess` the ratio has 52 or 53 binary digits before the point
    let guess := Int.ofNat num.log2 - Int.ofNat den.log2 - 52
    let scaled := fun (e : Int) => match e with
      | .ofNat k => (num, den * Nat.pow 2 k)
      | .negSucc k => (num * Nat.pow 2 (k + 1), den)
    let first := scaled guess
    let fitted := if first.1 / first.2 < leadingWeight then guess - 1 else guess
    -- below the normal range the unit is that of the smallest doubles
    let unit := if fitted < -1074 then -1074 else fitted
    let pair := scaled unit
    -- a carry into the next binary digit moves on to the next exponent by itself
    let rounded := roundDiv pair.1 pair.2 + (unit + 1074).toNat * leadingWeight
    if rounded < infiniteMagnitude then rounded else infiniteMagnitude

/-- The double nearest to an integer. -/
def ofInt (n : Int) : Double := ofMagnitude (decide (n < 0)) (nearest n.natAbs 1)

/-- The rounded product of two finite magnitudes. -/
def mulMagnitude (a b : Nat) : Nat :=
  let x := ratio a
  let y := ratio b
  nearest (x.1 * y.1) (x.2 * y.2)

/-- The rounded quotient of two finite magnitudes, the second not zero. -/
def divMagnitude (a b : Nat) : Nat :=
  let x := ratio a
  let y := ratio b
  nearest (x.1 * y.2) (x.2 * y.1)

/-- The rounded product of two doubles. -/
def mul (x y : Double) : Double :=
  let negative := x.isNegative != y.isNegative
  if x.isNaN || y.isNaN then nan
  else if x.isFinite && y.isFinite then
    ofMagnitude negative (mulMagnitude x.magnitude y.magnitude)
  else if x.magnitude = 0 || y.magnitude = 0 then nan
  else ofMagnitude negative infiniteMagnitude

/-- The magnitude with its sign, by which doubles that are numbers compare. -/
def key (x : Double) : Int := if x.isNegative then -Int.ofNat x.magnitude else Int.ofNat x.magnitude

/-- Whether one double is at most another; false when either is no number. -/
def le (x y : Double) : Bool := !x.isNaN && !y.isNaN && decide (x.key ≤ y.key)

/-- The magnitude of a power of ten. -/
def powerOfTen (k : Nat) : Nat := nearest (Nat.pow 10 k) 1

/-- A magnitude times a power of ten, rounded after each multiplication or division by a power of
at most 308; `none` above the finite range. -/
def scaleByTen? (magnitude : Nat) (exponent : Int) : Option Nat :=
  if magnitude = 0 then some 0
  else if 308 < exponent then none
  else if 0 ≤ exponent then
    let product := mulMagnitude magnitude (powerOfTen exponent.toNat)
    if product < infiniteMagnitude then some product else none
  else if -308 ≤ exponent then
    some (divMagnitude magnitude (powerOfTen (-exponent).toNat))
  else scaleByTen? (divMagnitude magnitude (powerOfTen 308)) (exponent + 308)
termination_by (-exponent).toNat
decreasing_by omega

/-- The double that a signed decimal `significand · 10 ^ exponent` becomes when its significand is
rounded first and then scaled step by step; `none` above the finite range. -/
def ofDecimal? (negative : Bool) (significand : Nat) (exponent : Int) : Option Double :=
  (scaleByTen? (nearest significand 1) exponent).map (ofMagnitude negative)

/-- The double nearest to a signed decimal `significand · 10 ^ exponent`; `none` above the finite
range. -/
def nearestDecimal? (negative : Bool) (significand : Nat) (exponent : Int) : Option Double :=
  -- the first two bounds only keep the powers of ten small
  if significand = 0 || exponent < -Int.ofNat (significand.log2 + 400) then
    some (ofMagnitude negative 0)
  else if 308 < exponent then none
  else
    let magnitude := match exponent with
      | .ofNat k => nearest (significand * Nat.pow 10 k) 1
      | .negSucc k => nearest significand (Nat.pow 10 (k + 1))
    if magnitude < infiniteMagnitude then some (ofMagnitude negative magnitude) else none

end Double

end RelayFeeds
