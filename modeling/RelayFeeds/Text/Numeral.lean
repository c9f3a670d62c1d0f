/-! # Decimal numerals — printing and bounded reading of natural numbers

A bounded number is read from a text of ASCII digits, with any number of leading zeros and an
optional single plus sign before them, and printed in the fewest digits. -/

namespace RelayFeeds.Text

/-- Whether a character is an ASCII decimal digit. -/
def isDigit (c : Char) : Bool := '0' ≤ c && c ≤ '9'

/-- The value of a decimal digit. -/
def digitValue (c : Char) : Nat := c.toNat - '0'.toNat

/-- The number that decimal digits stand for. -/
def digitsValue (digits : List Char) : Nat := digits.foldl (fun n c => n * 10 + digitValue c) 0

/-- The fewest decimal digits of a number. -/
def numeral (n : Nat) : List Char := Nat.toDigits 10 n

/-- The number below a bound that a numeral with an optional plus sign stands for. -/
def readNumeral? (bound : Nat) (text : List Char) : Option Nat :=
  let digits := match text with
    | '+' :: rest => rest
    | _ => text
  if digits.isEmpty || !digits.all isDigit then none
  else
    let n := digitsValue digits
    if n < bound then some n else none

/-- The 16-bit number that a numeral stands for. -/
def readUInt16? (text : String) : Option UInt16 :=
  (readNumeral? UInt16.size text.toList).map UInt16.ofNat

/-- The 64-bit number that a numeral stands for. -/
def readUInt64? (text : String) : Option UInt64 :=
  (readNumeral? UInt64.size text.toList).map UInt64.ofNat

end RelayFeeds.Text
