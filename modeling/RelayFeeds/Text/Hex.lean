/-! # Hexadecimal text — digits, keys and event ids

Keys and ids are 32 bytes that travel as 64 hexadecimal digits. They are held in the lower-case
spelling, so equal keys are equal texts. -/

namespace RelayFeeds

namespace Text

/-- Whether a character is an ASCII hexadecimal digit in either case. -/
def isHexDigit (c : Char) : Bool :=
  ('0' ≤ c && c ≤ '9') || ('a' ≤ c && c ≤ 'f') || ('A' ≤ c && c ≤ 'F')

/-- Whether a character is a lower-case hexadecimal digit. -/
def isLowerHexDigit (c : Char) : Bool := ('0' ≤ c && c ≤ '9') || ('a' ≤ c && c ≤ 'f')

/-- The value of a hexadecimal digit, zero for any other character. -/
def hexValue (c : Char) : Nat :=
  if '0' ≤ c && c ≤ '9' then c.toNat - '0'.toNat
  else if 'a' ≤ c && c ≤ 'f' then c.toNat - 'a'.toNat + 10
  else if 'A' ≤ c && c ≤ 'F' then c.toNat - 'A'.toNat + 10
  else 0

/-- The number that hexadecimal digits stand for. -/
def hexNumber (digits : List Char) : Nat := digits.foldl (fun n c => n * 16 + hexValue c) 0

/-- A hexadecimal digit in lower case. -/
def lowerHexDigit (c : Char) : Char :=
  if 'A' ≤ c && c ≤ 'F' then Char.ofNat (c.toNat + 32) else c

/-- Whether a text is 64 hexadecimal digits in either case. -/
def isHexKey (text : String) : Bool := text.toList.length == 64 && text.toList.all isHexDigit

end Text

/-- Thirty-two bytes as 64 lower-case hexadecimal digits. -/
structure HexKey where
  /-- The digits. -/
  text : String
  /-- There are 64 of them. -/
  length_eq : text.toList.length = 64
  /-- Each is a lower-case digit. -/
  lower : text.toList.all Text.isLowerHexDigit = true
  deriving DecidableEq

namespace HexKey

/-- The key that a text of 64 hexadecimal digits in either case spells. -/
def ofText? (text : String) : Option HexKey :=
  let digits := text.toList.map Text.lowerHexDigit
  if h : digits.length = 64 ∧ digits.all Text.isLowerHexDigit = true then
    some ⟨String.ofList digits, by simpa using h.1, by simpa using h.2⟩
  else none

/-- Keys with the same digits are equal. -/
theorem eq_of_text_eq {a b : HexKey} (h : a.text = b.text) : a = b := by
  cases a
  cases b
  cases h
  rfl

/-- The key whose bytes are all zero. -/
def zero : HexKey := ⟨String.ofList (List.replicate 64 '0'), by simp, by decide⟩

end HexKey

end RelayFeeds
