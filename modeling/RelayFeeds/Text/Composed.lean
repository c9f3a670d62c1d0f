import RelayFeeds.Text.Chart
import RelayFeeds.Text.Composed.Table

/-! # Composed form — one spelling for equivalent texts

A character with marks may be spelled as one character or as a letter followed by its marks, the
marks in several orders. The composed form takes every character apart, puts marks that do not
touch each other into the order of their classes, and then lets characters grow together again as
far as they can: Normalization Form C of Unicode. -/

namespace RelayFeeds.Text

/-- Characters and the two that compose to each. -/
def composedRows : List (List Nat) := chartRows composedChart

/-- Characters and the others that always stand for each. -/
def separatedRows : List (List Nat) := chartRows separatedChart

/-- Ranges of marks with their classes. -/
def markClassRows : List (List Nat) := chartRows markClassChart

/-! ### Hangul -/

/-- The first syllable. -/
def firstSyllable : Nat := 0xAC00

/-- The number of syllables with one leading consonant and vowel. -/
def syllablesOfVowel : Nat := 28

/-- The number of syllables with one leading consonant. -/
def syllablesOfLead : Nat := 588

/-- The number of all syllables. -/
def syllableCount : Nat := 11172

/-- The letters of a syllable: a leading consonant, a vowel, and perhaps a trailing consonant. -/
def syllableLetters? (c : Nat) : Option (List Nat) :=
  if firstSyllable ≤ c && c < firstSyllable + syllableCount then
    let index := c - firstSyllable
    let lead := 0x1100 + index / syllablesOfLead
    let vowel := 0x1161 + index % syllablesOfLead / syllablesOfVowel
    let trail := index % syllablesOfVowel
    some (if trail = 0 then [lead, vowel] else [lead, vowel, 0x11A7 + trail])
  else none

/-- The syllable of a leading consonant and a vowel, or of a syllable without trailing consonant
and one. -/
def syllable? (a b : Nat) : Option Nat :=
  if 0x1100 ≤ a && a < 0x1113 && 0x1161 ≤ b && b < 0x1176 then
    some (firstSyllable + (a - 0x1100) * syllablesOfLead + (b - 0x1161) * syllablesOfVowel)
  else if firstSyllable ≤ a && a < firstSyllable + syllableCount &&
      (a - firstSyllable) % syllablesOfVowel = 0 && 0x11A8 ≤ b && b < 0x11C3 then
    some (a + (b - 0x11A7))
  else none

/-! ### Taking apart -/

/-- The characters that a character consists of, taken apart at most some number of times. -/
def takenApart : Nat → Nat → List Nat
  | 0, c => [c]
  | times + 1, c =>
    match syllableLetters? c with
    | some letters => letters
    | none =>
      match composedRows.find? (fun row => row.head? == some c) with
      | some [_, a, b] => takenApart times a ++ [b]
      | _ =>
        match separatedRows.find? (fun row => row.head? == some c) with
        | some (_ :: parts) => parts
        | _ => [c]

/-- No character is composed more often than this. -/
def composedDepth : Nat := 4

/-- The class of a mark, zero for any other character. -/
def markClass (c : Nat) : Nat :=
  match markClassRows.find? (fun row =>
      match row with
      | [first, last, _] => first.ble c && c.ble last
      | _ => false) with
  | some [_, _, markClass] => markClass
  | _ => 0

/-- Characters with one more put in front, a mark behind the marks of lower classes there. -/
def placeMark (mark : Nat × Nat) : List (Nat × Nat) → List (Nat × Nat)
  | [] => [mark]
  | other :: rest =>
    if 0 < other.2 && other.2 < mark.2 then other :: placeMark mark rest else mark :: other :: rest

/-- The characters of a text taken apart, each with its class, marks in the order of classes. -/
def separated (text : List Nat) : List (Nat × Nat) :=
  ((text.flatMap (takenApart composedDepth)).map (fun c => (c, markClass c))).foldr placeMark []

/-! ### Growing together -/

/-- The character that two others compose to. -/
def composite? (a b : Nat) : Option Nat :=
  match syllable? a b with
  | some c => some c
  | none => (composedRows.find? (fun row => row.drop 1 == [a, b])).bind List.head?

/-- A character and the marks passed over after it, held back to front with the class of the last
one, grown together with what follows. A mark of the same or a lower class in between keeps a
character from reaching the one before. -/
def composedFrom (base : Nat) (marks : List Nat) (lastClass : Nat) :
    List (Nat × Nat) → List Nat
  | [] => base :: marks.reverse
  | (c, ofClass) :: rest =>
    match if marks.isEmpty || lastClass < ofClass then composite? base c else none with
    | some grown => composedFrom grown marks lastClass rest
    | none =>
      if ofClass = 0 then base :: marks.reverse ++ composedFrom c [] 0 rest
      else composedFrom base (c :: marks) ofClass rest

/-- Characters grown together; marks that nothing precedes stay alone. -/
def grownTogether : List (Nat × Nat) → List Nat
  | [] => []
  | (c, ofClass) :: rest =>
    if ofClass = 0 then composedFrom c [] 0 rest else c :: grownTogether rest

/-- The composed form of a text. -/
def composed (text : List Char) : List Char :=
  if text.all (fun c => c.toNat < 0x80) then text
  else (grownTogether (separated (text.map Char.toNat))).map Char.ofNat

end RelayFeeds.Text
