import RelayFeeds.Text.Range

/-! # Blanks — the white space that separates words

Words of a text are its longest runs of characters that are not blank, where blank is the Unicode
property of white space and so wider than the six ASCII blanks. -/

namespace RelayFeeds.Text

/-- Ranges of the characters that are white space. -/
def blankRanges : List (Nat × Nat) :=
  [(9, 13), (0x20, 0x20), (0x85, 0x85), (0xA0, 0xA0), (0x1680, 0x1680), (0x2000, 0x200A),
   (0x2028, 0x2029), (0x202F, 0x202F), (0x205F, 0x205F), (0x3000, 0x3000)]

/-- Whether a character is white space. -/
def isBlank (c : Char) : Bool := inRanges blankRanges c.toNat

/-- The words of a text whose current word, held back to front, is given first. -/
def wordsFrom : List Char → List Char → List (List Char)
  | word, [] => if word.isEmpty then [] else [word.reverse]
  | word, c :: rest =>
    if isBlank c then
      if word.isEmpty then wordsFrom [] rest else word.reverse :: wordsFrom [] rest
    else wordsFrom (c :: word) rest

/-- The longest runs of characters that are not blank. -/
def words (text : List Char) : List (List Char) := wordsFrom [] text

/-- Whether nothing but white space occurs. -/
def isBlankText (text : String) : Bool := text.toList.all isBlank

/-- The words from a current word on are the pieces between blanks that are not empty. -/
theorem wordsFrom_eq (word text : List Char) :
    wordsFrom word text = (List.splitOnPPrepend isBlank text word).filter (!·.isEmpty) := by
  induction text generalizing word with
  | nil => cases word <;> simp [wordsFrom, List.splitOnPPrepend]
  | cons c rest ih =>
    rw [wordsFrom, List.splitOnPPrepend, ih, ih]
    cases word <;> split <;> simp

/-- **Words are the pieces between blanks that are not empty.** -/
theorem words_eq (text : List Char) :
    words text = (text.splitOnP isBlank).filter (!·.isEmpty) := wordsFrom_eq [] text

/-- A blank between two texts keeps their words apart. -/
theorem words_append_blank {c : Char} (h : isBlank c = true) (a b : List Char) :
    words (a ++ c :: b) = words a ++ words b := by
  rw [words_eq, words_eq, words_eq, List.splitOnP_append_cons a b h, List.filter_append]

end RelayFeeds.Text
