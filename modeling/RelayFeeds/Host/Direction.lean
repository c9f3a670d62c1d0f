import RelayFeeds.Host.Direction.Table
import RelayFeeds.Text.Chart
import RelayFeeds.Text.Range

/-! # Direction — names that are written from right to left

Where a name has characters that are written from right to left, each of its labels must be of one
direction, so that the labels stay in order when the name is displayed. A label begins with a letter
of its direction and ends, apart from marks, with a letter of it or a digit. -/

namespace RelayFeeds.Host

/-- Ranges of the letters that are written from right to left. -/
def rightToLeftRanges : List (Nat × Nat) := Text.chartRanges rightToLeftChart

/-- Ranges of the digits of texts in either direction. -/
def europeanNumberRanges : List (Nat × Nat) := Text.chartRanges europeanNumberChart

/-- Ranges of the digits of texts from right to left. -/
def arabicNumberRanges : List (Nat × Nat) := Text.chartRanges arabicNumberChart

/-- Ranges of the characters that take the direction of their surroundings. -/
def neutralRanges : List (Nat × Nat) := Text.chartRanges neutralChart

/-- Ranges of the marks that take the direction of the character before them. -/
def nonspacingRanges : List (Nat × Nat) := Text.chartRanges nonspacingChart

/-- How a character takes part in the direction of a text. -/
inductive Direction where
  /-- A letter that is written from left to right. -/
  | leftToRight
  /-- A letter that is written from right to left. -/
  | rightToLeft
  /-- A digit of texts in either direction. -/
  | europeanNumber
  /-- A digit of texts from right to left. -/
  | arabicNumber
  /-- A character that takes the direction of its surroundings. -/
  | neutral
  /-- A mark that takes the direction of the character before it. -/
  | nonspacing
  deriving DecidableEq

namespace Direction

/-- How a character that names can have takes part. -/
def ofChar (c : Char) : Direction :=
  if Text.inRanges europeanNumberRanges c.toNat then .europeanNumber
  else if Text.inRanges neutralRanges c.toNat then .neutral
  else if Text.inRanges rightToLeftRanges c.toNat then .rightToLeft
  else if Text.inRanges arabicNumberRanges c.toNat then .arabicNumber
  else if Text.inRanges nonspacingRanges c.toNat then .nonspacing
  else .leftToRight

/-- Whether a character calls for the rule of directions. -/
def isFromRight (c : Char) : Bool :=
  -- no such character precedes those of Hebrew
  0x590 ≤ c.toNat && (ofChar c == .rightToLeft || ofChar c == .arabicNumber)

/-- Whether a label after its first character, marks at its end left out, may continue one that is
written from left to right. -/
def continuesLeft (rest : List Direction) : Bool :=
  rest.all (fun d => d != .rightToLeft && d != .arabicNumber) &&
    [none, some .leftToRight, some .europeanNumber].contains rest.getLast?

/-- Whether a label after its first character, marks at its end left out, may continue one that is
written from right to left. -/
def continuesRight (rest : List Direction) : Bool :=
  rest.all (· != .leftToRight) &&
    [none, some .rightToLeft, some .europeanNumber, some .arabicNumber].contains rest.getLast? &&
    !(rest.contains .europeanNumber && rest.contains .arabicNumber)

/-- Whether the characters of a label have one direction. -/
def isUniform (label : List Direction) : Bool :=
  match label with
  | [] => true
  | first :: rest =>
    let rest := (rest.reverse.dropWhile (· == .nonspacing)).reverse
    (first == .leftToRight && continuesLeft rest) || (first == .rightToLeft && continuesRight rest)

end Direction

/-- Whether the labels of a name keep the rule of directions. -/
def directionsFit (labels : List (List Char)) : Bool :=
  if labels.any (fun label => label.any Direction.isFromRight) then
    labels.all (fun label => Direction.isUniform (label.map Direction.ofChar))
  else true

end RelayFeeds.Host
