import RelayFeeds.Text.Blank
import RelayFeeds.Text.Hex

/-! # Charts — large tables of code points written as text

A chart lists rows between blanks, each a sequence of hexadecimal numbers between dots. Where a
chart is one of ranges, a row is the first and the last code point of a range, or its only one. -/

namespace RelayFeeds.Text

/-- The rows of a chart. -/
def chartRows (chart : String) : List (List Nat) :=
  (words chart.toList).map (fun row => (row.splitOn '.').map hexNumber)

/-- The range that a row stands for. -/
def rowRange? : List Nat → Option (Nat × Nat)
  | [only] => some (only, only)
  | [first, last] => some (first, last)
  | _ => none

/-- The ranges of a chart. -/
def chartRanges (chart : String) : List (Nat × Nat) := (chartRows chart).filterMap rowRange?

end RelayFeeds.Text
