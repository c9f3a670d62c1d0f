/-! # Code point ranges — membership in a table of a character property

A property of characters is tabulated as the list of its inclusive ranges of code points. -/

namespace RelayFeeds.Text

/-- Whether a code point lies in one of some inclusive ranges. -/
def inRanges (ranges : List (Nat × Nat)) (codePoint : Nat) : Bool :=
  ranges.any (fun range => range.1.ble codePoint && codePoint.ble range.2)

end RelayFeeds.Text
