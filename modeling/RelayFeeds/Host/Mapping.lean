import RelayFeeds.Host.Mapping.Table
import RelayFeeds.Text.Chart
import RelayFeeds.Text.Composed
import RelayFeeds.Text.Range

/-! # Mapping — what a host name is read as

Host names do not tell cases and compatible forms of characters apart: each character is kept, left
out, read as others, or not allowed at all, after Unicode's compatibility processing of
internationalized domain names. The result is brought into composed form. -/

namespace RelayFeeds.Host

/-- Ranges of the characters that host names cannot have. -/
def disallowedRanges : List (Nat × Nat) := Text.chartRanges disallowedChart

/-- Ranges of the characters that are left out. -/
def ignoredRanges : List (Nat × Nat) := Text.chartRanges ignoredChart

/-- Runs of characters that are read as others at the same distance. -/
def replacementRuns : List (List Nat) := Text.chartRows replacementRunChart

/-- Characters and what they are read as. -/
def replacementRows : List (List Nat) := Text.chartRows replacementChart

/-- A letter in lower case; other characters stay. -/
def lowerLetter (c : Char) : Char :=
  if 'A' ≤ c && c ≤ 'Z' then Char.ofNat (c.toNat + 32) else c

/-- What the runs let a code point be read as. -/
def runReplacement? (codePoint : Nat) : Option Nat :=
  replacementRuns.findSome? (fun row =>
    match row with
    | [first, last, step, target] =>
      if first.ble codePoint && codePoint.ble last && (codePoint - first) % step == 0 then
        some (target + (codePoint - first))
      else none
    | _ => none)

/-- What a character is read as; `none` when host names cannot have it. -/
def replacement? (c : Char) : Option (List Char) :=
  if c.toNat < 0x80 then some [lowerLetter c]
  else if Text.inRanges disallowedRanges c.toNat then none
  else if Text.inRanges ignoredRanges c.toNat then some []
  else
    match replacementRows.find? (fun row => row.head? == some c.toNat) with
    | some row => some ((row.drop 1).map Char.ofNat)
    | none => some [((runReplacement? c.toNat).map Char.ofNat).getD c]

/-- Whether a character is kept. -/
def isKept (c : Char) : Bool := replacement? c == some [c]

/-- What a text is read as, in composed form. -/
def mapped? (text : List Char) : Option (List Char) :=
  (text.mapM replacement?).map (fun parts => Text.composed parts.flatten)

end RelayFeeds.Host
