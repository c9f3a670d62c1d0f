import RelayFeeds.Host.Joiner
import RelayFeeds.Host.Label.Table
import RelayFeeds.Host.Mapping
import RelayFeeds.Host.Punycode

/-! # Labels — the parts of host names

A label is given as it is or, behind a mark of four characters, spelled in ASCII. What is spelled
so must be what reading it would give, so every label has one spelling. -/

namespace RelayFeeds.Host

/-- Ranges of the marks. -/
def markRanges : List (Nat × Nat) := Text.chartRanges markChart

/-- Whether a character is a mark. -/
def isMark (c : Char) : Bool :=
  -- no mark is an ASCII character
  0x80 ≤ c.toNat && Text.inRanges markRanges c.toNat

/-- The most characters of a label that is spelled in ASCII. -/
def spelledLimit : Nat := 2000

/-- The most characters of a label that is not all ASCII. -/
def labelLimit : Nat := 1000

/-- Whether a label can be part of a name: it begins with no mark, its joiners may stand where they
do, and it is not too long. -/
def isLabel (label : List Char) : Bool :=
  !(label.head?.any isMark) && joinersFit [] label &&
    (label.all (fun c => c.toNat < 0x80) || label.length ≤ labelLimit)

/-- The label that a text behind the mark of spelled labels stands for. -/
def spelledLabel? (text : List Char) : Option (List Char) :=
  if spelledLimit < text.length || text.getLast?.all (· == '-') then none
  else
    (Punycode.decode? text).filter (fun label => Text.composed label == label && label.all isKept)

/-- The label that a part of a name stands for. -/
def label? (part : List Char) : Option (List Char) :=
  let label := match part with
    | 'x' :: 'n' :: '-' :: '-' :: text => spelledLabel? text
    | _ => some part
  label.filter isLabel

end RelayFeeds.Host
