import RelayFeeds.Host.Direction
import RelayFeeds.Host.Label
import RelayFeeds.Text.Percent

/-! # Names — hosts that are called by words

A name is a sequence of labels between dots. Bytes of it may be spelled with percent signs. Some
ASCII characters that mean something else in addresses cannot be in a name, however they come in. -/

namespace RelayFeeds.Host

/-- Whether a character cannot stand in a name. -/
def isForbidden (c : Char) : Bool :=
  c.toNat ≤ 0x20 || c.toNat == 0x7F || "#/:<>?@[\\]^|%".toList.contains c

/-- The labels of the name that a text spells; empty ones are among them. -/
def labels? (text : List Char) : Option (List (List Char)) :=
  match (Text.percentDecoded? text).bind mapped? with
  | none => none
  | some name =>
    if name.any isForbidden then none
    else ((name.splitOn '.').mapM label?).filter directionsFit

end RelayFeeds.Host
