import RelayFeeds.Host.Ipv4

/-! # IPv6 addresses — eight groups of four hexadecimal digits

Leading zeros of a group may be missing. A double colon stands once for one group of zeros or more,
and four decimal bytes may stand for the last two groups. -/

namespace RelayFeeds.Host

/-- The number of 16-bit groups of a part of an IPv6 address, an IPv4 address counting for two where
one may stand; `none` when the part is malformed. -/
def groups? (quadMayEnd : Bool) (text : List Char) : Option Nat :=
  if text.isEmpty then some 0
  else
    let parts := text.splitOn ':'
    let isGroup := fun (part : List Char) =>
      !part.isEmpty && part.length ≤ 4 && part.all Text.isHexDigit
    if parts.all isGroup then some parts.length
    else if quadMayEnd && parts.dropLast.all isGroup &&
        isDottedQuad (parts.getLast?.getD []) then some (parts.length + 1)
    else none

/-- The parts of a text before and after its first double colon. -/
def splitDoubleColon? : List Char → Option (List Char × List Char)
  | ':' :: ':' :: rest => some ([], rest)
  | c :: rest => (splitDoubleColon? rest).map (fun parts => (c :: parts.1, parts.2))
  | [] => none

/-- Whether a text is an IPv6 address: eight groups, or fewer around a double colon. -/
def isIpv6 (text : List Char) : Bool :=
  match splitDoubleColon? text with
  | none => groups? true text == some 8
  | some (before, after) =>
    match groups? false before, groups? true after with
    | some m, some n => m + n ≤ 7
    | _, _ => false

end RelayFeeds.Host
