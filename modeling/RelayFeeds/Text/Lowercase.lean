import RelayFeeds.Text.Range
import RelayFeeds.Text.Lowercase.Table

/-! # Lower case — full lower-casing of a text

Every character has one lower-case counterpart except two: the dotted capital I becomes two
characters, and the capital sigma becomes the final form where it ends a word. A sigma ends a word
when the nearest character before it that is not passed over has case and the nearest one after it
has not. -/

namespace RelayFeeds.Text

/-- Whether a character has case. -/
def isCased (c : Char) : Bool := inRanges casedRanges c.toNat

/-- Whether a character is passed over when case is looked for. -/
def isCaseIgnorable (c : Char) : Bool := inRanges caseIgnorableRanges c.toNat

/-- Whether the first character that is not passed over has case. -/
def casedNext (text : List Char) : Bool :=
  match text.dropWhile isCaseIgnorable with
  | [] => false
  | c :: _ => isCased c

/-- The one counterpart of a character that a table of runs gives. -/
def counterpart (runs : List (Nat × Nat × Nat × Int)) (c : Char) : Char :=
  match runs.find? (fun run =>
      run.1.ble c.toNat && c.toNat.ble run.2.1 && (c.toNat - run.1) % run.2.2.1 == 0) with
  | none => c
  | some run => Char.ofNat (Int.toNat (Int.ofNat c.toNat + run.2.2.2))

/-- The lower-case form of a text whose part before, held back to front, is given first. -/
def lowercaseFrom : List Char → List Char → List Char
  | _, [] => []
  | before, c :: after =>
    let lowered :=
      if c == 'İ' then ['i', '\u0307']
      else if c == 'Σ' then if casedNext before && !casedNext after then ['ς'] else ['σ']
      else [counterpart lowercaseRuns c]
    lowered ++ lowercaseFrom (c :: before) after

/-- The lower-case form of a text. -/
def lowercase (text : List Char) : List Char := lowercaseFrom [] text

/-- Whether a text occurs in another as a contiguous part. -/
def occursIn (part : List Char) : List Char → Bool
  | [] => part.isEmpty
  | c :: rest => part.isPrefixOf (c :: rest) || occursIn part rest

/-- Occurring is being an infix. -/
theorem occursIn_iff {part text : List Char} : occursIn part text = true ↔ part <:+: text := by
  induction text with
  | nil => simp [occursIn]
  | cons c rest ih => simp [occursIn, ih, List.infix_cons_iff]

end RelayFeeds.Text
