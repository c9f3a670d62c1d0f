import RelayFeeds.Host.Joiner.Table
import RelayFeeds.Text.Chart
import RelayFeeds.Text.Composed
import RelayFeeds.Text.Range

/-! # Joiners — where characters without a form of their own may stand

Two characters only tell whether their neighbours are joined in writing. Either may follow a sign
that takes the vowel from a consonant; the one against joining may also stand between letters that
would join. Elsewhere they could not be seen, and names cannot have them. -/

namespace RelayFeeds.Host

/-- Ranges of the letters that join the letter after them. -/
def joinsNextRanges : List (Nat × Nat) := Text.chartRanges joinsNextChart

/-- Ranges of the letters that join the letter before them. -/
def joinsPreviousRanges : List (Nat × Nat) := Text.chartRanges joinsPreviousChart

/-- Ranges of the characters that letters join across. -/
def transparentRanges : List (Nat × Nat) := Text.chartRanges transparentChart

/-- The character against joining. -/
def nonJoiner : Char := '\u200C'

/-- The character for joining. -/
def joiner : Char := '\u200D'

/-- The class of the marks that take the vowel from a consonant. -/
def vowelKillerClass : Nat := 9

/-- Whether the first character that letters do not join across is in some ranges. -/
def leadsInto (ranges : List (Nat × Nat)) (text : List Char) : Bool :=
  match text.dropWhile (fun c => Text.inRanges transparentRanges c.toNat) with
  | [] => false
  | c :: _ => Text.inRanges ranges c.toNat

/-- Whether a joiner may stand between the characters before it, held back to front, and those
after it. -/
def joinerFits (c : Char) (before after : List Char) : Bool :=
  match before with
  | [] => false
  | last :: _ =>
    Text.markClass last.toNat == vowelKillerClass ||
      (c == nonJoiner && leadsInto joinsNextRanges before && leadsInto joinsPreviousRanges after)

/-- Whether each joiner may stand where it does; the characters before, held back to front, are
given first. -/
def joinersFit : List Char → List Char → Bool
  | _, [] => true
  | before, c :: after =>
    (if c == nonJoiner || c == joiner then joinerFits c before after else true) &&
      joinersFit (c :: before) after

end RelayFeeds.Host
