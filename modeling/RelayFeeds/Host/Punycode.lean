/-! # Punycode — labels of host names spelled in ASCII

A label with other characters than ASCII ones is spelled by the ASCII ones among them, a dash when
there are any, and a sequence of deltas. Each delta tells how far to go from the last character
inserted to the next one, counting places first and code points second; it is a number of digits to
base 36 whose last digit is told by a threshold, which adapts to the deltas so far. Numbers that do
not fit 32 bits are not read. -/

namespace RelayFeeds.Host.Punycode

/-- The bound of the numbers that are read. -/
def wordBound : Nat := 0x100000000

/-- The value of a digit. -/
def digit? (c : Char) : Option Nat :=
  if 'a' ≤ c && c ≤ 'z' then some (c.toNat - 'a'.toNat)
  else if '0' ≤ c && c ≤ '9' then some (c.toNat - '0'.toNat + 26)
  else none

/-- The threshold below which a digit ends a delta; `place` is 36 times the place of the digit. -/
def threshold (bias place : Nat) : Nat :=
  if place ≤ bias then 1 else if bias + 26 ≤ place then 26 else place - bias

/-- What a delta is scaled to, and 36 times the number of steps. -/
def scaled (delta steps : Nat) : Nat × Nat :=
  if 455 < delta then scaled (delta / 35) (steps + 36) else (delta, steps)
termination_by delta
decreasing_by exact Nat.div_lt_self (by omega) (by omega)

/-- The bias after a delta that led to some length. -/
def adapted (delta length : Nat) (isFirst : Bool) : Nat :=
  let damped := if isFirst then delta / 700 else delta / 2
  let result := scaled (damped + damped / length) 0
  result.2 + 36 * result.1 / (result.1 + 38)

/-- A sum with the delta that leads a text added, and the rest. -/
def addDelta? (bias : Nat) : Nat → Nat → Nat → List Char → Option (Nat × List Char)
  | _, _, _, [] => none
  | place, weight, sum, c :: rest =>
    match digit? c with
    | none => none
    | some digit =>
      if wordBound ≤ sum + digit * weight then none
      else if digit < threshold bias place then some (sum + digit * weight, rest)
      else if wordBound ≤ weight * (36 - threshold bias place) then none
      else
        addDelta? bias (place + 36) (weight * (36 - threshold bias place))
          (sum + digit * weight) rest

/-- A delta has a digit. -/
theorem length_lt_of_addDelta? {bias place weight sum total : Nat} {text rest : List Char}
    (h : addDelta? bias place weight sum text = some (total, rest)) :
    rest.length < text.length := by
  induction text generalizing place weight sum with
  | nil => simp [addDelta?] at h
  | cons c text ih =>
    rw [addDelta?] at h
    split at h
    · simp at h
    · split at h
      · simp at h
      · split at h
        · simp_all
        · split at h
          · simp at h
          · exact Nat.lt_succ_of_lt (ih h)

/-- A label with the characters inserted that deltas tell, from a code point and a place on. -/
def inserted? (bias codePoint place : Nat) (label text : List Char) : Option (List Char) :=
  if text.isEmpty then some label
  else
    match _h : addDelta? bias 36 1 place text with
    | none => none
    | some (sum, rest) =>
      let length := label.length + 1
      let next := codePoint + sum / length
      if next < 0xD800 || (0xE000 ≤ next && next < 0x110000) then
        inserted? (adapted (sum - place) length (place == 0)) next (sum % length + 1)
          (label.insertIdx (sum % length) (Char.ofNat next)) rest
      else none
termination_by text.length
decreasing_by exact length_lt_of_addDelta? ‹_›

/-- The ASCII characters of a label and its deltas, which follow the last dash that something
precedes. -/
def splitDeltas (text : List Char) : List Char × List Char :=
  match text.reverse.dropWhile (· != '-') with
  | [] | [_] => ([], text)
  | _ :: before => (before.reverse, (text.reverse.takeWhile (· != '-')).reverse)

/-- The label that a text in lower case spells. -/
def decode? (text : List Char) : Option (List Char) :=
  let parts := splitDeltas text
  if parts.1.all (fun c => c.toNat < 0x80) then inserted? 72 0x80 0 parts.1 parts.2 else none

end RelayFeeds.Host.Punycode
