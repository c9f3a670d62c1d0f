import RelayFeeds.Json.Basic
import RelayFeeds.Text.Numeral
import RelayFeeds.Text.Hex

/-! # Readings — what a reader finds in a JSON text, as far as it goes

A reading is the tree of a text with its members in the order written and repeated keys kept. Where
the text stops being JSON the reading stops too, and says so at that place; a decoder that walks the
reading in order therefore meets the same first fault as one that reads the text as it goes. A
token that is well formed and yet has no value (a number above the finite range, half of a surrogate
pair, a container nested too deep) is marked as well: it may be passed over, but not decoded. -/

namespace RelayFeeds

/-- How the items or members of a container end. -/
inductive Ending where
  /-- By the closing bracket. -/
  | closed
  /-- By a well-formed remainder without a value. -/
  | unreadable
  /-- By something that is not JSON. -/
  | broken
  deriving DecidableEq

/-- What a reader finds at a place of a text. -/
inductive Reading where
  /-- The null value. -/
  | null
  /-- A truth value. -/
  | bool (value : Bool)
  /-- A number. -/
  | number (value : Number)
  /-- A text. -/
  | string (value : String)
  /-- The items of an array up to its ending. -/
  | array (items : List Reading) (ending : Ending)
  /-- The members of an object up to its ending. -/
  | object (members : List (String × Reading)) (ending : Ending)
  /-- A well-formed token without a value. -/
  | unreadable
  /-- Something that is not JSON. -/
  | broken

namespace Reading

instance : Inhabited Reading := ⟨.broken⟩

/-- The most containers that may enclose one another. -/
def depthLimit : Nat := 127

/-- Whether the text stops being JSON within this reading. -/
def stops : Reading → Bool
  | .broken => true
  | .array _ ending | .object _ ending => ending == .broken
  | _ => false

/-- The blanks of the format. -/
def isBlank (c : Char) : Bool := c == ' ' || c == '\n' || c == '\t' || c == '\r'

/-- A text without the blanks that lead it. -/
def skipBlanks (text : List Char) : List Char := text.dropWhile isBlank

/-- The rest of a text after a word that must lead it. -/
def afterWord? : List Char → List Char → Option (List Char)
  | [], text => some text
  | _ :: _, [] => none
  | w :: word, c :: text => if w == c then afterWord? word text else none

/-- The reading of a word that stands for a value. -/
def readWord (word : List Char) (value : Reading) (text : List Char) : Reading × List Char :=
  match afterWord? word text with
  | some rest => (value, rest)
  | none => (.broken, [])

/-- A 64-bit number extended by decimal digits as long as it fits, with the digits that do not. -/
def gather (value : Nat) : List Char → Nat × List Char
  | [] => (value, [])
  | d :: digits =>
    let extended := value * 10 + Text.digitValue d
    if extended < UInt64.size then gather extended digits else (value, d :: digits)

/-- The number of a literal, from its sign, its whole digits, its fraction digits and its exponent.
Digits that do not fit 64 bits only count for the exponent before the point, and not at all after
it. -/
def numberOf (negative : Bool) (whole : List Char) (fraction : Option (List Char))
    (exponent : Option Int) : Reading :=
  let leading := gather 0 whole
  let fractionDigits := fraction.getD []
  let all := gather leading.1 fractionDigits
  let used := fractionDigits.length - all.2.length
  -- each whole digit left out is a factor of ten, each fraction digit used a tenth
  let scale := Int.ofNat leading.2.length - Int.ofNat used + exponent.getD 0
  let double := match Double.ofDecimal? negative all.1 scale with
    | some value => Reading.number (.double value)
    | none => .unreadable
  if fraction.isNone && exponent.isNone && leading.2.isEmpty then
    let value := if negative then -Int.ofNat leading.1 else Int.ofNat leading.1
    if negative && leading.1 == 0 then .number (.double (Double.ofMagnitude true 0))
    else if h : -0x8000000000000000 ≤ value ∧ value < 0x10000000000000000 then
      .number (.integer value h)
    else double
  else double

/-- The exponent of a literal, when one is written, and the rest of the text. -/
def readExponent : List Char → Option (Option Int × List Char)
  | c :: text =>
    if c == 'e' || c == 'E' then
      let signed := match text with
        | '+' :: rest => (false, rest)
        | '-' :: rest => (true, rest)
        | rest => (false, rest)
      let digits := signed.2.takeWhile Text.isDigit
      if digits.isEmpty then none
      else
        let value := Int.ofNat (Text.digitsValue digits)
        some (some (if signed.1 then -value else value), signed.2.dropWhile Text.isDigit)
    else some (none, c :: text)
  | [] => some (none, [])

/-- The fraction of a literal, when one is written, and the rest of the text. -/
def readFraction : List Char → Option (Option (List Char) × List Char)
  | '.' :: text =>
    let digits := text.takeWhile Text.isDigit
    if digits.isEmpty then none else some (some digits, text.dropWhile Text.isDigit)
  | text => some (none, text)

/-- The reading of a number. -/
def readNumber (text : List Char) : Reading × List Char :=
  let signed := match text with
    | '-' :: rest => (true, rest)
    | rest => (false, rest)
  let whole := signed.2.takeWhile Text.isDigit
  if whole.isEmpty || (whole.head? == some '0' && whole.length != 1) then (.broken, [])
  else
    match readFraction (signed.2.dropWhile Text.isDigit) with
    | none => (.broken, [])
    | some (fraction, rest) =>
      match readExponent rest with
      | none => (.broken, [])
      | some (exponent, rest) => (numberOf signed.1 whole fraction exponent, rest)

/-- The code unit of a one-letter escape. -/
def escapeUnit? (c : Char) : Option Nat :=
  match c with
  | '"' | '\\' | '/' => some c.toNat
  | 'b' => some 8
  | 'f' => some 12
  | 'n' => some 10
  | 'r' => some 13
  | 't' => some 9
  | _ => none

/-- The code units of a string after its opening quote, and the rest after its closing one; `none`
when it is not a string. A surrogate half stands as its own unit. -/
def readUnits : List Char → Option (List Nat × List Char)
  | [] => none
  | '"' :: text => some ([], text)
  | '\\' :: 'u' :: a :: b :: c :: d :: text =>
    if [a, b, c, d].all Text.isHexDigit then
      (readUnits text).map (fun found => (Text.hexNumber [a, b, c, d] :: found.1, found.2))
    else none
  | '\\' :: c :: text =>
    match escapeUnit? c with
    | some unit => (readUnits text).map (fun found => (unit :: found.1, found.2))
    | none => none
  | c :: text =>
    if c.toNat < 0x20 || c == '\\' then none
    else (readUnits text).map (fun found => (c.toNat :: found.1, found.2))

/-- The characters of code units, with surrogate halves paired; `none` when a half stands alone. -/
def joinUnits : List Nat → Option (List Char)
  | [] => some []
  | high :: rest =>
    if 0xD800 ≤ high && high < 0xDC00 then
      match rest with
      | low :: rest =>
        if 0xDC00 ≤ low && low < 0xE000 then
          (joinUnits rest).map
            (Char.ofNat (0x10000 + (high - 0xD800) * 0x400 + (low - 0xDC00)) :: ·)
        else none
      | [] => none
    else if 0xDC00 ≤ high && high < 0xE000 then none
    else (joinUnits rest).map (Char.ofNat high :: ·)

/-- The reading of a string after its opening quote. -/
def readString (text : List Char) : Reading × List Char :=
  match readUnits text with
  | none => (.broken, [])
  | some (units, rest) =>
    match joinUnits units with
    | some chars => (.string (String.ofList chars), rest)
    | none => (.unreadable, rest)

/-- A container that is nested too deep has no value, yet may be well formed. -/
def tooDeep (container : Ending → Reading) (ending : Ending) : Reading :=
  container (if ending == .broken then .broken else .unreadable)

mutual

/-- The reading of a value that may still enclose some containers, and the rest of the text. Each
step consumes a character, so as many steps as there are characters, and one, suffice. -/
def readValue : Nat → Nat → List Char → Reading × List Char
  | 0, _, _ => (.broken, [])
  | steps + 1, depth, text =>
    match skipBlanks text with
    | [] => (.broken, [])
    | '"' :: rest => readString rest
    | '[' :: rest =>
      let found := readItems steps (depth - 1) true rest
      if depth = 0 then (tooDeep (.array []) found.2.1, found.2.2)
      else (.array found.1 found.2.1, found.2.2)
    | '\x7b' :: rest =>
      let found := readMembers steps (depth - 1) true rest
      if depth = 0 then (tooDeep (.object []) found.2.1, found.2.2)
      else (.object found.1 found.2.1, found.2.2)
    | 'n' :: rest => readWord "ull".toList .null rest
    | 't' :: rest => readWord "rue".toList (.bool true) rest
    | 'f' :: rest => readWord "alse".toList (.bool false) rest
    | c :: rest =>
      if c == '-' || Text.isDigit c then readNumber (c :: rest) else (.broken, [])

/-- The items of an array from the opening bracket or an item on, their ending, and the rest. -/
def readItems : Nat → Nat → Bool → List Char → List Reading × Ending × List Char
  | 0, _, _, _ => ([], .broken, [])
  | steps + 1, depth, first, text =>
    let more := fun (rest : List Char) =>
      let item := readValue steps depth rest
      if item.1.stops then ([item.1], .broken, [])
      else
        let others := readItems steps depth false item.2
        (item.1 :: others.1, others.2)
    match skipBlanks text with
    | ']' :: rest => ([], .closed, rest)
    | ',' :: rest => if first then ([.broken], .broken, []) else more rest
    | rest => if first then more rest else ([], .broken, [])

/-- The members of an object from the opening brace or a member on, their ending, and the rest.
Members from a key without a value on are dropped. -/
def readMembers : Nat → Nat → Bool → List Char → List (String × Reading) × Ending × List Char
  | 0, _, _, _ => ([], .broken, [])
  | steps + 1, depth, first, text =>
    let more := fun (rest : List Char) =>
      match skipBlanks rest with
      | '"' :: rest =>
        match readString rest with
        | (.string key, rest) =>
          match skipBlanks rest with
          | ':' :: rest =>
            let value := readValue steps depth rest
            if value.1.stops then ([(key, value.1)], .broken, [])
            else
              let others := readMembers steps depth false value.2
              ((key, value.1) :: others.1, others.2)
          | _ => ([(key, .broken)], .broken, [])
        | (.unreadable, rest) =>
          match skipBlanks rest with
          | ':' :: rest =>
            let value := readValue steps depth rest
            if value.1.stops then ([], .broken, [])
            else
              let others := readMembers steps depth false value.2
              ([], if others.2.1 == .broken then .broken else .unreadable, others.2.2)
          | _ => ([], .broken, [])
        | _ => ([], .broken, [])
      | _ => ([], .broken, [])
    match skipBlanks text with
    | '\x7d' :: rest => ([], .closed, rest)
    | ',' :: rest => if first then ([], .broken, []) else more rest
    | rest => if first then more rest else ([], .broken, [])

end

mutual

/-- The value that a reading denotes, its objects in ascending order of keys and the last value
given for a key counting; `none` when some part has no value. -/
def value? : Reading → Option Json
  | .null => some .null
  | .bool value => some (.bool value)
  | .number value => some (.number value)
  | .string value => some (.string value)
  | .array items ending =>
    if ending == .closed then (valueItems? items).map .array else none
  | .object members ending =>
    if ending == .closed then (valueMembers? members).map Json.ofMembers else none
  | .unreadable => none
  | .broken => none

/-- The values of the items of an array. -/
def valueItems? : List Reading → Option (List Json)
  | [] => some []
  | item :: rest =>
    match value? item, valueItems? rest with
    | some value, some values => some (value :: values)
    | _, _ => none

/-- The values of the members of an object. -/
def valueMembers? : List (String × Reading) → Option (List (String × Json))
  | [] => some []
  | (key, item) :: rest =>
    match value? item, valueMembers? rest with
    | some value, some values => some ((key, value) :: values)
    | _, _ => none

end

/-- The reading of the value that leads a text, and the rest of the text. -/
def read (text : List Char) : Reading × List Char := readValue (text.length + 1) depthLimit text

end Reading

namespace Json

/-- The value of a whole text; `none` when it is not JSON. -/
def parse? (text : String) : Option Json :=
  let found := Reading.read text.toList
  if (Reading.skipBlanks found.2).isEmpty then found.1.value? else none

end Json

end RelayFeeds
