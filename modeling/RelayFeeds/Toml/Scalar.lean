import RelayFeeds.Toml.Basic

/-! # Scalars — numbers, truth values and dates of a configuration text

A scalar is one unbroken word, but for a date and a time that a blank may separate. Underscores may
stand between digits. -/

namespace RelayFeeds.Toml

/-- The digits of a word in which single underscores may stand between digits; `none` when it is
malformed. -/
def ungrouped? (isDigit : Char → Bool) : List Char → Option (List Char)
  | [] => none
  | [c] => if isDigit c then some [c] else none
  | c :: '_' :: rest => if isDigit c then (ungrouped? isDigit rest).map (c :: ·) else none
  | c :: rest => if isDigit c then (ungrouped? isDigit rest).map (c :: ·) else none

/-- The digits of a decimal whole number, which leads with a zero only when it is zero. -/
def decimalDigits? (word : List Char) : Option (List Char) :=
  match ungrouped? Text.isDigit word with
  | some ['0'] => some ['0']
  | some ('0' :: _) => none
  | other => other

/-- A word without its sign, and whether that is a minus. -/
def unsigned : List Char → Bool × List Char
  | '+' :: rest => (false, rest)
  | '-' :: rest => (true, rest)
  | rest => (false, rest)

/-- The number of digits to a base of at most 16. -/
def numberTo (base : Nat) (digits : List Char) : Int :=
  Int.ofNat (digits.foldl (fun n c => n * base + Text.hexValue c) 0)

/-- The whole number that a word spells. -/
def integer? (word : List Char) : Option Int :=
  match word with
  | '0' :: 'x' :: digits => (ungrouped? Text.isHexDigit digits).map (numberTo 16)
  | '0' :: 'o' :: digits => (ungrouped? (fun c => '0' ≤ c && c ≤ '7') digits).map (numberTo 8)
  | '0' :: 'b' :: digits => (ungrouped? (fun c => c == '0' || c == '1') digits).map (numberTo 2)
  | _ =>
    let signed := unsigned word
    (decimalDigits? signed.2).map (fun digits =>
      if signed.1 then -numberTo 10 digits else numberTo 10 digits)

/-- The floating-point number of its sign and digits; `none` above the finite range. -/
def floatOf? (negative : Bool) (whole fraction exponent : List Char) (down : Bool) :
    Option Double :=
  let power := Int.ofNat (Text.digitsValue exponent)
  let scale := (if down then -power else power) - Int.ofNat fraction.length
  Double.nearestDecimal? negative (Text.digitsValue (whole ++ fraction)) scale

/-- The floating-point number that a word spells, none within when it is above the finite range. -/
def float? (word : List Char) : Option (Option Double) :=
  let signed := unsigned word
  if signed.2 == "inf".toList then
    some (some (Double.ofMagnitude signed.1 Double.infiniteMagnitude))
  else if signed.2 == "nan".toList then some (some Double.nan)
  else
    let isMark := fun (c : Char) => c == 'e' || c == 'E'
    let mantissa := signed.2.takeWhile (fun c => !isMark c)
    let whole := mantissa.takeWhile (· != '.')
    let fraction := (mantissa.dropWhile (· != '.')).drop 1
    let hasPoint := mantissa.contains '.'
    match decimalDigits? whole,
      (if hasPoint then ungrouped? Text.isDigit fraction else some []),
      signed.2.dropWhile (fun c => !isMark c) with
    | some whole, some fraction, [] =>
      if hasPoint then some (floatOf? signed.1 whole fraction [] false) else none
    | some whole, some fraction, _ :: exponent =>
      let power := unsigned exponent
      match ungrouped? Text.isDigit power.2 with
      | some digits => some (floatOf? signed.1 whole fraction digits power.1)
      | none => none
    | _, _, _ => none

/-- Whether a year is a leap year. -/
def isLeap (year : Nat) : Bool := year % 4 == 0 && (year % 100 != 0 || year % 400 == 0)

/-- The number of days of a month. -/
def daysOf (year month : Nat) : Nat :=
  if month == 2 then if isLeap year then 29 else 28
  else if [4, 6, 9, 11].contains month then 30
  else 31

/-- Whether a word is a date. -/
def isDate : List Char → Bool
  | [y₁, y₂, y₃, y₄, '-', m₁, m₂, '-', d₁, d₂] =>
    let year := Text.digitsValue [y₁, y₂, y₃, y₄]
    let month := Text.digitsValue [m₁, m₂]
    let day := Text.digitsValue [d₁, d₂]
    [y₁, y₂, y₃, y₄, m₁, m₂, d₁, d₂].all Text.isDigit && 1 ≤ month && month ≤ 12 &&
      1 ≤ day && day ≤ daysOf year month
  | _ => false

/-- Whether two digits are a number up to a bound. -/
def isField (bound : Nat) (a b : Char) : Bool :=
  Text.isDigit a && Text.isDigit b && Text.digitsValue [a, b] ≤ bound

/-- What follows a time of day that leads a word; the seconds may be missing. -/
def afterTime? : List Char → Option (List Char)
  | h₁ :: h₂ :: ':' :: m₁ :: m₂ :: rest =>
    if isField 23 h₁ h₂ && isField 59 m₁ m₂ then
      match rest with
      | ':' :: s₁ :: s₂ :: rest =>
        if isField 60 s₁ s₂ then
          match rest with
          | '.' :: f :: rest =>
            if Text.isDigit f then some (rest.dropWhile Text.isDigit) else none
          | _ => some rest
        else none
      | _ => some rest
    else none
  | _ => none

/-- Whether a word is an offset of local time. -/
def isOffset : List Char → Bool
  | ['Z'] | ['z'] => true
  | [sign, h₁, h₂, ':', m₁, m₂] =>
    (sign == '+' || sign == '-') && isField 23 h₁ h₂ && isField 59 m₁ m₂
  | _ => false

/-- Whether a word is a date, a time of day, or both with or without an offset. -/
def isMoment (word : List Char) : Bool :=
  if afterTime? word == some [] then true
  else
    let date := word.take 10
    isDate date &&
      match word.drop 10 with
      | [] => true
      | mark :: time =>
        (mark == 'T' || mark == 't' || mark == ' ') &&
          match afterTime? time with
          | none => false
          | some [] => true
          | some offset => isOffset offset

/-- The value that a word spells. -/
def scalar? (word : List Char) : Option Value :=
  if word == "true".toList then some (.bool true)
  else if word == "false".toList then some (.bool false)
  else
    match integer? word with
    | some n => some (.integer n)
    | none =>
      match float? word with
      | some x => some (.float x)
      | none => if isMoment word then some (.date (String.ofList word)) else none

/-- Whether a character may stand in a scalar. -/
def isWordChar (c : Char) : Bool :=
  Text.isDigit c || ('a' ≤ c && c ≤ 'z') || ('A' ≤ c && c ≤ 'Z') || c == '+' || c == '-' ||
    c == '_' || c == '.' || c == ':'

/-- The scalar that leads a text, and the rest. -/
def readScalar? (text : List Char) : Option (Value × List Char) :=
  let word := text.takeWhile isWordChar
  let rest := text.dropWhile isWordChar
  let joined := match rest with
    | ' ' :: d :: _ =>
      if isDate word && Text.isDigit d then
        (word ++ ' ' :: (rest.drop 1).takeWhile isWordChar,
          (rest.drop 1).dropWhile isWordChar)
      else (word, rest)
    | _ => (word, rest)
  (scalar? joined.1).map (·, joined.2)

end RelayFeeds.Toml
