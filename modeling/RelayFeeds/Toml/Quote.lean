import RelayFeeds.Toml.Basic

/-! # Quoted texts and keys of a configuration text

Basic texts stand in double quotes and know escapes, literal ones in single quotes and do not; both
may span lines when their quotes are tripled. A key is a sequence of parts
between dots, each a bare word or a text on one line. -/

namespace RelayFeeds.Toml

/-- Blanks within a line. -/
def isBlank (c : Char) : Bool := c == ' ' || c == '\t'

/-- A text without the blanks that lead it. -/
def skipBlanks (text : List Char) : List Char := text.dropWhile isBlank

/-- What follows the line end that leads a text. -/
def afterNewline? : List Char → Option (List Char)
  | '\n' :: rest => some rest
  | '\r' :: '\n' :: rest => some rest
  | _ => none

/-- Whether a character may stand for itself in texts and comments. -/
def isPlain (c : Char) : Bool := c == '\t' || (0x20 ≤ c.toNat && c.toNat != 0x7F)

/-- The character of hexadecimal digits, if there is one. -/
def scalarOf? (digits : List Char) : Option Char :=
  let n := Text.hexNumber digits
  if digits.all Text.isHexDigit && (n < 0xD800 || (0xE000 ≤ n && n < 0x110000)) then
    some (Char.ofNat n)
  else none

/-- The character of an escape after its backslash, and the rest. -/
def readEscape? : List Char → Option (Char × List Char)
  | 'b' :: rest => some ('\x08', rest)
  | 't' :: rest => some ('\t', rest)
  | 'n' :: rest => some ('\n', rest)
  | 'f' :: rest => some ('\x0c', rest)
  | 'r' :: rest => some ('\r', rest)
  | 'e' :: rest => some ('\x1b', rest)
  | '"' :: rest => some ('"', rest)
  | '\\' :: rest => some ('\\', rest)
  | 'x' :: a :: b :: rest => (scalarOf? [a, b]).map (·, rest)
  | 'u' :: a :: b :: c :: d :: rest => (scalarOf? [a, b, c, d]).map (·, rest)
  | 'U' :: a :: b :: c :: d :: e :: f :: g :: h :: rest =>
    (scalarOf? [a, b, c, d, e, f, g, h]).map (·, rest)
  | _ => none

/-- A basic text after its opening quote, and the rest; as many steps as characters suffice. -/
def readBasic? : Nat → List Char → Option (List Char × List Char)
  | 0, _ => none
  | _ + 1, [] => none
  | _ + 1, '"' :: rest => some ([], rest)
  | steps + 1, '\\' :: rest =>
    match readEscape? rest with
    | none => none
    | some (c, rest) => (readBasic? steps rest).map (fun found => (c :: found.1, found.2))
  | steps + 1, c :: rest =>
    if isPlain c then (readBasic? steps rest).map (fun found => (c :: found.1, found.2)) else none

/-- A literal text after its opening quote, and the rest. -/
def readLiteral? : List Char → Option (List Char × List Char)
  | [] => none
  | '\'' :: rest => some ([], rest)
  | c :: rest =>
    if isPlain c then (readLiteral? rest).map (fun found => (c :: found.1, found.2)) else none

/-- The quotes before the closing ones of a text over lines, and the rest after them: two more
quotes than the closing three belong to the text. -/
def closing? (quote : Char) (text : List Char) : Option (List Char × List Char) :=
  let run := (text.takeWhile (· == quote)).length
  if run < 3 then none
  else
    let extra := if 5 ≤ run then 2 else run - 3
    some (List.replicate extra quote, text.drop (extra + 3))

/-- A text without the blanks and line ends that lead it. -/
def skipBlankLines : List Char → List Char
  | '\r' :: '\n' :: rest => skipBlankLines rest
  | c :: rest => if isBlank c || c == '\n' then skipBlankLines rest else c :: rest
  | [] => []

/-- Whether a character before some others may stand for itself in a text over lines: line ends may,
and a carriage return before a line feed is kept. -/
def standsInLines (c : Char) (rest : List Char) : Bool :=
  isPlain c || c == '\n' || (c == '\r' && rest.head? == some '\n')

/-- A basic text over lines after its opening quotes, and the rest; as many steps as characters
suffice. -/
def readBasicLines? : Nat → List Char → Option (List Char × List Char)
  | 0, _ => none
  | steps + 1, text =>
    let more := fun (c : Char) (rest : List Char) =>
      (readBasicLines? steps rest).map (fun found => (c :: found.1, found.2))
    match closing? '"' text with
    | some found => some found
    | none =>
      match text with
      | [] => none
      | '\\' :: rest =>
        match afterNewline? (skipBlanks rest) with
        | some rest => readBasicLines? steps (skipBlankLines rest)
        | none =>
          match readEscape? rest with
          | some (c, rest) => more c rest
          | none => none
      | c :: rest => if standsInLines c rest then more c rest else none

/-- A literal text over lines after its opening quotes, and the rest; as many steps as characters
suffice. -/
def readLiteralLines? : Nat → List Char → Option (List Char × List Char)
  | 0, _ => none
  | steps + 1, text =>
    let more := fun (c : Char) (rest : List Char) =>
      (readLiteralLines? steps rest).map (fun found => (c :: found.1, found.2))
    match closing? '\'' text with
    | some found => some found
    | none =>
      match text with
      | [] => none
      | c :: rest => if standsInLines c rest then more c rest else none

/-- A text that may span lines, without the line end right after its opening quotes. -/
def withoutFirstNewline (text : List Char) : List Char := (afterNewline? text).getD text

/-- The text that leads a text in quotes, and the rest. -/
def readText? (text : List Char) : Option (String × List Char) :=
  let found := match text with
    | '"' :: '"' :: '"' :: rest => readBasicLines? (rest.length + 1) (withoutFirstNewline rest)
    | '\'' :: '\'' :: '\'' :: rest =>
      readLiteralLines? (rest.length + 1) (withoutFirstNewline rest)
    | '"' :: rest => readBasic? (rest.length + 1) rest
    | '\'' :: rest => readLiteral? rest
    | _ => none
  found.map (fun found => (String.ofList found.1, found.2))

/-- Whether a character may stand in a bare key. -/
def isBareChar (c : Char) : Bool :=
  ('a' ≤ c && c ≤ 'z') || ('A' ≤ c && c ≤ 'Z') || ('0' ≤ c && c ≤ '9') || c == '_' || c == '-'

/-- The simple key that leads a text, and the rest. -/
def readSimpleKey? (text : List Char) : Option (String × List Char) :=
  match text with
  | '"' :: rest =>
    (readBasic? (rest.length + 1) rest).map (fun found => (String.ofList found.1, found.2))
  | '\'' :: rest => (readLiteral? rest).map (fun found => (String.ofList found.1, found.2))
  | _ =>
    let bare := text.takeWhile isBareChar
    if bare.isEmpty then none else some (String.ofList bare, text.dropWhile isBareChar)

/-- The parts of the key that leads a text, no more of them than a bound, and the rest after the
blanks behind it. -/
def readParts? : Nat → List Char → Option (List String × List Char)
  | 0, _ => none
  | bound + 1, text =>
    match readSimpleKey? (skipBlanks text) with
    | none => none
    | some (part, rest) =>
      match skipBlanks rest with
      | '.' :: rest => (readParts? bound rest).map (fun found => (part :: found.1, found.2))
      | rest => some ([part], rest)

/-- The largest number of parts of a key. -/
def keyLimit : Nat := 80

/-- The parts of the key that leads a text, and the rest after the blanks behind it. -/
def readKey? (text : List Char) : Option (List String × List Char) := readParts? keyLimit text

end RelayFeeds.Toml
