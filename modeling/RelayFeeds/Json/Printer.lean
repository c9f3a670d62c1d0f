import RelayFeeds.Json.Basic
import RelayFeeds.Number.Double.Shortest

/-! # JSON text — compact and indented printing

The compact form has no blanks; the indented form puts every item and member on a line of its own,
two blanks deeper than the bracket that encloses it, and leaves empty containers on one line. Both
keep the order in which an object's members stand. A double that is no number is printed as null. -/

namespace RelayFeeds

/-- The decimal text of an integer. -/
def Number.integerText (n : Int) : List Char :=
  if n < 0 then '-' :: Nat.toDigits 10 n.natAbs else Nat.toDigits 10 n.natAbs

/-- The text of a number. -/
def Number.text : Number → List Char
  | .integer value _ => integerText value
  | .double value => if value.isFinite then value.text else "null".toList

namespace Json

/-- One lower-case hexadecimal digit. -/
def hexDigit (n : Nat) : Char := Nat.digitChar (n % 16)

/-- The form of one character inside a string. -/
def escapedChar (c : Char) : List Char :=
  if c == '"' then ['\\', '"']
  else if c == '\\' then ['\\', '\\']
  else if c == '\x08' then ['\\', 'b']
  else if c == '\x0c' then ['\\', 'f']
  else if c == '\n' then ['\\', 'n']
  else if c == '\r' then ['\\', 'r']
  else if c == '\t' then ['\\', 't']
  else if c.toNat < 0x20 then ['\\', 'u', '0', '0', hexDigit (c.toNat / 16), hexDigit c.toNat]
  else [c]

/-- The text of a string value. -/
def stringText (value : String) : List Char :=
  '"' :: value.toList.flatMap escapedChar ++ ['"']

mutual

/-- The compact text of a value. -/
def compact : Json → List Char
  | .null => "null".toList
  | .bool true => "true".toList
  | .bool false => "false".toList
  | .number value => value.text
  | .string value => stringText value
  | .array items => '[' :: compactItems items ++ [']']
  | .object members => '\x7b' :: compactMembers members ++ ['\x7d']

/-- The compact texts of the items of an array, separated by commas. -/
def compactItems : List Json → List Char
  | [] => []
  | [item] => compact item
  | item :: rest => compact item ++ ',' :: compactItems rest

/-- The compact texts of the members of an object, separated by commas. -/
def compactMembers : List (String × Json) → List Char
  | [] => []
  | [(key, value)] => stringText key ++ ':' :: compact value
  | (key, value) :: rest => stringText key ++ ':' :: compact value ++ ',' :: compactMembers rest

end

/-- The compact text of a value as a string. -/
def print (value : Json) : String := String.ofList value.compact

/-- A line end and the indentation of a depth. -/
def newline (depth : Nat) : List Char := '\n' :: List.replicate (2 * depth) ' '

mutual

/-- The indented text of a value that stands at a depth. -/
def indented (depth : Nat) : Json → List Char
  | .array [] => ['[', ']']
  | .array items => '[' :: indentedItems (depth + 1) items ++ newline depth ++ [']']
  | .object [] => ['\x7b', '\x7d']
  | .object members => '\x7b' :: indentedMembers (depth + 1) members ++ newline depth ++ ['\x7d']
  | .null => "null".toList
  | .bool true => "true".toList
  | .bool false => "false".toList
  | .number value => value.text
  | .string value => stringText value

/-- The indented texts of the items of an array. -/
def indentedItems (depth : Nat) : List Json → List Char
  | [] => []
  | [item] => newline depth ++ indented depth item
  | item :: rest => newline depth ++ indented depth item ++ ',' :: indentedItems depth rest

/-- The indented texts of the members of an object. -/
def indentedMembers (depth : Nat) : List (String × Json) → List Char
  | [] => []
  | [(key, value)] => newline depth ++ stringText key ++ ':' :: ' ' :: indented depth value
  | (key, value) :: rest =>
    newline depth ++ stringText key ++ ':' :: ' ' :: indented depth value ++
      ',' :: indentedMembers depth rest

end

/-- The indented text of a value as a string. -/
def pretty (value : Json) : String := String.ofList (value.indented 0)

end Json

end RelayFeeds
