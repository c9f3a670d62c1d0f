import RelayFeeds.Toml.Quote
import RelayFeeds.Toml.Scalar

/-! # Configuration texts — tables built line by line

A text is a sequence of lines: key and value, table header, or header of one more table of a list.
A table is defined once. One that is only named on the way to another may still be defined by a
header later; one that dotted keys make may be extended by further dotted keys, but not by a header
of its own; a value, an inline table among them, is never extended. -/

namespace RelayFeeds.Toml

/-- How a table came to be. -/
inductive Origin where
  /-- By its header. -/
  | header
  /-- On the way to another header. -/
  | implied
  /-- By dotted keys. -/
  | dotted
  deriving DecidableEq

/-- A place of a document under construction. -/
inductive Node where
  /-- A finished value. -/
  | value (value : Value)
  /-- A table. -/
  | table (origin : Origin) (members : List (String × Node))
  /-- A list of tables, the last one first. -/
  | tables (current : List (String × Node)) (earlier : List Value)

instance : Inhabited Node := ⟨.table .implied []⟩

/-- The members of a table under construction. -/
abbrev Members := List (String × Node)

mutual

/-- The value of a place. -/
def Node.toValue : Node → Value
  | .value value => value
  | .table _ members => .table (membersValue members)
  | .tables current earlier => .array ((.table (membersValue current) :: earlier).reverse)

/-- The values of members. -/
def membersValue : List (String × Node) → List (String × Value)
  | [] => []
  | (key, node) :: rest => (key, node.toValue) :: membersValue rest

end

/-- The member of a key. -/
def find? (key : String) : Members → Option Node
  | [] => none
  | (other, node) :: rest => if other = key then some node else find? key rest

/-- Members with that of a key replaced, or added at the end. -/
def replace (key : String) (node : Node) : Members → Members
  | [] => [(key, node)]
  | (other, old) :: rest =>
    if other = key then (key, node) :: rest else (other, old) :: replace key node rest

/-- Members changed in the table at a path of headers; tables on the way are implied, and of a list
of tables the last one counts. -/
def within (change : Members → Option Members) : List String → Members → Option Members
  | [], members => change members
  | key :: path, members =>
    match find? key members with
    | none => (within change path []).map (fun inner => replace key (.table .implied inner) members)
    | some (.table origin inner) =>
      (within change path inner).map (fun inner => replace key (.table origin inner) members)
    | some (.tables current earlier) =>
      (within change path current).map (fun current => replace key (.tables current earlier) members)
    | some (.value _) => none

/-- Members with a value set under a dotted key; `plain` tells that the table at hand may take
it. -/
def setValue (value : Value) (plain : Bool) : List String → Members → Option Members
  | [], _ => none
  | [key], members =>
    if !plain then none
    else
      match find? key members with
      | none => some (replace key (.value value) members)
      | some _ => none
  | key :: path, members =>
    match find? key members with
    | none =>
      (setValue value true path []).map (fun inner => replace key (.table .dotted inner) members)
    -- a table with a header of its own is not reached by dotted keys
    | some (.table .header _) => none
    | some (.table origin inner) =>
      (setValue value (decide (origin = .dotted)) path inner).map
        (fun inner => replace key (.table origin inner) members)
    | some (.tables current earlier) =>
      (setValue value false path current).map
        (fun current => replace key (.tables current earlier) members)
    | some (.value _) => none

/-- Members with a table defined by its header. -/
def defineTable (key : String) (members : Members) : Option Members :=
  match find? key members with
  | none => some (replace key (.table .header []) members)
  | some (.table .implied inner) => some (replace key (.table .header inner) members)
  | some _ => none

/-- Members with one more table of a list begun by its header. -/
def beginTable (key : String) (members : Members) : Option Members :=
  match find? key members with
  | none => some (replace key (.tables [] []) members)
  | some (.tables current earlier) =>
    some (replace key (.tables [] (.table (membersValue current) :: earlier)) members)
  | some _ => none

/-- What follows the comment that leads a text up to its line end. -/
def afterComment? : List Char → Option (List Char)
  | '#' :: rest =>
    let isEnd := fun (c : Char) => c == '\n' || c == '\r'
    let body := rest.takeWhile (fun c => !isEnd c)
    if body.all isPlain then some (rest.dropWhile (fun c => !isEnd c)) else none
  | rest => some rest

/-- What follows blanks, comments and line ends; as many steps as characters suffice. -/
def skipLines? : Nat → List Char → Option (List Char)
  | 0, _ => none
  | steps + 1, text =>
    match skipBlanks text with
    | '#' :: rest =>
      match afterComment? ('#' :: rest) with
      | none => none
      | some rest => skipLines? steps rest
    | rest =>
      match afterNewline? rest with
      | some rest => skipLines? steps rest
      | none => some rest

/-- The deepest nesting of arrays and inline tables. -/
def depthLimit : Nat := 80

mutual

/-- The value that leads a text, and the rest; as many steps as characters, and one, suffice. -/
def readValue? : Nat → Nat → List Char → Option (Value × List Char)
  | 0, _, _ => none
  | steps + 1, depth, text =>
    match text with
    | '"' :: _ | '\'' :: _ => (readText? text).map (fun found => (.string found.1, found.2))
    | '[' :: rest =>
      if depth = 0 then none
      else (readItems? steps (depth - 1) rest).map (fun found => (.array found.1, found.2))
    | '\x7b' :: rest =>
      if depth = 0 then none
      else
        (readEntries? steps (depth - 1) [] rest).map
          (fun found => (.table (membersValue found.1), found.2))
    | _ => readScalar? text

/-- The items of an array from the opening bracket or a comma on, and the rest. -/
def readItems? : Nat → Nat → List Char → Option (List Value × List Char)
  | 0, _, _ => none
  | steps + 1, depth, text =>
    match skipLines? (text.length + 1) text with
    | none => none
    | some (']' :: rest) => some ([], rest)
    | some rest =>
      match readValue? steps depth rest with
      | none => none
      | some (item, rest) =>
        match skipLines? (rest.length + 1) rest with
        | some (']' :: rest) => some ([item], rest)
        | some (',' :: rest) =>
          (readItems? steps depth rest).map (fun found => (item :: found.1, found.2))
        | _ => none

/-- The members of an inline table from the opening brace or a comma on, and the rest. -/
def readEntries? : Nat → Nat → Members → List Char → Option (Members × List Char)
  | 0, _, _, _ => none
  | steps + 1, depth, members, text =>
    match skipLines? (text.length + 1) text with
    | none => none
    | some ('\x7d' :: rest) => some (members, rest)
    | some rest =>
      match readKey? rest with
      | some (key, '=' :: rest) =>
        match readValue? steps depth (skipBlanks rest) with
        | none => none
        | some (value, rest) =>
          match setValue value true key members with
          | none => none
          | some members =>
            match skipLines? (rest.length + 1) rest with
            | some ('\x7d' :: rest) => some (members, rest)
            | some (',' :: rest) => readEntries? steps depth members rest
            | _ => none
      | _ => none

end

/-- What follows a line after its content: blanks, perhaps a comment, and a line end or nothing. -/
def afterLine? (text : List Char) : Option (List Char) :=
  match afterComment? (skipBlanks text) with
  | none => none
  | some [] => some []
  | some rest => afterNewline? rest

/-- A document with what one more line says, the path of the table that keys belong to, and the
rest of the text. -/
def readLine? (root : Members) (path : List String) (text : List Char) :
    Option (Members × List String × List Char) :=
  match text with
  | '[' :: '[' :: rest =>
    match readKey? rest with
    | some (key, ']' :: ']' :: rest) => do
      let root ← within (beginTable (key.getLast?.getD "")) key.dropLast root
      let rest ← afterLine? rest
      some (root, key, rest)
    | _ => none
  | '[' :: rest =>
    match readKey? rest with
    | some (key, ']' :: rest) => do
      let root ← within (defineTable (key.getLast?.getD "")) key.dropLast root
      let rest ← afterLine? rest
      some (root, key, rest)
    | _ => none
  | _ =>
    match readKey? text with
    | some (key, '=' :: rest) => do
      let rest := skipBlanks rest
      let (value, rest) ← readValue? (rest.length + 1) depthLimit rest
      let root ← within (setValue value true key) path root
      let rest ← afterLine? rest
      some (root, path, rest)
    | _ => none

/-- A document with what the lines of a text say; as many steps as characters, and one, suffice. -/
def readLines? : Nat → Members → List String → List Char → Option Members
  | 0, _, _, _ => none
  | steps + 1, root, path, text =>
    match skipLines? (text.length + 1) text with
    | none => none
    | some [] => some root
    | some rest =>
      match readLine? root path rest with
      | none => none
      | some (root, path, rest) => readLines? steps root path rest

/-- The table of a whole text; `none` when it is malformed. -/
def parse? (text : String) : Option Value :=
  let chars := match text.toList with
    | '\uFEFF' :: rest => rest
    | chars => chars
  (readLines? (chars.length + 1) [] [] chars).map (fun root => .table (membersValue root))

end RelayFeeds.Toml
