import RelayFeeds.Json.Printer
import RelayFeeds.Json.Reading
import RelayFeeds.Ordered.Set
import RelayFeeds.Text.Quoted

/-! # Decoding — typed values from JSON values and from readings

A decoder looks at one node of a source at a time. A source is a JSON value, whose members stand in
ascending order of their keys, or the reading of a text, whose members stand as written. Members are
visited in that order and the first fault wins. Kinds of source differ in two answers only: what
items left over in an array mean, and whether a node of the wrong shape where one of several names
is wanted is a fault of syntax, as it is while a text is being read. -/

namespace RelayFeeds

/-- What a decoder finds where it wants something else. -/
inductive Found where
  /-- The null value. -/
  | null
  /-- A truth value. -/
  | bool (value : Bool)
  /-- A number. -/
  | number (value : Number)
  /-- A text. -/
  | string (value : String)
  /-- An array. -/
  | sequence
  /-- An object. -/
  | mapping

/-- Why a source does not decode. -/
inductive DecodeError where
  /-- The text is not JSON. -/
  | notJson
  /-- A node of another type than the wanted one. -/
  | invalidType (found : Found) (wanted : String)
  /-- A node of the right type with a value that is not wanted. -/
  | invalidValue (found : Found) (wanted : String)
  /-- An array with another number of items than the wanted one. -/
  | invalidLength (length : Nat) (wanted : String)
  /-- A required field that is absent. -/
  | missingField (name : String)
  /-- A field that is given twice. -/
  | duplicateField (name : String)
  /-- A name that is none of the known ones. -/
  | unknownVariant (name : String) (known : List String)
  /-- A feed type that tag values cannot become. -/
  | unsupportedTarget (target : List String) (tag : String)

namespace Found

/-- How a found node is described. -/
def describe : Found → String
  | .null => "null"
  | .bool true => "boolean `true`"
  | .bool false => "boolean `false`"
  | .number (.integer value _) => "integer `" ++ String.ofList (Number.integerText value) ++ "`"
  | .number (.double value) => "floating point `" ++ String.ofList value.text ++ "`"
  | .string value => "string " ++ Text.quoted value
  | .sequence => "sequence"
  | .mapping => "map"

end Found

namespace DecodeError

/-- Names as alternatives. -/
def alternatives (known : List String) : String :=
  let quotes := known.map (fun name => "`" ++ name ++ "`")
  match quotes with
  | [one] => one
  | [one, other] => one ++ " or " ++ other
  | _ => "one of " ++ ", ".intercalate quotes

/-- The text of an error, empty where the text itself is at fault. -/
def message : DecodeError → String
  | .notJson => ""
  | .invalidType found wanted => "invalid type: " ++ found.describe ++ ", expected " ++ wanted
  | .invalidValue found wanted => "invalid value: " ++ found.describe ++ ", expected " ++ wanted
  | .invalidLength length wanted =>
    "invalid length " ++ String.ofList (Text.numeral length) ++ ", expected " ++ wanted
  | .missingField name => "missing field `" ++ name ++ "`"
  | .duplicateField name => "duplicate field `" ++ name ++ "`"
  | .unknownVariant name known =>
    "unknown variant `" ++ name ++ "`, expected " ++ alternatives known
  | .unsupportedTarget target tag =>
    "unsupported mapping target " ++ Text.quotedList target ++ " for tag " ++ tag

end DecodeError

/-- One node of a source. -/
inductive Shape (τ : Type) where
  /-- The null value. -/
  | null
  /-- A truth value. -/
  | bool (value : Bool)
  /-- A number. -/
  | number (value : Number)
  /-- A text. -/
  | string (value : String)
  /-- The items of an array, and whether it is closed after them. -/
  | array (items : List τ) (closed : Bool)
  /-- The members of an object, and whether it is closed after them. -/
  | object (members : List (String × τ)) (closed : Bool)
  /-- Nothing that has a value. -/
  | unreadable

/-- Something that can be decoded node by node. -/
class Source (τ : Type) where
  /-- The node at hand. -/
  shape : τ → Shape τ
  /-- The whole value at hand, when all of it has one. -/
  value? : τ → Option Json
  /-- Whether the node at hand can be passed over. -/
  canSkip : τ → Bool
  /-- Whether a text is being read. -/
  streamed : Bool
  /-- The fault of items left over in an array of some length, where that is one. -/
  surplus? : Nat → Option DecodeError

/-- A JSON value is a source whose every node has a value. -/
instance : Source Json where
  shape
    | .null => .null
    | .bool value => .bool value
    | .number value => .number value
    | .string value => .string value
    | .array items => .array items true
    | .object members => .object members true
  value? := some
  canSkip _ := true
  streamed := false
  surplus? length := some (.invalidLength length "fewer elements in array")

/-- A reading is a source that ends where its text stops being JSON. -/
instance : Source Reading where
  shape
    | .null => .null
    | .bool value => .bool value
    | .number value => .number value
    | .string value => .string value
    | .array items ending => .array items (ending == .closed)
    | .object members ending => .object members (ending == .closed)
    | .unreadable => .unreadable
    | .broken => .unreadable
  value? := Reading.value?
  canSkip reading := !reading.stops
  streamed := true
  surplus? _ := some .notJson

/-- A function from the nodes of a source to typed values. -/
abbrev Decoder (τ α : Type) := τ → Except DecodeError α

namespace Decoder

variable {τ α β : Type} [Source τ]

/-- What is found at a node; `none` when it has no value. -/
def found? (node : τ) : Option Found :=
  match Source.shape node with
  | .null => some .null
  | .bool value => some (.bool value)
  | .number value => some (.number value)
  | .string value => some (.string value)
  | .array _ _ => some .sequence
  | .object _ _ => some .mapping
  | .unreadable => none

/-- The error of a node that has another type than the wanted one. -/
def mismatch (wanted : String) (node : τ) : DecodeError :=
  match found? node with
  | some found => .invalidType found wanted
  | none => .notJson

/-- Decodes a text. -/
def string : Decoder τ String := fun node =>
  match Source.shape node with
  | .string value => .ok value
  | _ => .error (mismatch "a string" node)

/-- Decodes a whole number below a bound. -/
def natural (bound : Nat) (wanted : String) : Decoder τ Nat := fun node =>
  match Source.shape node with
  | .number (.integer value fits) =>
    if 0 ≤ value && value < Int.ofNat bound then .ok value.toNat
    else .error (.invalidValue (.number (.integer value fits)) wanted)
  | _ => .error (mismatch wanted node)

/-- Decodes a 16-bit number. -/
def uint16 : Decoder τ UInt16 := fun node =>
  (natural UInt16.size "u16" node).map UInt16.ofNat

/-- Decodes a 64-bit number. -/
def uint64 : Decoder τ UInt64 := fun node =>
  (natural UInt64.size "u64" node).map UInt64.ofNat

/-- Decodes a count. -/
def count : Decoder τ UInt64 := fun node =>
  (natural UInt64.size "usize" node).map UInt64.ofNat

/-- Decodes a double; a whole number is rounded to one. -/
def double : Decoder τ Double := fun node =>
  match Source.shape node with
  | .number (.integer value _) => .ok (Double.ofInt value)
  | .number (.double value) => .ok value
  | _ => .error (mismatch "f64" node)

/-- Decodes null to nothing and any other node to something. -/
def nullable (decode : Decoder τ α) : Decoder τ (Option α) := fun node =>
  match Source.shape node with
  | .null => .ok none
  | _ => (decode node).map some

/-- Decodes items one by one, the first fault winning. -/
def items (decode : Decoder τ α) : List τ → Except DecodeError (List α)
  | [] => .ok []
  | node :: rest =>
    match decode node with
    | .error fault => .error fault
    | .ok value =>
      match items decode rest with
      | .error fault => .error fault
      | .ok values => .ok (value :: values)

/-- Decodes an array of values of one type. -/
def list (decode : Decoder τ α) : Decoder τ (List α) := fun node =>
  match Source.shape node with
  | .array nodes closed =>
    match items decode nodes with
    | .error fault => .error fault
    | .ok values => if closed then .ok values else .error .notJson
  | _ => .error (mismatch "a sequence" node)

/-- Decodes an array as the set of its values. -/
def set [Ordered α] (decode : Decoder τ α) : Decoder τ (SortedSet α) := fun node =>
  (list decode node).map SortedSet.ofList

/-- A value decoded from the leading items of an array, unless the items left over are a fault or
the array does not close. -/
def finish (value : α) (length : Nat) (rest : List τ) (closed : Bool) : Except DecodeError α :=
  match if rest.isEmpty then none else Source.surplus? τ length with
  | some fault => .error fault
  | none => if closed then .ok value else .error .notJson

/-- Decodes an array of two items. -/
def pair (first : Decoder τ α) (second : Decoder τ β) : Decoder τ (α × β) := fun node =>
  let wanted := "a tuple of size 2"
  let short := fun (closed : Bool) (length : Nat) =>
    if closed then DecodeError.invalidLength length wanted else .notJson
  match Source.shape node with
  | .array [] closed => .error (short closed 0)
  | .array [a] closed =>
    match first a with
    | .error fault => .error fault
    | .ok _ => .error (short closed 1)
  | .array (a :: b :: others) closed =>
    match first a with
    | .error fault => .error fault
    | .ok x =>
      match second b with
      | .error fault => .error fault
      | .ok y => finish (x, y) (others.length + 2) others closed
  | _ => .error (mismatch wanted node)

/-- Accepts the null value only. -/
def unit : Decoder τ Unit := fun node =>
  match Source.shape node with
  | .null => .ok ()
  | _ => .error (mismatch "unit" node)

/-- The value of one of several names. -/
def named (names : List (String × α)) (name : String) : Except DecodeError α :=
  match SortedMap.findIn? name names with
  | some value => .ok value
  | none => .error (.unknownVariant name (names.map Prod.fst))

/-- Decodes one of several names, given as a text or as the one key of an object with null. -/
def variant (names : List (String × α)) : Decoder τ α := fun node =>
  match Source.shape node with
  | .string name => named names name
  | .object members closed =>
    if !Source.streamed τ && members.length != 1 then
      .error (.invalidValue .mapping "map with a single key")
    else
      match members with
      | [] => .error .notJson
      | (name, content) :: others =>
        match named names name with
        | .error fault => .error fault
        | .ok value =>
          match unit content with
          | .error fault => .error fault
          | .ok () => if others.isEmpty && closed then .ok value else .error .notJson
  | _ =>
    if Source.streamed τ then .error .notJson else .error (mismatch "string or map" node)

end Decoder

/-- A field of a record: its name, how it is decoded, and what stands for it when it is absent. -/
structure Field (τ α : Type) where
  /-- The key of the field's member. -/
  name : String
  /-- How the member is decoded. -/
  decode : Decoder τ α
  /-- The value of an absent field, when it may be absent. -/
  absent : Option α

/-- How a record is decoded from named members or from items in the order of its fields. -/
structure Record (τ α : Type) where
  /-- The number of fields. -/
  size : Nat
  /-- The fields by name, each with a check of its member. -/
  checks : List (String × Decoder τ Unit)
  /-- The record of some members, the first of a name counting. -/
  ofMembers : List (String × τ) → Except DecodeError α
  /-- The record of some items with the items left over; the error is for an item that is wanting. -/
  ofItems : DecodeError → List τ → Except DecodeError (α × List τ)

namespace Record

variable {τ α β : Type} [Source τ]

/-- The record without fields. -/
def start (value : α) : Record τ α where
  size := 0
  checks := []
  ofMembers _ := .ok value
  ofItems _ items := .ok (value, items)

/-- The value of a field among some members. -/
def fieldOf (field : Field τ α) (members : List (String × τ)) : Except DecodeError α :=
  match SortedMap.findIn? field.name members with
  | some node => field.decode node
  | none =>
    match field.absent with
    | some value => .ok value
    | none => .error (.missingField field.name)

/-- A record with one more field. -/
def field (record : Record τ (α → β)) (field : Field τ α) : Record τ β where
  size := record.size + 1
  checks := record.checks ++ [(field.name, fun node => (field.decode node).map (fun _ => ()))]
  ofMembers members :=
    match record.ofMembers members with
    | .error fault => .error fault
    | .ok make => (fieldOf field members).map make
  ofItems short items :=
    match record.ofItems short items with
    | .error fault => .error fault
    | .ok (make, []) =>
      match field.absent with
      | some value => .ok (make value, [])
      | none => .error short
    | .ok (make, node :: rest) => (field.decode node).map (fun value => (make value, rest))

/-- Visits members in order: a known one must be the first of its name and pass its check, any other
one the check for those. -/
def visit (checks : List (String × Decoder τ Unit)) (other : Decoder τ Unit) :
    List String → List (String × τ) → Except DecodeError Unit
  | _, [] => .ok ()
  | seen, (key, node) :: rest =>
    match SortedMap.findIn? key checks with
    | some check =>
      if seen.contains key then .error (.duplicateField key)
      else
        match check node with
        | .error fault => .error fault
        | .ok () => visit checks other (key :: seen) rest
    | none =>
      match other node with
      | .error fault => .error fault
      | .ok () => visit checks other seen rest

/-- Passes over a member. -/
def skip : Decoder τ Unit := fun node =>
  if Source.canSkip node then .ok () else .error .notJson

/-- The number of fields in words. -/
def sizeText (size : Nat) : String :=
  String.ofList (Text.numeral size) ++ (if size = 1 then " element" else " elements")

/-- Decodes a record of a given name from an object or from an array of its fields in order. -/
def decode (record : Record τ α) (name : String) : Decoder τ α := fun node =>
  let wanted := "struct " ++ name
  match Source.shape node with
  | .object members closed =>
    match visit record.checks skip [] members with
    | .error fault => .error fault
    | .ok () => if closed then record.ofMembers members else .error .notJson
  | .array items closed =>
    let short := if closed then
        DecodeError.invalidLength items.length (wanted ++ " with " ++ sizeText record.size)
      else .notJson
    match record.ofItems short items with
    | .error fault => .error fault
    | .ok (value, rest) => Decoder.finish value items.length rest closed
  | _ => .error (Decoder.mismatch wanted node)

end Record

/-- Decodes the whole of a text, as it is read. -/
def decodeText {α : Type} (decode : Decoder Reading α) (text : String) : Except DecodeError α :=
  let found := Reading.read text.toList
  match decode found.1 with
  | .error fault => .error fault
  | .ok value => if (Reading.skipBlanks found.2).isEmpty then .ok value else .error .notJson

end RelayFeeds
