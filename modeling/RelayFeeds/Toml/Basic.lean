import RelayFeeds.Json.Decode

/-! # TOML values — what a configuration text denotes

Values of a configuration text, decoded by the same decoders as JSON. A whole number may have any
size in the text, but is only decoded when it fits 64 bits; one that fits 128 bits may be passed
over, and so may every finite floating-point number. A value is passed over with all that is in it.
Items left over in an array that stands for a record are not a fault. -/

namespace RelayFeeds.Toml

/-- A value of a configuration text. -/
inductive Value where
  /-- A text. -/
  | string (value : String)
  /-- A whole number. -/
  | integer (value : Int)
  /-- A floating-point number, none when it is beyond the finite range. -/
  | float (value : Option Double)
  /-- A truth value. -/
  | bool (value : Bool)
  /-- A date, a time, or both, as written. -/
  | date (text : String)
  /-- A list of values. -/
  | array (items : List Value)
  /-- A list of named values. -/
  | table (members : List (String × Value))

instance : Inhabited Value := ⟨.bool false⟩

/-- Whether a whole number fits 128 bits, signed or unsigned. -/
def fitsWide (n : Int) : Bool :=
  -0x80000000000000000000000000000000 ≤ n && n < 0x100000000000000000000000000000000

mutual

/-- Whether a value can be passed over: every number in it has its bounds. -/
def Value.canSkip : Value → Bool
  | .integer value => fitsWide value
  | .float value => value.isSome
  | .array items => itemsCanSkip items
  | .table members => membersCanSkip members
  | .string _ | .bool _ | .date _ => true

/-- Whether all items of an array can be passed over. -/
def itemsCanSkip : List Value → Bool
  | [] => true
  | item :: rest => item.canSkip && itemsCanSkip rest

/-- Whether all members of a table can be passed over. -/
def membersCanSkip : List (String × Value) → Bool
  | [] => true
  | (_, value) :: rest => value.canSkip && membersCanSkip rest

end

/-- A configuration value is a source; a date stands as a record of no known field. -/
instance : Source Value where
  shape
    | .string value => .string value
    | .integer value =>
      if h : -0x8000000000000000 ≤ value ∧ value < 0x10000000000000000 then
        .number (.integer value h)
      else .unreadable
    | .float (some value) => .number (.double value)
    | .float none => .unreadable
    | .bool value => .bool value
    | .date text => .object [("date", .string text)] true
    | .array items => .array items true
    | .table members => .object members true
  value? _ := none
  canSkip := Value.canSkip
  streamed := false
  surplus? _ := none

end RelayFeeds.Toml
