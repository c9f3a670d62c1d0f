import RelayFeeds.Number.Double
import RelayFeeds.Ordered.Map

/-! # JSON values — what a document denotes

A number is an integer of at most 64 bits, signed or unsigned, or a double; the two never mix. An
object is the list of its members in the order in which they are written. Where only the denotation
counts, members stand in ascending order of their keys, one a key, as `Json.ofMembers` leaves
them. -/

namespace RelayFeeds

/-- A number of a JSON document. -/
inductive Number where
  /-- A whole number that fits 64 bits, signed or unsigned. -/
  | integer (value : Int) (fits : -0x8000000000000000 ≤ value ∧ value < 0x10000000000000000)
  /-- Any other number. -/
  | double (value : Double)
  deriving DecidableEq

namespace Number

/-- The number of a 64-bit word. -/
def ofUInt64 (n : UInt64) : Number :=
  .integer (Int.ofNat n.toNat) (by
    have h : n.toNat < 18446744073709551616 := n.toNat_lt
    simp only [Int.ofNat_eq_natCast]
    omega)

/-- The number of a 16-bit word. -/
def ofUInt16 (n : UInt16) : Number :=
  .integer (Int.ofNat n.toNat) (by
    have h : n.toNat < 65536 := n.toNat_lt
    simp only [Int.ofNat_eq_natCast]
    omega)

/-- The number of an integer, a double when it does not fit 64 bits. -/
def ofInt (n : Int) : Number :=
  if h : -0x8000000000000000 ≤ n ∧ n < 0x10000000000000000 then .integer n h
  else .double (Double.ofInt n)

end Number

/-- A JSON value. -/
inductive Json where
  /-- The null value. -/
  | null
  /-- A truth value. -/
  | bool (value : Bool)
  /-- A number. -/
  | number (value : Number)
  /-- A text. -/
  | string (value : String)
  /-- A list of values. -/
  | array (items : List Json)
  /-- A list of named values. -/
  | object (members : List (String × Json))

namespace Json

instance : Inhabited Json := ⟨.null⟩

mutual

/-- Equality of values is decidable. -/
def decEq : (a b : Json) → Decidable (a = b)
  | .null, .null => isTrue rfl
  | .bool a, .bool b => if h : a = b then isTrue (h ▸ rfl) else isFalse (fun e => h (by injection e))
  | .number a, .number b =>
    if h : a = b then isTrue (h ▸ rfl) else isFalse (fun e => h (by injection e))
  | .string a, .string b =>
    if h : a = b then isTrue (h ▸ rfl) else isFalse (fun e => h (by injection e))
  | .array a, .array b =>
    match decEqItems a b with
    | isTrue h => isTrue (h ▸ rfl)
    | isFalse h => isFalse (fun e => h (by injection e))
  | .object a, .object b =>
    match decEqMembers a b with
    | isTrue h => isTrue (h ▸ rfl)
    | isFalse h => isFalse (fun e => h (by injection e))
  | .null, .bool _ | .null, .number _ | .null, .string _ | .null, .array _ | .null, .object _
  | .bool _, .null | .bool _, .number _ | .bool _, .string _ | .bool _, .array _
  | .bool _, .object _ | .number _, .null | .number _, .bool _ | .number _, .string _
  | .number _, .array _ | .number _, .object _ | .string _, .null | .string _, .bool _
  | .string _, .number _ | .string _, .array _ | .string _, .object _ | .array _, .null
  | .array _, .bool _ | .array _, .number _ | .array _, .string _ | .array _, .object _
  | .object _, .null | .object _, .bool _ | .object _, .number _ | .object _, .string _
  | .object _, .array _ => isFalse (fun e => by injection e)

/-- Equality of lists of values is decidable. -/
def decEqItems : (as bs : List Json) → Decidable (as = bs)
  | [], [] => isTrue rfl
  | [], _ :: _ => isFalse (fun e => by injection e)
  | _ :: _, [] => isFalse (fun e => by injection e)
  | a :: as, b :: bs =>
    match decEq a b, decEqItems as bs with
    | isTrue h, isTrue t => isTrue (h ▸ t ▸ rfl)
    | isFalse h, _ => isFalse (fun e => h (by injection e))
    | _, isFalse t => isFalse (fun e => t (by injection e))

/-- Equality of lists of members is decidable. -/
def decEqMembers : (as bs : List (String × Json)) → Decidable (as = bs)
  | [], [] => isTrue rfl
  | [], _ :: _ => isFalse (fun e => by injection e)
  | _ :: _, [] => isFalse (fun e => by injection e)
  | (k, a) :: as, (l, b) :: bs =>
    if hk : k = l then
      match decEq a b, decEqMembers as bs with
      | isTrue h, isTrue t => isTrue (hk ▸ h ▸ t ▸ rfl)
      | isFalse h, _ => isFalse (fun e => by
        injection e with e₁ _
        injection e₁ with _ e₂
        exact h e₂)
      | _, isFalse t => isFalse (fun e => t (by injection e))
    else isFalse (fun e => by
      injection e with e₁ _
      injection e₁ with e₂ _
      exact hk e₂)

end

instance : DecidableEq Json := decEq

/-- The array of some texts. -/
def strings (texts : List String) : Json := .array (texts.map .string)

/-- The object of some members in ascending order of their keys, the last value given for a key
counting. -/
def ofMembers (members : List (String × Json)) : Json := .object (SortedMap.ofList members).entries

/-- The value of a member of an object. -/
def member? (key : String) : Json → Option Json
  | .object members => SortedMap.findIn? key members
  | _ => none

/-- The text of a string value. -/
def text? : Json → Option String
  | .string value => some value
  | _ => none

end Json

end RelayFeeds
