import Mathlib.Data.Option.NAry
import RelayFeeds.Proofs.Json.Arranged
import RelayFeeds.Proofs.Json.Literal

/-! # Printed values and what they denote

The compact text of a value is read piece by piece: a text, a truth value and an integer are found again
as they were, a double as whatever its literal denotes, and a container when it is not nested too deep.
What follows a piece does not matter, so a value has the same meaning wherever it stands in a text.

* **`Json.reread?`** — what the compact text of a value denotes, piece by piece.
* **`reads_compact`** — what the reader finds at the compact text of a value.
* **`Json.parse?_print`** — what the compact text of a value denotes. -/

namespace RelayFeeds

open Json

/-! ### Texts -/

namespace Reading

/-- Four hexadecimal digits stand for the code of a control character. -/
theorem hexNumber_control : ∀ n < 0x20,
    ['0', '0', hexDigit (n / 16), hexDigit n].all Text.isHexDigit = true ∧
      Text.hexNumber ['0', '0', hexDigit (n / 16), hexDigit n] = n := by
  decide

/-- The form of a character is read as its code. -/
theorem readUnits_escapedChar (c : Char) (text : List Char) :
    readUnits (escapedChar c ++ text) =
      (readUnits text).map fun found => (c.toNat :: found.1, found.2) := by
  by_cases hletter : c ∈ ['"', '\\', '\x08', '\x0c', '\n', '\r', '\t']
  · simp only [List.mem_cons, List.not_mem_nil, or_false] at hletter
    rcases hletter with rfl | rfl | rfl | rfl | rfl | rfl | rfl <;> rfl
  · simp only [List.mem_cons, List.not_mem_nil, or_false, not_or] at hletter
    obtain ⟨hquote, hslash, hback, hform, hline, hreturn, htab⟩ := hletter
    simp only [escapedChar, hquote, hslash, hback, hform, hline, hreturn, htab, beq_iff_eq, if_false]
    split_ifs with hcontrol
    · obtain ⟨hdigits, hnumber⟩ := hexNumber_control c.toNat hcontrol
      simp only [List.cons_append, List.nil_append]
      rw [readUnits, if_pos hdigits, hnumber]
    · rw [List.singleton_append, readUnits.eq_5]
      · simp [hcontrol, hslash]
      · exact hquote
      · exact fun _ _ _ _ _ h => absurd h hslash
      · exact fun _ _ h => absurd h hslash

/-- The forms of characters are read as their codes. -/
theorem readUnits_escaped (chars rest : List Char) :
    readUnits (chars.flatMap escapedChar ++ '"' :: rest) = some (chars.map Char.toNat, rest) := by
  induction chars with
  | nil => rfl
  | cons c chars ih =>
    rw [List.flatMap_cons, List.append_assoc, readUnits_escapedChar, ih]
    rfl

/-- The codes of characters are joined to the characters. -/
theorem joinUnits_toNat (chars : List Char) : joinUnits (chars.map Char.toNat) = some chars := by
  induction chars with
  | nil => rfl
  | cons c chars ih =>
    -- no character is half of a surrogate pair
    have hvalid : c.toNat < 0xD800 ∨ 0xDFFF < c.toNat ∧ c.toNat < 0x110000 := c.valid
    rw [List.map_cons, joinUnits.eq_def]
    simp only
    rw [if_neg (by simp; omega), if_neg (by simp; omega), ih]
    simp

/-- **A text is read back.** -/
theorem readString_escaped (value : String) (rest : List Char) :
    readString (value.toList.flatMap escapedChar ++ '"' :: rest) = (.string value, rest) := by
  simp only [readString, readUnits_escaped, joinUnits_toNat, String.ofList_toList]

end Reading

/-! ### What printed values denote -/

/-- What the text of a number denotes. -/
def Number.reread? (value : Number) : Option Json := parse? (Json.number value).print

namespace Json

mutual

/-- What the compact text of a value denotes, piece by piece, when it may enclose so many containers. -/
def reread? : Nat → Json → Option Json
  | _, .null => some .null
  | _, .bool value => some (.bool value)
  | _, .number value => value.reread?
  | _, .string value => some (.string value)
  | 0, .array _ => none
  | depth + 1, .array items => (rereadItems? depth items).map .array
  | 0, .object _ => none
  | depth + 1, .object members => (rereadMembers? depth members).map ofMembers

/-- What the compact texts of the items of an array denote. -/
def rereadItems? : Nat → List Json → Option (List Json)
  | _, [] => some []
  | depth, item :: rest => Option.map₂ List.cons (reread? depth item) (rereadItems? depth rest)

/-- What the compact texts of the members of an object denote. -/
def rereadMembers? : Nat → List (String × Json) → Option (List (String × Json))
  | _, [] => some []
  | depth, (key, value) :: rest =>
    Option.map₂ (fun value values => (key, value) :: values) (reread? depth value)
      (rereadMembers? depth rest)

end

end Json

/-! ### Pieces of a text -/

namespace Reading

/-- What is found where a value stands in front of a remaining text: what the value denotes, and that
remaining text unless nothing more is read. -/
structure Reads (found : Reading × List Char) (value : Option Json) (rest : List Char) : Prop where
  /-- It denotes the value, if any. -/
  value : found.1.value? = value
  /-- The rest is left. -/
  rest : found.1.stops = false → found.2 = rest

/-- What is found where the parts of a container and its bracket stand in front of a remaining text. -/
structure Gathers {α β : Type} (values? : List α → Option β) (found : List α × Ending × List Char)
    (values : Option β) (rest : List Char) : Prop where
  /-- The parts denote the values, if any. -/
  values : (if found.2.1 == .closed then values? found.1 else none) = values
  /-- The rest is left. -/
  rest : found.2.1 ≠ .broken → found.2.2 = rest

/-- A part found in front of others; nothing is looked for behind one where reading stops. -/
def extend {α : Type} (make : Reading → α) (item : Reading × List Char)
    (others : List Char → List α × Ending × List Char) : List α × Ending × List Char :=
  if item.1.stops then ([make item.1], .broken, [])
  else (make item.1 :: (others item.2).1, (others item.2).2)

variable {steps depth : Nat} {text rest : List Char}

/-- Where reading stops there is no value. -/
theorem value?_of_stops {reading : Reading} (h : reading.stops = true) : reading.value? = none := by
  cases reading with
  | broken => rfl
  | array items ending =>
    rw [stops, beq_iff_eq] at h
    rw [value?, h]
    rfl
  | object members ending =>
    rw [stops, beq_iff_eq] at h
    rw [value?, h]
    rfl
  | _ => cases h

/-- Nothing is left of a text that is one value. -/
theorem Reads.value_of_whole {found : Reading × List Char} {value : Option Json}
    (h : Reads found value []) :
    (if (skipBlanks found.2).isEmpty then found.1.value? else none) = value := by
  cases hstops : found.1.stops
  case false =>
    rw [h.rest hstops, h.value]
    rfl
  case true => rw [← h.value, value?_of_stops hstops, ite_self]

/-- The closing bracket ends the parts. -/
theorem gathers_closed {α β : Type} {values? : List α → Option β} :
    Gathers values? ([], .closed, rest) (values? []) rest :=
  ⟨rfl, fun _ => rfl⟩

/-- **One more part in front of others**: there are values when the part has one and the others have
theirs. -/
theorem Reads.extend {α β : Type} {values? : List α → Option (List β)} {make : Reading → α}
    {makeValue : Json → List β → List β} {item : Reading × List Char} {value : Option Json}
    {others : List Char → List α × Ending × List Char} {values : Option (List β)}
    (hcons : ∀ reading parts, values? (make reading :: parts) =
      Option.map₂ makeValue reading.value? (values? parts))
    (hitem : Reads item value text) (hothers : Gathers values? (others text) values rest) :
    Gathers values? (extend make item others) (Option.map₂ makeValue value values) rest := by
  rw [Reading.extend]
  cases hstops : item.1.stops
  case true =>
    have hnone : value = none := by rw [← hitem.value, value?_of_stops hstops]
    rw [hnone, Option.map₂_none_left]
    exact ⟨rfl, fun h => absurd rfl h⟩
  case false =>
    rw [hitem.rest hstops]
    refine ⟨?_, hothers.rest⟩
    rw [← hothers.values, ← hitem.value]
    simp only [Bool.false_eq_true, if_false]
    split
    · exact hcons _ _
    · rw [Option.map₂_none_right]

/-- Items have values when each has one. -/
theorem valueItems?_cons (item : Reading) (rest : List Reading) :
    valueItems? (item :: rest) = Option.map₂ List.cons item.value? (valueItems? rest) := by
  rw [valueItems?]
  cases item.value? <;> cases valueItems? rest <;> rfl

/-- Members have values when each has one. -/
theorem valueMembers?_cons (key : String) (item : Reading) (rest : List (String × Reading)) :
    valueMembers? ((key, item) :: rest) =
      Option.map₂ (fun value values => (key, value) :: values) item.value? (valueMembers? rest) := by
  rw [valueMembers?]
  cases item.value? <;> cases valueMembers? rest <;> rfl

/-! ### Steps of the reader -/

/-- No blanks lead a text that begins with something else. -/
theorem skipBlanks_cons {c : Char} (h : isBlank c = false) (text : List Char) :
    skipBlanks (c :: text) = c :: text := by
  rw [skipBlanks, List.dropWhile_cons_of_neg (by simp [h])]

/-- What begins a number is no blank, no delimiter, and does not begin another value. -/
theorem ne_of_begins_number {c : Char} (h : c = '-' ∨ Text.isDigit c = true) :
    ∀ other ∈ [' ', '\n', '\t', '\r', ',', ']', '"', '[', '\x7b', 'n', 't', 'f'], c ≠ other := by
  have hnone : ∀ other ∈ [' ', '\n', '\t', '\r', ',', ']', '"', '[', '\x7b', 'n', 't', 'f'],
      ¬(other = '-' ∨ Text.isDigit other = true) := by
    simp [Text.isDigit]
  rintro other hmem rfl
  exact hnone c hmem h

/-- A number begins with a sign or a digit. -/
theorem readValue_number {c : Char} (h : c = '-' ∨ Text.isDigit c = true) :
    readValue (steps + 1) depth (c :: text) = readNumber (c :: text) := by
  have hother := ne_of_begins_number h
  simp only [List.forall_mem_cons] at hother
  have hblank : isBlank c = false := by simp [isBlank, hother]
  rw [readValue, skipBlanks_cons hblank]
  simp [hother, h]

/-- The first item of an array. -/
theorem readItems_first {c : Char} (hblank : isBlank c = false) (hc : c ∉ [',', ']']) :
    readItems (steps + 1) depth true (c :: text) =
      extend id (readValue steps depth (c :: text)) (readItems steps depth false) := by
  simp only [List.mem_cons, List.not_mem_nil, or_false, not_or] at hc
  rw [readItems, skipBlanks_cons hblank]
  simp [hc, extend]

/-- An item behind a comma. -/
theorem readItems_comma :
    readItems (steps + 1) depth false (',' :: text) =
      extend id (readValue steps depth text) (readItems steps depth false) := rfl

/-- The first member of an object. -/
theorem readMembers_first (key : String) :
    readMembers (steps + 1) depth true (stringText key ++ ':' :: text) =
      extend (Prod.mk key) (readValue steps depth text) (readMembers steps depth false) := by
  have hkey := readString_escaped key (':' :: text)
  rw [readMembers]
  simp [stringText, skipBlanks_cons, isBlank, hkey, extend]

/-- A member behind a comma. -/
theorem readMembers_comma (key : String) :
    readMembers (steps + 1) depth false (',' :: (stringText key ++ ':' :: text)) =
      extend (Prod.mk key) (readValue steps depth text) (readMembers steps depth false) := by
  have hkey := readString_escaped key (':' :: text)
  rw [readMembers]
  simp [stringText, skipBlanks_cons, isBlank, hkey, extend]

end Reading

/-! ### Numbers -/

namespace Literal

open Reading

variable {steps depth : Nat} {rest : List Char}

/-- A literal begins with a sign or a digit. -/
theorem exists_text_eq_cons (literal : Literal) :
    ∃ c tail, literal.text = c :: tail ∧ (c = '-' ∨ Text.isDigit c = true) := by
  obtain ⟨c, digits, heq, hc⟩ := literal.whole.exists_eq_cons
  rw [text, unsignedText, heq]
  split_ifs
  · exact ⟨'-', _, rfl, Or.inl rfl⟩
  · exact ⟨c, _, rfl, Or.inr hc⟩

/-- **A literal has the same value whatever delimits it.** -/
theorem reads_text (literal : Literal) (h : Delimits rest) :
    Reads (readValue (steps + 1) depth (literal.text ++ rest)) literal.reading.value? rest := by
  obtain ⟨c, tail, heq, hc⟩ := literal.exists_text_eq_cons
  have hread : readValue (steps + 1) depth (literal.text ++ rest) =
      (literal.reading, if literal.isPadded then [] else rest) := by
    rw [heq, List.cons_append, readValue_number hc, ← List.cons_append, ← heq,
      readNumber_text literal h]
  rw [hread]
  refine ⟨rfl, fun hstops => ?_⟩
  cases hpadded : literal.isPadded with
  | false => rfl
  | true =>
    rw [reading, if_pos hpadded] at hstops
    cases hstops

end Literal

namespace Number

open Reading

variable {steps depth : Nat} {rest : List Char}

/-- The text of a number denotes the value that is read from it. -/
theorem reread?_eq {number : Number} {value : Option Json}
    (h : ∀ steps, Reads (readValue (steps + 1) depthLimit (number.text ++ [])) value []) :
    number.reread? = value := by
  have hprint : (Json.number number).print.toList = number.text ++ [] := by
    rw [print, String.toList_ofList, List.append_nil]
    rfl
  rw [reread?, parse?, Reading.read, hprint]
  exact (h _).value_of_whole

/-- A number that is printed as a literal denotes what is found there. -/
theorem reread?_of_literal {number : Number} {literal : Literal}
    (h : number.text = literal.text) : number.reread? = literal.reading.value? :=
  reread?_eq fun _ => h ▸ literal.reads_text delimits_nil

/-- **An integer is read back.** -/
theorem reread?_integer {n : Int} (fits : -0x8000000000000000 ≤ n ∧ n < 0x10000000000000000) :
    (Number.integer n fits).reread? = some (.number (.integer n fits)) := by
  rw [reread?_of_literal (Literal.text_ofInt fits), Literal.reading_ofInt fits]
  rfl

/-- A number without a literal is printed as null. -/
theorem text_of_not_literal {number : Number}
    (h : ¬∃ literal : Literal, number.text = literal.text) : number.text = "null".toList := by
  cases number with
  | integer n fits => exact absurd ⟨.ofInt n, Literal.text_ofInt fits⟩ h
  | double x =>
    cases hfinite : x.isFinite with
    | true => exact absurd (Literal.exists_eq_text hfinite) h
    | false => rw [text, hfinite, if_neg Bool.false_ne_true]

/-- **The text of a number denotes the same whatever delimits it.** -/
theorem reads_text (number : Number) (h : Delimits rest) :
    Reads (readValue (steps + 1) depth (number.text ++ rest)) number.reread? rest := by
  by_cases hliteral : ∃ literal : Literal, number.text = literal.text
  · obtain ⟨literal, htext⟩ := hliteral
    rw [reread?_of_literal htext, htext]
    exact literal.reads_text h
  · have hnull : ∀ steps depth rest,
        Reads (readValue (steps + 1) depth (number.text ++ rest)) (some .null) rest := by
      intro steps depth rest
      rw [text_of_not_literal hliteral]
      exact ⟨rfl, fun _ => rfl⟩
    rw [reread?_eq fun steps => hnull steps _ _]
    exact hnull _ _ _

/-- A number begins with what begins an item. -/
theorem exists_text_eq_cons (number : Number) :
    ∃ c tail, number.text = c :: tail ∧ isBlank c = false ∧ c ∉ [',', ']'] := by
  by_cases hliteral : ∃ literal : Literal, number.text = literal.text
  · obtain ⟨literal, htext⟩ := hliteral
    obtain ⟨c, tail, heq, hc⟩ := literal.exists_text_eq_cons
    refine ⟨c, tail, htext.trans heq, ?_⟩
    have hother := ne_of_begins_number hc
    simp only [List.forall_mem_cons] at hother
    simp [isBlank, hother]
  · rw [text_of_not_literal hliteral]
    exact ⟨'n', _, rfl, rfl, by decide⟩

end Number

/-! ### Values -/

namespace Reading

variable {steps depth : Nat} {text rest : List Char}

/-- A value begins with what begins an item. -/
theorem exists_compact_eq_cons (value : Json) :
    ∃ c tail, compact value = c :: tail ∧ isBlank c = false ∧ c ∉ [',', ']'] := by
  cases value with
  | null => exact ⟨'n', _, rfl, rfl, by decide⟩
  | bool value => cases value <;> exact ⟨_, _, rfl, rfl, by decide⟩
  | number number => exact number.exists_text_eq_cons
  | string value => exact ⟨'"', _, rfl, rfl, by decide⟩
  | array items => exact ⟨'[', _, rfl, rfl, by decide⟩
  | object members => exact ⟨'\x7b', _, rfl, rfl, by decide⟩

/-- What stands behind an item: a comma and further items, or the closing bracket. -/
def behindItem (rest : List Char) : List Json → List Char
  | [] => ']' :: rest
  | items => ',' :: (compactItems items ++ ']' :: rest)

/-- What stands behind a member: a comma and further members, or the closing brace. -/
def behindMember (rest : List Char) : List (String × Json) → List Char
  | [] => '\x7d' :: rest
  | members => ',' :: (compactMembers members ++ '\x7d' :: rest)

/-- Items are an item and what stands behind it. -/
theorem compactItems_cons (item : Json) (items : List Json) :
    compactItems (item :: items) ++ ']' :: rest = compact item ++ behindItem rest items := by
  cases items <;> simp [compactItems, behindItem]

/-- Members are a member and what stands behind it. -/
theorem compactMembers_cons (key : String) (value : Json) (members : List (String × Json)) :
    compactMembers ((key, value) :: members) ++ '\x7d' :: rest =
      stringText key ++ ':' :: (compact value ++ behindMember rest members) := by
  cases members <;> simp [compactMembers, behindMember]

/-- The texts of items are as long as those of the first one and of the others at least. -/
theorem length_compactItems_cons (item : Json) (items : List Json) :
    (compact item).length + (compactItems items).length ≤ (compactItems (item :: items)).length := by
  cases items <;> simp [compactItems]

/-- The texts of members are longer than those of the first value and of the other members. -/
theorem length_compactMembers_cons (key : String) (value : Json) (members : List (String × Json)) :
    (compact value).length + (compactMembers members).length + 1 ≤
      (compactMembers ((key, value) :: members)).length := by
  cases members with
  | nil =>
    simp only [compactMembers, List.length_append, List.length_cons, List.length_nil]
    omega
  | cons member members =>
    simp only [compactMembers, List.length_append, List.length_cons]
    omega

/-- What stands behind an item delimits it. -/
theorem delimits_behindItem (items : List Json) : Delimits (behindItem rest items) := by
  cases items <;> rintro c ⟨⟩ <;> simp

/-- What stands behind a member delimits it. -/
theorem delimits_behindMember (members : List (String × Json)) :
    Delimits (behindMember rest members) := by
  cases members <;> rintro c ⟨⟩ <;> simp

/-- Further items are found like the first ones. -/
theorem gathers_behindItem {items : List Json} {values : Option (List Json)}
    (hnil : items = [] → values = some [])
    (h : Gathers valueItems? (readItems (steps + 1) depth true (compactItems items ++ ']' :: rest))
      values rest) :
    Gathers valueItems? (readItems (steps + 1) depth false (behindItem rest items)) values rest := by
  cases items with
  | nil =>
    rw [hnil rfl]
    exact gathers_closed
  | cons item items =>
    obtain ⟨c, tail, heq, hblank, hc⟩ := exists_compact_eq_cons item
    rw [compactItems_cons, heq, List.cons_append, readItems_first hblank hc] at h
    rwa [behindItem, compactItems_cons, heq, List.cons_append, readItems_comma]
    exact nofun

/-- Further members are found like the first ones. -/
theorem gathers_behindMember {members : List (String × Json)}
    {values : Option (List (String × Json))} (hnil : members = [] → values = some [])
    (h : Gathers valueMembers?
      (readMembers (steps + 1) depth true (compactMembers members ++ '\x7d' :: rest)) values rest) :
    Gathers valueMembers? (readMembers (steps + 1) depth false (behindMember rest members)) values
      rest := by
  cases members with
  | nil =>
    rw [hnil rfl]
    exact gathers_closed
  | cons member members =>
    obtain ⟨key, value⟩ := member
    rw [compactMembers_cons, readMembers_first] at h
    rwa [behindMember, compactMembers_cons, readMembers_comma]
    exact nofun

/-- A kind of container: reading stops at it where its parts broke off, and it has a value when its
bracket is closed and its parts have theirs. -/
structure Encloses {α β : Type} (container : List α → Ending → Reading) (values? : List α → Option β)
    (make : β → Json) : Prop where
  /-- Its value is made of those of its parts. -/
  value : ∀ parts ending, (container parts ending).value? =
    (if ending == .closed then values? parts else none).map make
  /-- It stops where its parts do. -/
  stops : ∀ parts ending, (container parts ending).stops = (ending == .broken)

/-- An array is the array of the values of its items. -/
theorem encloses_array : Encloses .array valueItems? .array where
  value items ending := by
    rw [value?]
    split <;> rfl
  stops _ _ := rfl

/-- An object is the object of the values of its members. -/
theorem encloses_object : Encloses .object valueMembers? ofMembers where
  value members ending := by
    rw [value?]
    split <;> rfl
  stops _ _ := rfl

section

variable {α β : Type} {container : List α → Ending → Reading} {values? : List α → Option β}
  {make : β → Json} {found : List α × Ending × List Char} {values : Option β}

/-- A container that is not nested too deep denotes what is made of the values of its parts. -/
theorem Encloses.reads (hcontainer : Encloses container values? make)
    (h : Gathers values? found values rest) :
    Reads (container found.1 found.2.1, found.2.2) (values.map make) rest where
  value := by rw [hcontainer.value, h.values]
  rest hstops := h.rest (by simpa [hcontainer.stops] using hstops)

/-- A container that is nested too deep denotes nothing. -/
theorem Encloses.reads_tooDeep (hcontainer : Encloses container values? make)
    (h : Gathers values? found values rest) :
    Reads (tooDeep (container []) found.2.1, found.2.2) none rest where
  value := by
    have hopen : ((if found.2.1 == .broken then Ending.broken else .unreadable) == .closed) = false := by
      split <;> rfl
    rw [tooDeep, hcontainer.value, hopen]
    rfl
  rest hstops := h.rest fun hbroken => by simp [tooDeep, hcontainer.stops, hbroken] at hstops

end

mutual

/-- **What the reader finds at the compact text of a value**, with as many steps as the text has
characters. -/
theorem reads_compact : ∀ (value : Json) {steps depth : Nat} {rest : List Char},
    (compact value).length ≤ steps + 1 → Delimits rest →
      Reads (readValue (steps + 1) depth (compact value ++ rest)) (reread? depth value) rest
  | .null, steps, depth, rest, _, _ => ⟨rfl, fun _ => rfl⟩
  | .bool true, steps, depth, rest, _, _ => ⟨rfl, fun _ => rfl⟩
  | .bool false, steps, depth, rest, _, _ => ⟨rfl, fun _ => rfl⟩
  | .number value, steps, depth, rest, _, hrest => value.reads_text hrest
  | .string value, steps, depth, rest, _, _ => by
    have hread : readValue (steps + 1) depth (stringText value ++ rest) = (.string value, rest) := by
      rw [← readString_escaped value rest, stringText]
      simp [readValue, skipBlanks_cons, isBlank]
    exact hread ▸ ⟨rfl, fun _ => rfl⟩
  | .array items, steps, depth, rest, hsteps, _ => by
    have htext : compact (.array items) ++ rest = '[' :: (compactItems items ++ ']' :: rest) := by
      simp [compact]
    simp only [compact, List.length_cons, List.length_append, List.length_nil] at hsteps
    obtain ⟨fuel, rfl⟩ : ∃ fuel, steps = fuel + 1 := ⟨steps - 1, by omega⟩
    rw [htext]
    have hfound : ∀ depth, Gathers valueItems?
        (readItems (fuel + 1) depth true (compactItems items ++ ']' :: rest))
        (rereadItems? depth items) rest :=
      fun _ => gathers_compactItems items (by omega)
    cases depth with
    | zero => exact encloses_array.reads_tooDeep (hfound 0)
    | succ depth => exact encloses_array.reads (hfound depth)
  | .object members, steps, depth, rest, hsteps, _ => by
    have htext : compact (.object members) ++ rest =
        '\x7b' :: (compactMembers members ++ '\x7d' :: rest) := by
      simp [compact]
    simp only [compact, List.length_cons, List.length_append, List.length_nil] at hsteps
    obtain ⟨fuel, rfl⟩ : ∃ fuel, steps = fuel + 1 := ⟨steps - 1, by omega⟩
    rw [htext]
    have hfound : ∀ depth, Gathers valueMembers?
        (readMembers (fuel + 1) depth true (compactMembers members ++ '\x7d' :: rest))
        (rereadMembers? depth members) rest :=
      fun _ => gathers_compactMembers members (by omega)
    cases depth with
    | zero => exact encloses_object.reads_tooDeep (hfound 0)
    | succ depth => exact encloses_object.reads (hfound depth)

/-- What the reader finds at the compact texts of the items of an array. -/
theorem gathers_compactItems : ∀ (items : List Json) {steps depth : Nat} {rest : List Char},
    (compactItems items).length ≤ steps →
      Gathers valueItems? (readItems (steps + 1) depth true (compactItems items ++ ']' :: rest))
        (rereadItems? depth items) rest
  | [], steps, depth, rest, _ => gathers_closed
  | item :: items, steps, depth, rest, hsteps => by
    obtain ⟨c, tail, heq, hblank, hc⟩ := exists_compact_eq_cons item
    have hlength : (compact item).length + (compactItems items).length ≤ steps := by
      have hle := length_compactItems_cons item items
      omega
    have hfirst : (compact item).length = tail.length + 1 := by rw [heq, List.length_cons]
    obtain ⟨fuel, rfl⟩ : ∃ fuel, steps = fuel + 1 := ⟨steps - 1, by omega⟩
    rw [compactItems_cons, heq, List.cons_append, readItems_first hblank hc, ← List.cons_append,
      ← heq, rereadItems?]
    have hitem : Reads (readValue (fuel + 1) depth (compact item ++ behindItem rest items))
        (reread? depth item) (behindItem rest items) :=
      reads_compact item (by omega) (delimits_behindItem items)
    have hothers : Gathers valueItems? (readItems (fuel + 1) depth false (behindItem rest items))
        (rereadItems? depth items) rest :=
      gathers_behindItem (by rintro rfl; rfl) (gathers_compactItems items (by omega))
    exact hitem.extend valueItems?_cons hothers

/-- What the reader finds at the compact texts of the members of an object. -/
theorem gathers_compactMembers : ∀ (members : List (String × Json)) {steps depth : Nat}
    {rest : List Char}, (compactMembers members).length ≤ steps →
      Gathers valueMembers?
        (readMembers (steps + 1) depth true (compactMembers members ++ '\x7d' :: rest))
        (rereadMembers? depth members) rest
  | [], steps, depth, rest, _ => gathers_closed
  | (key, value) :: members, steps, depth, rest, hsteps => by
    have hlength : (compact value).length + (compactMembers members).length + 1 ≤ steps := by
      have hle := length_compactMembers_cons key value members
      omega
    obtain ⟨fuel, rfl⟩ : ∃ fuel, steps = fuel + 1 := ⟨steps - 1, by omega⟩
    rw [compactMembers_cons, readMembers_first, rereadMembers?]
    have hvalue : Reads (readValue (fuel + 1) depth (compact value ++ behindMember rest members))
        (reread? depth value) (behindMember rest members) :=
      reads_compact value (by omega) (delimits_behindMember members)
    have hothers : Gathers valueMembers?
        (readMembers (fuel + 1) depth false (behindMember rest members))
        (rereadMembers? depth members) rest :=
      gathers_behindMember (by rintro rfl; rfl) (gathers_compactMembers members (by omega))
    exact hvalue.extend (valueMembers?_cons key) hothers

end

end Reading

/-- **What the compact text of a value denotes**, piece by piece. -/
theorem Json.parse?_print (value : Json) : parse? value.print = value.reread? Reading.depthLimit := by
  have htext : value.print.toList = value.compact ++ [] := by
    rw [print, String.toList_ofList, List.append_nil]
  rw [parse?, Reading.read, htext]
  exact (Reading.reads_compact value (by simp) Reading.delimits_nil).value_of_whole

end RelayFeeds
