import RelayFeeds.Event
import RelayFeeds.Ordered.Set
import RelayFeeds.Text.Blank
import RelayFeeds.Text.Lowercase

/-! # Filters — conjunctions of constraints on events

A filter is a conjunction: an event matches when it meets every constraint that is present. Value
sets are sets proper, so two filters that constrain the same values are equal however they were
built. A tag constraint asks for one tag of its name with a value in its set; several constraints
may be met by different tags. -/

namespace RelayFeeds

/-- A conjunction of constraints on events; an absent constraint allows everything. -/
structure Filter where
  /-- The ids allowed. -/
  ids : Option (SortedSet String) := none
  /-- The authors allowed. -/
  authors : Option (SortedSet String) := none
  /-- The kinds allowed. -/
  kinds : Option (SortedSet UInt16) := none
  /-- The earliest time allowed. -/
  since : Option UInt64 := none
  /-- The latest time allowed. -/
  till : Option UInt64 := none
  /-- The most events to return. -/
  limit : Option UInt64 := none
  /-- Words that must all occur in the text. -/
  search : Option String := none
  /-- The values wanted under tag keys such as `#t`. -/
  tags : SortedMap String (SortedSet String) := SortedMap.empty
  deriving DecidableEq

/-- The filter key of a tag name: a hash is put in front unless one is there. -/
def tagKey (name : String) : String :=
  match name.toList with
  | '#' :: _ => name
  | _ => "#" ++ name

/-- The tag name of a filter key: all leading hashes are dropped. -/
def tagName (key : String) : String := String.ofList (key.toList.dropWhile (· == '#'))

namespace Filter

/-- The filter that every event matches. -/
def all : Filter := {}

instance : Inhabited Filter := ⟨all⟩

/-- Whether a set that may be absent allows a value. -/
def allows {α : Type} [Ordered α] [DecidableEq α] (allowed : Option (SortedSet α)) (a : α) :
    Bool :=
  match allowed with
  | none => true
  | some values => decide (a ∈ values)

/-- Whether a time is not before a bound that may be absent. -/
def notBefore (bound : Option UInt64) (time : UInt64) : Bool :=
  match bound with
  | none => true
  | some bound => bound.toNat.ble time.toNat

/-- Whether a time is not after a bound that may be absent. -/
def notAfter (bound : Option UInt64) (time : UInt64) : Bool :=
  match bound with
  | none => true
  | some bound => time.toNat.ble bound.toNat

/-- Whether every word of a search occurs in a text, case aside. -/
def found (search : Option String) (content : String) : Bool :=
  match search with
  | none => true
  | some search =>
    let lowered := Text.lowercase content.toList
    (Text.words search.toList).all (fun word => Text.occursIn (Text.lowercase word) lowered)

/-- Whether some tag has the name of a key and a first value in a set. -/
def tagged (key : String) (wanted : SortedSet String) (tags : List Tag) : Bool :=
  tags.any (fun tag => tag.name == tagName key &&
    match tag.value? with
    | some value => decide (value ∈ wanted)
    | none => false)

/-- Whether an event meets every constraint. -/
def isMatch (filter : Filter) (event : Event) : Bool :=
  allows filter.ids event.id.text && allows filter.authors event.author.text &&
    allows filter.kinds event.kind && notBefore filter.since event.createdAt &&
    notAfter filter.till event.createdAt && found filter.search event.content &&
    filter.tags.entries.all (fun entry => tagged entry.1 entry.2 event.tags)

/-- Whether some filter of a list matches: a list of filters is a disjunction. -/
def anyMatch (filters : List Filter) (event : Event) : Bool := filters.any (isMatch · event)

/-- Whether a set is present and empty. -/
def isVoid {α : Type} [Ordered α] (allowed : Option (SortedSet α)) : Bool :=
  match allowed with
  | none => false
  | some values => values.isEmpty

/-- Whether a constraint is visibly impossible: an empty set of values or an inverted window. -/
def isUnsatisfiable (filter : Filter) : Bool :=
  isVoid filter.ids || isVoid filter.authors || isVoid filter.kinds ||
    filter.tags.values.any SortedSet.isEmpty ||
    match filter.since, filter.till with
    | some since, some till => till.toNat.blt since.toNat
    | _, _ => false

/-- The filter with its tag constraint for a name replaced. -/
def withTag (filter : Filter) (name : String) (values : List String) : Filter :=
  { filter with tags := filter.tags.insert (tagKey name) (SortedSet.ofList values) }

/-- Order of lists, member by member, the shorter first when one begins the other. -/
def compareLists {α : Type} (compare : α → α → Ordering) : List α → List α → Ordering
  | [], [] => .eq
  | [], _ :: _ => .lt
  | _ :: _, [] => .gt
  | a :: as, b :: bs => (compare a b).then (compareLists compare as bs)

/-- Order of constraints that may be absent, the absent one first. -/
def compareOptions {α : Type} (compare : α → α → Ordering) : Option α → Option α → Ordering
  | none, none => .eq
  | none, some _ => .lt
  | some _, none => .gt
  | some a, some b => compare a b

/-- Order of 64-bit numbers. -/
def compareNumbers (a b : UInt64) : Ordering :=
  if a.toNat.blt b.toNat then .lt else if b.toNat.blt a.toNat then .gt else .eq

/-- Order of value sets. -/
def compareSets {α : Type} [Ordered α] (s t : SortedSet α) : Ordering :=
  compareLists Ordered.compare s.toList t.toList

/-- Order of filters, constraint by constraint. -/
def compare (a b : Filter) : Ordering :=
  (compareOptions compareSets a.ids b.ids).then <|
  (compareOptions compareSets a.authors b.authors).then <|
  (compareOptions compareSets a.kinds b.kinds).then <|
  (compareOptions compareNumbers a.since b.since).then <|
  (compareOptions compareNumbers a.till b.till).then <|
  (compareOptions compareNumbers a.limit b.limit).then <|
  (compareOptions Ordered.compare a.search b.search).then <|
  compareLists (fun x y => (Ordered.compare x.1 y.1).then (compareSets x.2 y.2))
    a.tags.entries b.tags.entries

end Filter

end RelayFeeds
