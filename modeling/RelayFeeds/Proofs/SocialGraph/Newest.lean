import Mathlib.Data.List.Induction
import RelayFeeds.Proofs.Filter.Assignment
import RelayFeeds.Proofs.SocialGraph.Trust

/-! # The newest list wins

Taking an event in keeps, for its author and kind, the list of the newest event and of the last one
among those equally new. Which events were taken in together makes no difference, and where no two
lists of an author are equally new neither does their order nor how often they come.

* **`IsNewest`** — the last of the newest of some events, of which there is one.
* **`Remembers.takeIn`**, **`remembers_foldl_takeIn`** — taking in an event, and so any run of them,
  leaves each author's list as that of the newest event.
* **`delivered_eq_ingestAll`** — deliveries add up to one that brings all their events.
* **`ingestAll_eq_of_mem_iff`** — the same events leave the same graph in any order.
* **`newest_list_wins`** — what the lists are after any deliveries, and what they depend on. -/

namespace RelayFeeds.SocialGraph

/-! ### The newest event -/

/-- The newest of some events, the last one counting among those equally new. -/
structure IsNewest (events : List Event) (event : Event) : Prop where
  /-- No event is newer. -/
  le : ∀ other ∈ events, other.createdAt ≤ event.createdAt
  /-- It is the last of those equally new. -/
  last : (events.filter (fun other => decide (other.createdAt = event.createdAt))).getLast? =
    some event

section

variable {events : List Event} {event other : Event}

/-- The newest event is one of the events. -/
theorem IsNewest.mem (h : IsNewest events event) : event ∈ events :=
  (List.mem_filter.mp (List.mem_of_getLast? h.last)).1

/-- **There is one newest event.** -/
theorem IsNewest.eq (h : IsNewest events event) (hother : IsNewest events other) :
    event = other := by
  have htime : event.createdAt = other.createdAt :=
    UInt64.le_antisymm (hother.le event h.mem) (h.le other hother.mem)
  have hlast := h.last
  rw [htime, hother.last] at hlast
  exact (Option.some.inj hlast).symm

/-- A single event is the newest, however often it comes. -/
theorem isNewest_of_forall_eq (hmem : event ∈ events) (h : ∀ other ∈ events, other = event) :
    IsNewest events event where
  le other hother := by
    rw [h other hother]
    exact UInt64.le_refl _
  last := by
    have hall : events.filter (fun other => decide (other.createdAt = event.createdAt)) = events :=
      List.filter_eq_self.mpr fun other hother => by simp [h other hother]
    rw [hall]
    cases hlast : events.getLast? with
    | none =>
      rw [List.getLast?_eq_none_iff.mp hlast] at hmem
      exact absurd hmem List.not_mem_nil
    | some last => rw [h last (List.mem_of_getLast? hlast)]

/-- A last event than which none is newer is the newest. -/
theorem isNewest_concat (h : ∀ other ∈ events, other.createdAt ≤ event.createdAt) :
    IsNewest (events ++ [event]) event where
  le other hother := by
    obtain hmem | hmem := List.mem_append.mp hother
    · exact h other hmem
    · rw [List.mem_singleton.mp hmem]
      exact UInt64.le_refl _
  last := by simp

/-- The newest event stays so when an older one comes. -/
theorem IsNewest.concat (h : IsNewest events event) (hlt : other.createdAt < event.createdAt) :
    IsNewest (events ++ [other]) event where
  le later hlater := by
    obtain hmem | hmem := List.mem_append.mp hlater
    · exact h.le later hmem
    · rw [List.mem_singleton.mp hmem]
      exact UInt64.le_of_lt hlt
  last := by
    have hne : ¬other.createdAt = event.createdAt := UInt64.ne_of_lt hlt
    rw [List.filter_append, List.filter_cons_of_neg (by simpa using hne), List.filter_nil,
      List.append_nil, h.last]

end

/-! ### The list of an author -/

/-- The list that an event publishes. -/
def published (event : Event) : KeyList := ⟨event.createdAt, namedKeys event⟩

/-- What is known after some events of one author: no list without events, else that of the newest. -/
def Remembers (events : List Event) : Option KeyList → Prop
  | none => events = []
  | some list => ∃ event, IsNewest events event ∧ list = published event

/-- The keys that an event names are those that it carries under `p`. -/
theorem mem_namedKeys {event : Event} {key : String} :
    key ∈ namedKeys event ↔ event.Carries "p" key := by
  simp only [namedKeys, SortedSet.mem_ofList, List.mem_filterMap, Option.ite_none_right_eq_some,
    Event.Carries]

section

variable {lists : SortedMap String KeyList} {author key : String} {event : Event}
  {events : List Event}

/-- An event that is older than the list known of its author changes nothing; any other one sets that
list. -/
theorem takeIn_cases (lists : SortedMap String KeyList) (event : Event) :
    (∃ known, lists.find? event.author.text = some known ∧ event.createdAt < known.createdAt ∧
      takeIn lists event = lists) ∨
    ((∀ known, lists.find? event.author.text = some known → known.createdAt ≤ event.createdAt) ∧
      takeIn lists event = lists.insert event.author.text (published event)) := by
  rw [takeIn]
  cases hknown : lists.find? event.author.text with
  | none => exact Or.inr ⟨fun _ h => absurd h (by simp), rfl⟩
  | some known =>
    by_cases hstale : event.createdAt.toNat < known.createdAt.toNat
    · exact Or.inl ⟨known, rfl, UInt64.lt_iff_toNat_lt.mpr hstale, if_pos hstale⟩
    · refine Or.inr ⟨?_, if_neg hstale⟩
      rintro _ ⟨⟩
      exact UInt64.le_iff_toNat_le.mpr (not_lt.mp hstale)

/-- An event changes no list but its author's. -/
theorem find?_takeIn_of_ne (h : author ≠ event.author.text) :
    (takeIn lists event).find? author = lists.find? author := by
  obtain ⟨-, -, -, htake⟩ | ⟨-, htake⟩ := takeIn_cases lists event
  · rw [htake]
  · rw [htake, SortedMap.find?_insert, if_neg h]

/-- **Taking in an event leaves its author's list as that of the newest event.** -/
theorem Remembers.takeIn (h : Remembers events (lists.find? event.author.text)) :
    Remembers (events ++ [event]) ((takeIn lists event).find? event.author.text) := by
  obtain ⟨known, hknown, hstale, htake⟩ | ⟨hfresh, htake⟩ := takeIn_cases lists event
  · rw [hknown] at h
    obtain ⟨newest, hnewest, rfl⟩ := h
    rw [htake, hknown]
    exact ⟨newest, hnewest.concat hstale, rfl⟩
  · rw [htake, SortedMap.find?_insert, if_pos rfl]
    refine ⟨event, isNewest_concat fun other hother => ?_, rfl⟩
    cases hknown : lists.find? event.author.text with
    | none =>
      rw [hknown] at h
      rw [h] at hother
      exact absurd hother List.not_mem_nil
    | some known =>
      rw [hknown] at h
      obtain ⟨newest, hnewest, rfl⟩ := h
      exact UInt64.le_trans (hnewest.le other hother) (hfresh _ hknown)

/-- **Any run of events leaves an author's list as that of the newest event of the author.** -/
theorem remembers_foldl_takeIn (events : List Event) (author : String) :
    Remembers (events.filter (fun event => decide (event.author.text = author)))
      ((events.foldl takeIn SortedMap.empty).find? author) := by
  induction events using List.reverseRecOn with
  | nil => rfl
  | append_singleton events event ih =>
    rw [List.foldl_append, List.foldl_cons, List.foldl_nil, List.filter_append]
    by_cases hauthor : event.author.text = author
    · subst hauthor
      simpa using ih.takeIn
    · rw [find?_takeIn_of_ne (Ne.symm hauthor)]
      simpa [hauthor] using ih

/-- An author's list has the keys that the newest event names. -/
theorem Remembers.mem_keysOf (h : Remembers events (lists.find? author)) :
    key ∈ keysOf lists author ↔ ∃ event, IsNewest events event ∧ event.Carries "p" key := by
  rw [keysOf]
  cases hknown : lists.find? author with
  | none =>
    rw [hknown] at h
    refine iff_of_false (SortedSet.not_mem_empty key) ?_
    rintro ⟨event, hnewest, -⟩
    have hmem := hnewest.mem
    rw [h] at hmem
    exact absurd hmem List.not_mem_nil
  | some known =>
    rw [hknown] at h
    obtain ⟨newest, hnewest, rfl⟩ := h
    constructor
    · intro hkey
      exact ⟨newest, hnewest, mem_namedKeys.mp hkey⟩
    · rintro ⟨event, hevent, hcarries⟩
      rw [hnewest.eq hevent]
      exact mem_namedKeys.mpr hcarries

/-- Where no two events are equally new, what is known after them does not depend on their order nor
on how often they come. -/
theorem Remembers.eq_of_mem_iff {others : List Event} {known known' : Option KeyList}
    (h : Remembers events known) (h' : Remembers others known')
    (hmem : ∀ event, event ∈ events ↔ event ∈ others)
    (huntied : ∀ a ∈ events, ∀ b ∈ events, a.createdAt = b.createdAt → a = b) :
    known = known' := by
  cases known with
  | none =>
    cases known' with
    | none => rfl
    | some list =>
      obtain ⟨newest, hnewest, -⟩ := h'
      have hmem := (hmem newest).mpr hnewest.mem
      rw [h] at hmem
      exact absurd hmem List.not_mem_nil
  | some list =>
    obtain ⟨newest, hnewest, rfl⟩ := h
    cases known' with
    | none =>
      have hmem := (hmem newest).mp hnewest.mem
      rw [h'] at hmem
      exact absurd hmem List.not_mem_nil
    | some list' =>
      obtain ⟨newest', hnewest', rfl⟩ := h'
      have hmem' := (hmem newest').mpr hnewest'.mem
      -- each of the two is no newer than the other
      have htime : newest.createdAt = newest'.createdAt :=
        UInt64.le_antisymm (hnewest'.le newest ((hmem newest).mp hnewest.mem))
          (hnewest.le newest' hmem')
      rw [huntied newest hnewest.mem newest' hmem' htime]

end

/-! ### The lists of a graph -/

/-- The events of a kind by an author. -/
def listsBy (kind : UInt16) (author : String) (events : List Event) : List Event :=
  events.filter (fun event => decide (event.kind = kind) && decide (event.author.text = author))

/-- An event of a kind by an author. -/
theorem mem_listsBy {kind : UInt16} {author : String} {events : List Event} {event : Event} :
    event ∈ listsBy kind author events ↔
      event ∈ events ∧ event.kind = kind ∧ event.author.text = author := by
  rw [listsBy, List.mem_filter, Bool.and_eq_true, decide_eq_true_eq, decide_eq_true_eq]

/-- The newest event of a kind by an author names a key. -/
def NewestNames (kind : UInt16) (author : String) (events : List Event) (key : String) : Prop :=
  ∃ event, IsNewest (listsBy kind author events) event ∧ event.Carries "p" key

section

variable (graph : SocialGraph) (events : List Event)

/-- A part of a graph that takes in the events of one kind takes in those of a run. -/
theorem foldl_receive_part (kind : UInt16) (part : SocialGraph → SortedMap String KeyList)
    (hpart : ∀ (graph : SocialGraph) (event : Event), part (graph.receive event) =
      if event.kind = kind then takeIn (part graph) event else part graph) :
    part (events.foldl receive graph) =
      (events.filter (fun event => decide (event.kind = kind))).foldl takeIn (part graph) := by
  induction events generalizing graph with
  | nil => rfl
  | cons event rest ih =>
    rw [List.foldl_cons, ih, hpart, List.filter_cons]
    by_cases hkind : event.kind = kind <;> simp [hkind]

/-- The follow lists take in the events of their kind. -/
theorem followLists_ingestAll : (graph.ingestAll events).followLists =
    (events.filter (fun event => decide (event.kind = followKind))).foldl takeIn
      graph.followLists := by
  refine foldl_receive_part graph events followKind followLists fun graph event => ?_
  rw [receive]
  by_cases hfollow : event.kind = followKind
  · rw [if_pos hfollow, if_pos hfollow]
  · rw [if_neg hfollow, if_neg hfollow]
    split_ifs <;> rfl

/-- The mute lists take in the events of their kind. -/
theorem muteLists_ingestAll : (graph.ingestAll events).muteLists =
    (events.filter (fun event => decide (event.kind = muteKind))).foldl takeIn
      graph.muteLists := by
  refine foldl_receive_part graph events muteKind muteLists fun graph event => ?_
  rw [receive]
  by_cases hfollow : event.kind = followKind
  · have hmute : event.kind ≠ muteKind := by
      rw [hfollow]
      decide
    rw [if_pos hfollow, if_neg hmute]
  · rw [if_neg hfollow]
    split_ifs <;> rfl

/-- Of the events of a kind, an author's list is that of the newest one. -/
theorem remembers_listsBy (kind : UInt16) (author : String) :
    Remembers (listsBy kind author events)
      (((events.filter (fun event => decide (event.kind = kind))).foldl takeIn
        SortedMap.empty).find? author) := by
  have h := remembers_foldl_takeIn (events.filter (fun event => decide (event.kind = kind))) author
  rw [List.filter_filter] at h
  rw [listsBy]
  simpa only [Bool.and_comm] using h

/-- Of some events, an author's follow list is that of the newest one. -/
theorem remembers_followLists (user : Option String) (author : String) :
    Remembers (listsBy followKind author events)
      ((ingestAll { user } events).followLists.find? author) := by
  rw [followLists_ingestAll]
  exact remembers_listsBy events followKind author

/-- Of some events, an author's mute list is that of the newest one. -/
theorem remembers_muteLists (user : Option String) (author : String) :
    Remembers (listsBy muteKind author events)
      ((ingestAll { user } events).muteLists.find? author) := by
  rw [muteLists_ingestAll]
  exact remembers_listsBy events muteKind author

/-- Of some events, an author follows those whom the newest follow list names. -/
theorem mem_follows_ingestAll (user : Option String) {author key : String} :
    key ∈ (ingestAll { user } events).follows author ↔ NewestNames followKind author events key :=
  (remembers_followLists events user author).mem_keysOf

/-- Of some events, an author mutes those whom the newest mute list names. -/
theorem mem_mutes_ingestAll (user : Option String) {author key : String} :
    key ∈ (ingestAll { user } events).mutes author ↔ NewestNames muteKind author events key :=
  (remembers_muteLists events user author).mem_keysOf

end

/-! ### Deliveries -/

/-- Graphs with the scores of their lists are equal when their users and lists are. -/
theorem IsRated.ext {graph other : SocialGraph} (h : graph.IsRated) (hother : other.IsRated)
    (huser : graph.user = other.user) (hfollow : graph.followLists = other.followLists)
    (hmute : graph.muteLists = other.muteLists) : graph = other := by
  rw [← h, ← hother]
  cases graph
  cases other
  cases huser
  cases hfollow
  cases hmute
  rfl

/-- A call that brings events: one event, or some at once. -/
inductive Delivery where
  /-- One event. -/
  | one (event : Event)
  /-- Some events at once. -/
  | batch (events : List Event)

/-- The events of a delivery. -/
def Delivery.events : Delivery → List Event
  | .one event => [event]
  | .batch events => events

/-- The change that a delivery makes to a graph. -/
def Delivery.change : Delivery → Change
  | .one event => .ingest event
  | .batch events => .ingestAll events

/-- A delivery takes all its events in. -/
theorem Delivery.apply_change (graph : SocialGraph) (delivery : Delivery) :
    delivery.change.apply graph = graph.ingestAll delivery.events := by
  cases delivery <;> rfl

/-- The graph of a user after some deliveries. -/
def delivered (user : Option String) (deliveries : List Delivery) : SocialGraph :=
  after user (deliveries.map Delivery.change)

/-- Taking in some events and then others is taking in all of them. -/
theorem ingestAll_ingestAll (graph : SocialGraph) (events others : List Event) :
    (graph.ingestAll events).ingestAll others = graph.ingestAll (events ++ others) := by
  refine IsRated.ext (isRated_rated _) (isRated_rated _) ?_ ?_ ?_
  · rw [user_ingestAll, user_ingestAll, user_ingestAll]
  · rw [followLists_ingestAll, followLists_ingestAll, followLists_ingestAll, List.filter_append,
      List.foldl_append]
  · rw [muteLists_ingestAll, muteLists_ingestAll, muteLists_ingestAll, List.filter_append,
      List.foldl_append]

/-- **Deliveries add up to one that brings all their events.** -/
theorem delivered_eq_ingestAll (user : Option String) (deliveries : List Delivery) :
    delivered user deliveries = ingestAll { user } (deliveries.flatMap Delivery.events) := by
  suffices h : ∀ graph : SocialGraph, graph.IsRated →
      (deliveries.map Delivery.change).foldl Change.apply graph =
        graph.ingestAll (deliveries.flatMap Delivery.events) from h { user } (isRated_fresh user)
  induction deliveries with
  | nil => exact fun graph hrated => hrated.symm
  | cons delivery rest ih =>
    intro graph _
    rw [List.map_cons, List.foldl_cons, ih _ (delivery.change.isRated_apply graph),
      delivery.apply_change, ingestAll_ingestAll, List.flatMap_cons]

/-! ### What a graph depends on -/

/-- No two events of one author and kind are equally new. -/
def Untied (events : List Event) : Prop :=
  ∀ a ∈ events, ∀ b ∈ events, a.author = b.author → a.kind = b.kind →
    a.createdAt = b.createdAt → a = b

instance (events : List Event) : Decidable (Untied events) :=
  inferInstanceAs (Decidable (∀ a ∈ events, ∀ b ∈ events, a.author = b.author →
    a.kind = b.kind → a.createdAt = b.createdAt → a = b))

/-- Of untied events, no two of a kind by an author are equally new. -/
theorem Untied.eq_of_mem_listsBy {events : List Event} (h : Untied events) {kind : UInt16}
    {author : String} {a b : Event} (ha : a ∈ listsBy kind author events)
    (hb : b ∈ listsBy kind author events) (htime : a.createdAt = b.createdAt) : a = b := by
  obtain ⟨hamem, hakind, haauthor⟩ := mem_listsBy.mp ha
  obtain ⟨hbmem, hbkind, hbauthor⟩ := mem_listsBy.mp hb
  exact h a hamem b hbmem (HexKey.eq_of_text_eq (haauthor.trans hbauthor.symm))
    (hakind.trans hbkind.symm) htime

/-- Whether an event publishes a list. -/
def isList (event : Event) : Bool :=
  decide (event.kind = followKind) || decide (event.kind = muteKind)

section

variable {events others : List Event}

/-- Events that publish no list make no difference. -/
theorem ingestAll_eq_of_filter_isList (graph : SocialGraph)
    (h : others.filter isList = events.filter isList) :
    graph.ingestAll others = graph.ingestAll events := by
  -- the events of a kind are found among those that publish lists
  have hkind : ∀ kind, (∀ event : Event, event.kind = kind → isList event = true) →
      others.filter (fun event => decide (event.kind = kind)) =
        events.filter (fun event => decide (event.kind = kind)) := by
    intro kind hlist
    have hsame : ∀ run : List Event, (run.filter isList).filter
        (fun event => decide (event.kind = kind)) =
          run.filter (fun event => decide (event.kind = kind)) := by
      intro run
      rw [List.filter_filter]
      refine List.filter_congr fun event _ => ?_
      by_cases hevent : event.kind = kind
      · simp [hlist event hevent]
      · simp [hevent]
    rw [← hsame others, h, hsame events]
  refine IsRated.ext (isRated_rated _) (isRated_rated _) ?_ ?_ ?_
  · rw [user_ingestAll, user_ingestAll]
  · rw [followLists_ingestAll, followLists_ingestAll,
      hkind followKind fun event hevent => by simp [isList, hevent]]
  · rw [muteLists_ingestAll, muteLists_ingestAll,
      hkind muteKind fun event hevent => by simp [isList, hevent]]

/-- The list of an author depends on no more than which events of its kind are by the author, where no
two of them are equally new. -/
theorem find?_followLists_congr (user : Option String) (author : String) (huntied : Untied events)
    (hmem : ∀ event,
      event ∈ listsBy followKind author events ↔ event ∈ listsBy followKind author others) :
    (ingestAll { user } events).followLists.find? author =
      (ingestAll { user } others).followLists.find? author :=
  (remembers_followLists events user author).eq_of_mem_iff (remembers_followLists others user author)
    hmem fun _ ha _ hb => huntied.eq_of_mem_listsBy ha hb

/-- So does the mute list. -/
theorem find?_muteLists_congr (user : Option String) (author : String) (huntied : Untied events)
    (hmem : ∀ event,
      event ∈ listsBy muteKind author events ↔ event ∈ listsBy muteKind author others) :
    (ingestAll { user } events).muteLists.find? author =
      (ingestAll { user } others).muteLists.find? author :=
  (remembers_muteLists events user author).eq_of_mem_iff (remembers_muteLists others user author)
    hmem fun _ ha _ hb => huntied.eq_of_mem_listsBy ha hb

/-- **The same events leave the same graph in any order and however often they come**, where no two
of an author and kind are equally new. -/
theorem ingestAll_eq_of_mem_iff (user : Option String) (huntied : Untied events)
    (hmem : ∀ event, event ∈ events ↔ event ∈ others) :
    ingestAll { user } events = ingestAll { user } others := by
  have hlists : ∀ kind author event,
      event ∈ listsBy kind author events ↔ event ∈ listsBy kind author others := by
    intro kind author event
    rw [mem_listsBy, mem_listsBy, hmem]
  refine IsRated.ext (isRated_rated _) (isRated_rated _) ?_ ?_ ?_
  · rw [user_ingestAll, user_ingestAll]
  · exact SortedMap.ext fun author => find?_followLists_congr user author huntied (hlists _ author)
  · exact SortedMap.ext fun author => find?_muteLists_congr user author huntied (hlists _ author)

end

/-- **The newest list wins**, whatever the batches and the order of deliveries. An author's follows
are the keys that `p` tags name in the newest event of the author's follow lists, the last delivered
one among those equally new, and so for mutes. A graph depends on no more than the events that publish
lists, in the order in which they come: not on other events, nor on which events come together. Where
no two events of an author and kind are equally new, it does not depend on their order either. -/
theorem newest_list_wins (user : Option String) (deliveries : List Delivery) :
    let events := deliveries.flatMap Delivery.events
    let graph := delivered user deliveries
    (∀ author key, key ∈ graph.follows author ↔ NewestNames followKind author events key) ∧
    (∀ author key, key ∈ graph.mutes author ↔ NewestNames muteKind author events key) ∧
    (∀ others : List Delivery,
      (others.flatMap Delivery.events).filter isList = events.filter isList →
        delivered user others = graph) ∧
    (∀ others : List Delivery, Untied events →
      (∀ event, event ∈ events ↔ event ∈ others.flatMap Delivery.events) →
        delivered user others = graph) := by
  intro events graph
  have hgraph : graph = ingestAll { user } events := delivered_eq_ingestAll user deliveries
  rw [hgraph]
  refine ⟨fun author key => ?_, fun author key => ?_, fun others hlists => ?_,
    fun others huntied hmem => ?_⟩
  · exact mem_follows_ingestAll events user
  · exact mem_mutes_ingestAll events user
  · rw [delivered_eq_ingestAll]
    exact ingestAll_eq_of_filter_isList _ hlists
  · rw [delivered_eq_ingestAll]
    exact (ingestAll_eq_of_mem_iff user huntied hmem).symm

end RelayFeeds.SocialGraph
