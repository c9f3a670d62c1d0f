import RelayFeeds.Proofs.SocialGraph.Newest

/-! # Three requests tell as much as everything

Loading asks for the lists of the user, for those of whom the user follows, and for the follow lists
that name the user. Of these authors it comes to know every list, and of all others every follow list
that matters to the user, so its graph answers what concerns the user as the graph of the whole store
does.

* **`load_serving`** — what is loaded from a store is the graph of the events that are fetched.
* **`lists_fetched`** — the lists of the user and of whom the user follows are those of the whole
  store.
* **`mem_follows_fetched_iff`** — whoever follows the user is known to.
* **`load_answers_like_store`** — follows, scopes and scores are those of the whole store. -/

namespace RelayFeeds.SocialGraph

/-! ### What is fetched -/

/-- A requester that answers with the stored events that a subscription matches, in store order. -/
def serving (store : List Event) : Requester :=
  fun _ asked => .ok (store.filter (Filter.anyMatch asked.filters))

section

variable {event : Event}

/-- An event publishes a list when it is of a kind of lists. -/
theorem isList_iff : isList event = true ↔ event.kind = followKind ∨ event.kind = muteKind := by
  rw [isList, Bool.or_eq_true, decide_eq_true_eq, decide_eq_true_eq]

/-- The lists of some authors are the events by them that publish lists. -/
theorem anyMatch_listsOf {authors : SortedSet String} :
    Filter.anyMatch (listsOf authors).filters event = true ↔
      isList event = true ∧ event.author.text ∈ authors := by
  simp [listsOf, Filter.anyMatch, Filter.isMatch, Filter.found_iff, isList_iff, SortedMap.empty,
    and_comm]

/-- The lists of one author are those of the set of that author. -/
theorem ownLists_eq (author : String) : ownLists author = listsOf (SortedSet.singleton author) := rfl

/-- The follow lists that name a key are the follow lists that carry it under `p`. -/
theorem anyMatch_followListsNaming {key : String} :
    Filter.anyMatch (followListsNaming key).filters event = true ↔
      event.kind = followKind ∧ event.Carries "p" key := by
  have hname : tagName (tagKey "p") = "p" := rfl
  simp [followListsNaming, Filter.anyMatch, Filter.isMatch, Filter.withTag, Filter.all,
    SortedMap.insert, SortedMap.empty, SortedMap.insertEntry, Filter.tagged_iff,
    Filter.found_iff, hname]

end

section

variable (store : List Event) (user : String)

/-- The stored lists of a user. -/
def ownEvents : List Event := store.filter (Filter.anyMatch (ownLists user).filters)

/-- Those whom a user follows by the stored lists of the user. -/
def ownFollows : SortedSet String := (ingestAll { user := some user } (ownEvents store user)).follows user

/-- The stored events that loading fetches, those of each request after those of the one before. -/
def fetched : List Event :=
  ownEvents store user ++
    store.filter (Filter.anyMatch (listsOf (ownFollows store user)).filters) ++
    store.filter (Filter.anyMatch (followListsNaming user).filters)

/-- No list is by an author of an empty set. -/
theorem filter_listsOf_of_isEmpty {authors : SortedSet String} (h : authors.isEmpty = true) :
    store.filter (Filter.anyMatch (listsOf authors).filters) = [] := by
  refine List.filter_eq_nil_iff.mpr fun event _ hmatch => ?_
  exact SortedSet.isEmpty_iff.mp h _ (anyMatch_listsOf.mp hmatch).2

/-- **What is loaded from a store is the graph of the events that are fetched.** -/
theorem load_serving : (load (serving store) user).outcome =
    .ok (ingestAll { user := some user } (fetched store user)) := by
  rw [fetched, ← ingestAll_ingestAll, ← ingestAll_ingestAll]
  by_cases hempty : (ownFollows store user).isEmpty = true
  · have hnone : ((ingestAll { user := some user } (ownEvents store user)).ingestAll []) =
        ingestAll { user := some user } (ownEvents store user) := rfl
    rw [filter_listsOf_of_isEmpty store hempty, hnone]
    rw [ownFollows, ownEvents] at hempty
    simp only [load, fetch, serving, hempty, if_true]
    rfl
  · rw [ownFollows, ownEvents] at hempty
    simp only [load, fetch, serving, hempty]
    rfl

end

section

variable {store : List Event} {user : String} {event : Event}

/-- The fetched events are the stored lists of the user and of whom the user follows, and the follow
lists that name the user. -/
theorem mem_fetched : event ∈ fetched store user ↔ event ∈ store ∧
    (isList event = true ∧
        (event.author.text = user ∨ event.author.text ∈ ownFollows store user) ∨
      event.kind = followKind ∧ event.Carries "p" user) := by
  rw [fetched, ownEvents, ownLists_eq, List.mem_append, List.mem_append, List.mem_filter,
    List.mem_filter, List.mem_filter, anyMatch_listsOf, anyMatch_listsOf,
    anyMatch_followListsNaming, SortedSet.mem_singleton]
  tauto

/-- The user's own lists tell whom the user follows. -/
theorem ownFollows_eq (huntied : Untied store) :
    ownFollows store user = (ingestAll { user := some user } store).follows user := by
  have hown : Untied (ownEvents store user) := by
    intro a ha b hb
    exact huntied a (List.mem_of_mem_filter ha) b (List.mem_of_mem_filter hb)
  have hlists : ∀ event, event ∈ listsBy followKind user (ownEvents store user) ↔
      event ∈ listsBy followKind user store := by
    intro event
    rw [mem_listsBy, mem_listsBy, ownEvents, ownLists_eq, List.mem_filter, anyMatch_listsOf,
      SortedSet.mem_singleton, isList_iff]
    tauto
  rw [ownFollows, follows, follows, keysOf, keysOf,
    find?_followLists_congr (some user) user hown hlists]

/-- Every list of the user and of whom the user follows is fetched. -/
theorem mem_listsBy_fetched {kind : UInt16} {author : String}
    (hkind : kind = followKind ∨ kind = muteKind)
    (hauthor : author = user ∨ author ∈ ownFollows store user) :
    event ∈ listsBy kind author (fetched store user) ↔ event ∈ listsBy kind author store := by
  rw [mem_listsBy, mem_listsBy, mem_fetched, isList_iff]
  constructor
  · rintro ⟨⟨hstored, -⟩, hlist⟩
    exact ⟨hstored, hlist⟩
  · rintro ⟨hstored, rfl, rfl⟩
    exact ⟨⟨hstored, Or.inl ⟨hkind, hauthor⟩⟩, rfl, rfl⟩

/-- **The lists of the user and of whom the user follows are known as the whole store tells them.** -/
theorem lists_fetched (huntied : Untied store) {author : String}
    (hauthor : author = user ∨
      author ∈ (ingestAll { user := some user } store).follows user) :
    (ingestAll { user := some user } (fetched store user)).follows author =
        (ingestAll { user := some user } store).follows author ∧
      (ingestAll { user := some user } (fetched store user)).mutes author =
        (ingestAll { user := some user } store).mutes author := by
  have hfetched : Untied (fetched store user) := by
    intro a ha b hb
    exact huntied a (mem_fetched.mp ha).1 b (mem_fetched.mp hb).1
  rw [← ownFollows_eq huntied] at hauthor
  constructor
  · rw [follows, follows, keysOf, keysOf, find?_followLists_congr (some user) author hfetched
      fun event => mem_listsBy_fetched (Or.inl rfl) hauthor]
  · rw [mutes, mutes, keysOf, keysOf, find?_muteLists_congr (some user) author hfetched
      fun event => mem_listsBy_fetched (Or.inr rfl) hauthor]

/-- Other authors than a user and whom the user's newest follow list names have one follow list at
most. -/
def OthersListOnce (store : List Event) (user : String) : Prop :=
  ∀ author, author ≠ user → ¬NewestNames followKind user store author →
    ∀ a ∈ listsBy followKind author store, ∀ b ∈ listsBy followKind author store, a = b

/-- Whoever has one follow list at most follows the user by what is fetched when by the store. -/
theorem newestNames_fetched_iff {author : String}
    (honce : ∀ a ∈ listsBy followKind author store, ∀ b ∈ listsBy followKind author store, a = b) :
    NewestNames followKind author (fetched store user) user ↔
      NewestNames followKind author store user := by
  constructor
  · rintro ⟨event, hnewest, hnames⟩
    obtain ⟨hfetched, hlist⟩ := mem_listsBy.mp hnewest.mem
    have hstored := mem_listsBy.mpr ⟨(mem_fetched.mp hfetched).1, hlist⟩
    exact ⟨event, isNewest_of_forall_eq hstored fun other hother => honce other hother event hstored,
      hnames⟩
  · rintro ⟨event, hnewest, hnames⟩
    obtain ⟨hstored, hkind, hauthor⟩ := mem_listsBy.mp hnewest.mem
    have hfetched : event ∈ listsBy followKind author (fetched store user) :=
      mem_listsBy.mpr ⟨mem_fetched.mpr ⟨hstored, Or.inr ⟨hkind, hnames⟩⟩, hkind, hauthor⟩
    refine ⟨event, isNewest_of_forall_eq hfetched fun other hother => ?_, hnames⟩
    obtain ⟨hother, hlist⟩ := mem_listsBy.mp hother
    exact honce other (mem_listsBy.mpr ⟨(mem_fetched.mp hother).1, hlist⟩) event hnewest.mem

/-- **Whoever follows the user is known to.** -/
theorem mem_follows_fetched_iff (huntied : Untied store) (honce : OthersListOnce store user)
    (author : String) :
    user ∈ (ingestAll { user := some user } (fetched store user)).follows author ↔
      user ∈ (ingestAll { user := some user } store).follows author := by
  by_cases hknown : author = user ∨ author ∈ (ingestAll { user := some user } store).follows user
  · rw [(lists_fetched huntied hknown).1]
  · obtain ⟨huser, hfollow⟩ := not_or.mp hknown
    rw [mem_follows_ingestAll] at hfollow
    rw [mem_follows_ingestAll, mem_follows_ingestAll,
      newestNames_fetched_iff (honce author huser hfollow)]

end

/-! ### What the answers depend on -/

section

variable {graph other : SocialGraph} {user : String}

/-- A network depends on the follows of an author and on those of the follows. -/
theorem network_congr (hdirect : graph.follows user = other.follows user)
    (hreached : ∀ follow ∈ other.follows user, graph.follows follow = other.follows follow) :
    graph.network user = other.network user := by
  have hflat : (other.follows user).toList.flatMap (fun follow => (graph.follows follow).toList) =
      (other.follows user).toList.flatMap (fun follow => (other.follows follow).toList) :=
    List.flatMap_congr fun follow hfollow => by rw [hreached follow hfollow]
  simp only [network, hdirect, hflat]

/-- Scores depend on the raters and on their lists. -/
theorem tally_congr (hraters : graph.raters = other.raters)
    (hlists : ∀ rater ∈ other.raters,
      graph.follows rater = other.follows rater ∧ graph.mutes rater = other.mutes rater) :
    graph.tally = other.tally := by
  rw [tally, tally, hraters]
  refine List.foldl_ext _ _ _ fun scores rater hrater => ?_
  rw [addRater, addRater, (hlists rater hrater).1, (hlists rater hrater).2]

end

/-- Loading asks three subscriptions at most, whoever answers. -/
theorem length_requests_load_le (requester : Requester) (user : String) :
    (load requester user).requests.length ≤ 3 := by
  simp only [load, fetch]
  split
  · simp
  · split
    · split <;> simp
    · split <;> simp

/-- **Three requests tell as much as everything.** Let a store have no two events of an author and
kind that are equally new, and one follow list at most by anyone but the user and whom the user's
newest follow list names. Loading from it succeeds with at most three requests, and the graph that is
loaded has the follows of the user, the scopes, the scores and the highest score of the graph of the
whole store. -/
theorem load_answers_like_store {user : String} {store : List Event} (huntied : Untied store)
    (honce : OthersListOnce store user) :
    let whole := ingestAll { user := some user } store
    (load (serving store) user).requests.length ≤ 3 ∧
    ∃ loaded, (load (serving store) user).outcome = .ok loaded ∧
      loaded.follows user = whole.follows user ∧
      (∀ scope, loaded.inScope scope = whole.inScope scope) ∧
      (∀ key, loaded.score key = whole.score key) ∧
      loaded.maxScore = whole.maxScore := by
  intro whole
  refine ⟨length_requests_load_le _ _, ingestAll { user := some user } (fetched store user),
    load_serving store user, ?_⟩
  set loaded := ingestAll { user := some user } (fetched store user)
  have hown : loaded.follows user = whole.follows user :=
    (lists_fetched huntied (Or.inl rfl)).1
  have hlists : ∀ follow ∈ whole.follows user,
      loaded.follows follow = whole.follows follow ∧ loaded.mutes follow = whole.mutes follow :=
    fun follow hfollow => lists_fetched huntied (Or.inr hfollow)
  have huser : loaded.user = some user := user_ingestAll _ _
  have huser' : whole.user = some user := user_ingestAll _ _
  have htally : loaded.tally = whole.tally := by
    refine tally_congr ?_ fun rater hrater => ?_
    · rw [raters, raters, huser, huser']
      exact congrArg SortedSet.toList hown
    · rw [raters, huser'] at hrater
      exact hlists rater hrater
  refine ⟨hown, fun scope => ?_, fun key => ?_, ?_⟩
  · rw [inScope, inScope, huser, huser']
    cases scope with
    | user => rfl
    | follows => exact hown
    | network => exact network_congr hown fun follow hfollow => (hlists follow hfollow).1
    | followers =>
      refine SortedSet.ext fun author => ?_
      rw [mem_followers, mem_followers]
      exact mem_follows_fetched_iff huntied honce author
  · exact congrArg (fun scores => (SortedMap.find? scores key).getD 0) htally
  · exact congrArg (fun scores => highest (SortedMap.values scores)) htally

/-- The key all of whose digits are equal. -/
def uniformKey (digit : Char) (h : Text.isLowerHexDigit digit = true) : HexKey where
  text := String.ofList (List.replicate 64 digit)
  length_eq := by simp
  lower := by simp [h]

/-- The list of a kind that an author publishes at a time. -/
def listing (author : HexKey) (kind : UInt16) (createdAt : UInt64) (keys : List String) : Event where
  id := .zero
  author := author
  createdAt := createdAt
  kind := kind
  tags := keys.map (fun key => ⟨"p", [key]⟩)
  content := ""

/-- A list names the keys on it. -/
theorem carries_listing {author : HexKey} {kind : UInt16} {createdAt : UInt64} {keys : List String}
    {key : String} : (listing author kind createdAt keys).Carries "p" key ↔ key ∈ keys := by
  simp [Event.Carries, listing, Tag.value?]

/-- The key of a user. -/
def ada : HexKey := uniformKey 'a' rfl

/-- The key of someone whom the user follows. -/
def ben : HexKey := uniformKey 'b' rfl

/-- The key of someone who follows the user. -/
def cat : HexKey := uniformKey 'c' rfl

/-- The key of someone whom the user has followed before. -/
def dan : HexKey := uniformKey 'd' rfl

/-- A store with an older list of a user who follows herself, with an older list of her friend that
still names her, and with lists of others. -/
def villageStore : List Event :=
  [listing ada followKind 10 [ada.text, ben.text], listing ada followKind 5 [dan.text],
    listing ben followKind 10 ["erin"], listing ben followKind 5 [ada.text, "frank"],
    listing ben muteKind 10 ["spammer"], listing cat followKind 10 [ada.text],
    listing dan followKind 10 ["grace"]]

/-- The newest follow list of the user. -/
theorem isNewest_ada : IsNewest (listsBy followKind ada.text villageStore)
    (listing ada followKind 10 [ada.text, ben.text]) where
  le := by decide +kernel
  last := by decide +kernel

/-- The newest follow list of her friend. -/
theorem isNewest_ben : IsNewest (listsBy followKind ben.text villageStore)
    (listing ben followKind 10 ["erin"]) where
  le := by decide +kernel
  last := by decide +kernel

/-- The user and her friend have published follow lists twice, others at most once. -/
theorem othersListOnce_villageStore : OthersListOnce villageStore ada.text := by
  have hpairs : ∀ a ∈ villageStore, ∀ b ∈ villageStore, a.kind = followKind → b.kind = followKind →
      a.author.text = b.author.text →
        a.author.text = ada.text ∨ a.author.text = ben.text ∨ a = b := by decide +kernel
  intro author huser hunnamed a ha b hb
  obtain ⟨hastored, hakind, rfl⟩ := mem_listsBy.mp ha
  obtain ⟨hbstored, hbkind, hauthor⟩ := mem_listsBy.mp hb
  obtain hada | hben | heq := hpairs a hastored b hbstored hakind hbkind hauthor.symm
  · exact absurd hada huser
  · refine absurd ⟨_, isNewest_ada, carries_listing.mpr ?_⟩ hunnamed
    rw [hben]
    simp
  · exact heq

/-- The village store loads. By what is loaded the user is followed by whoever names her in a newest
list, and no longer by her friend, whose older list is fetched too. -/
theorem load_village_store : Untied villageStore ∧ OthersListOnce villageStore ada.text ∧
    ∃ loaded, (load (serving villageStore) ada.text).outcome = .ok loaded ∧
      ben.text ∈ loaded.inScope .follows ∧ cat.text ∈ loaded.inScope .followers ∧
      ben.text ∉ loaded.inScope .followers := by
  have huntied : Untied villageStore := by decide +kernel
  obtain ⟨-, loaded, hload, -, hscope, -, -⟩ :=
    load_answers_like_store huntied othersListOnce_villageStore
  refine ⟨huntied, othersListOnce_villageStore, loaded, hload, ?_, ?_, ?_⟩
  · rw [hscope, inScope, user_ingestAll]
    exact (mem_follows_ingestAll _ _).mpr ⟨_, isNewest_ada, carries_listing.mpr (by simp)⟩
  · have hnewest : IsNewest (listsBy followKind cat.text villageStore)
        (listing cat followKind 10 [ada.text]) := ⟨by decide +kernel, by decide +kernel⟩
    rw [hscope, inScope, user_ingestAll]
    refine (mem_followers _).mpr ((mem_follows_ingestAll _ _).mpr ?_)
    exact ⟨_, hnewest, carries_listing.mpr (by simp)⟩
  · rw [hscope, inScope, user_ingestAll]
    intro hfollows
    obtain ⟨event, hnewest, hcarries⟩ :=
      (mem_follows_ingestAll _ _).mp ((mem_followers _).mp hfollows)
    rw [← isNewest_ben.eq hnewest, carries_listing] at hcarries
    exact absurd hcarries (by decide +kernel)

end RelayFeeds.SocialGraph
