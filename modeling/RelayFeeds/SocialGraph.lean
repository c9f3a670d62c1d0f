import RelayFeeds.Failure
import RelayFeeds.Feed.Item

/-! # Social graphs — who follows and mutes whom

A graph holds one follow list and one mute list for each author, the newest that was seen. Scopes
are sets of authors relative to the user. Trust scores count, over the raters of the graph, follows
less mutes; the raters are those whom the user follows, or all authors of follow lists when no user
is set. The scores are kept beside the lists and worked out again by every change to them. -/

namespace RelayFeeds

/-- A list of public keys and the time it was published. -/
structure KeyList where
  /-- The time of publication. -/
  createdAt : UInt64
  /-- The keys. -/
  keys : SortedSet String
  deriving DecidableEq

/-- The follow and mute lists that are known, the user they are seen from, and the trust scores that
were last worked out from them. -/
structure SocialGraph where
  /-- The user, if there is one. -/
  user : Option String
  /-- The follow list of each author. -/
  followLists : SortedMap String KeyList := SortedMap.empty
  /-- The mute list of each author. -/
  muteLists : SortedMap String KeyList := SortedMap.empty
  /-- The score of everyone whom a rater lists. -/
  scores : SortedMap String Int := SortedMap.empty
  /-- The highest score; zero when no one is scored. -/
  maxScore : Int := 0
  deriving DecidableEq

namespace SocialGraph

/-- The kind of a follow list. -/
def followKind : UInt16 := 3

/-- The kind of a mute list. -/
def muteKind : UInt16 := 10000

/-! ### Lists of keys -/

/-- The keys on an author's list. -/
def keysOf (lists : SortedMap String KeyList) (author : String) : SortedSet String :=
  match lists.find? author with
  | some known => known.keys
  | none => SortedSet.empty

/-- Those whom an author follows. -/
def follows (graph : SocialGraph) (author : String) : SortedSet String :=
  keysOf graph.followLists author

/-- Those whom an author mutes. -/
def mutes (graph : SocialGraph) (author : String) : SortedSet String :=
  keysOf graph.muteLists author

/-! ### Working out scores -/

/-- Those whose lists count for trust. -/
def raters (graph : SocialGraph) : List String :=
  match graph.user with
  | some user => (graph.follows user).toList
  | none => graph.followLists.keys

/-- Scores with some added for every key of a list. -/
def addTo (scores : SortedMap String Int) (keys : SortedSet String) (amount : Int) :
    SortedMap String Int :=
  keys.toList.foldl (fun scores key => scores.alter key (·.getD 0 + amount)) scores

/-- Scores with one more rater: a point for each of its follows, one off for each of its mutes. -/
def addRater (graph : SocialGraph) (scores : SortedMap String Int) (rater : String) :
    SortedMap String Int :=
  addTo (addTo scores (graph.follows rater) 1) (graph.mutes rater) (-1)

/-- The score of everyone whom a rater lists, worked out from the lists. -/
def tally (graph : SocialGraph) : SortedMap String Int :=
  graph.raters.foldl graph.addRater SortedMap.empty

/-- The highest number of a list; zero for an empty one. -/
def highest : List Int → Int
  | [] => 0
  | first :: rest => rest.foldl (fun best n => if best < n then n else best) first

/-- A graph with its scores worked out from its lists. -/
def rated (graph : SocialGraph) : SocialGraph :=
  { graph with scores := graph.tally, maxScore := highest graph.tally.values }

/-! ### Taking in lists -/

/-- The keys that an event's `p` tags name. -/
def namedKeys (event : Event) : SortedSet String :=
  SortedSet.ofList (event.tags.filterMap (fun tag => if tag.name = "p" then tag.value? else none))

/-- Lists with that of an event, unless a newer one of its author is known. -/
def takeIn (lists : SortedMap String KeyList) (event : Event) : SortedMap String KeyList :=
  let listed : KeyList := ⟨event.createdAt, namedKeys event⟩
  match lists.find? event.author.text with
  | some known =>
    if event.createdAt.toNat < known.createdAt.toNat then lists
    else lists.insert event.author.text listed
  | none => lists.insert event.author.text listed

/-- A graph with the list that an event publishes, if it does, the scores being left alone. -/
def receive (graph : SocialGraph) (event : Event) : SocialGraph :=
  if event.kind = followKind then { graph with followLists := takeIn graph.followLists event }
  else if event.kind = muteKind then { graph with muteLists := takeIn graph.muteLists event }
  else graph

/-- A graph with the lists of some events, taken in one after another. -/
def ingestAll (graph : SocialGraph) (events : List Event) : SocialGraph :=
  (events.foldl receive graph).rated

/-- A graph with the list that an event publishes, if it does. -/
def ingest (graph : SocialGraph) (event : Event) : SocialGraph := graph.ingestAll [event]

/-- Lists with the keys of one author replaced and the time kept. -/
def replaceKeys (lists : SortedMap String KeyList) (author : String) (keys : List String) :
    SortedMap String KeyList :=
  lists.alter author (fun known => ⟨(known.map KeyList.createdAt).getD 0, SortedSet.ofList keys⟩)

/-- A graph with an author's follows replaced. -/
def setFollows (graph : SocialGraph) (author : String) (keys : List String) : SocialGraph :=
  { graph with followLists := replaceKeys graph.followLists author keys }.rated

/-- A graph with an author's mutes replaced. -/
def setMutes (graph : SocialGraph) (author : String) (keys : List String) : SocialGraph :=
  { graph with muteLists := replaceKeys graph.muteLists author keys }.rated

/-! ### Who follows whom -/

/-- The authors whose list has a key. -/
def authorsListing (lists : SortedMap String KeyList) (key : String) : SortedSet String :=
  SortedSet.ofList
    ((lists.entries.filter (fun entry => decide (key ∈ entry.2.keys))).map Prod.fst)

/-- Those who follow a key. -/
def followers (graph : SocialGraph) (key : String) : SortedSet String :=
  authorsListing graph.followLists key

/-- Those who mute a key. -/
def muters (graph : SocialGraph) (key : String) : SortedSet String :=
  authorsListing graph.muteLists key

/-- Those followed by the follows of an author, less the author and the follows themselves. -/
def network (graph : SocialGraph) (author : String) : SortedSet String :=
  let direct := graph.follows author
  let reached := direct.toList.flatMap (fun follow => (graph.follows follow).toList)
  SortedSet.ofList (reached.filter (fun key => !decide (key = author) && !decide (key ∈ direct)))

/-- The authors of a scope; none without a user. -/
def inScope (graph : SocialGraph) (scope : Scope) : SortedSet String :=
  match graph.user with
  | none => SortedSet.empty
  | some user =>
    match scope with
    | .user => SortedSet.singleton user
    | .follows => graph.follows user
    | .network => graph.network user
    | .followers => graph.followers user

/-! ### Trust -/

/-- The trust in a target as an author sees it: the author's follows that follow the target less
those that mute it. Without an author everyone counts. -/
def scoreFor (graph : SocialGraph) (author : Option String) (target : String) : Int :=
  match author with
  | some author =>
    let raters := (graph.follows author).toList
    Int.ofNat (raters.filter (fun rater => decide (target ∈ graph.follows rater))).length -
      Int.ofNat (raters.filter (fun rater => decide (target ∈ graph.mutes rater))).length
  | none => Int.ofNat (graph.followers target).size - Int.ofNat (graph.muters target).size

/-- The score of a key; zero when no rater lists it. -/
def score (graph : SocialGraph) (key : String) : Int := (graph.scores.find? key).getD 0

/-- Those whose score lies between two fractions of the highest one. -/
def inTrustRange (graph : SocialGraph) (min max : Double) : SortedSet String :=
  let top := Double.ofInt graph.maxScore
  let low := min.mul top
  let high := max.mul top
  SortedSet.ofList
    ((graph.scores.entries.filter (fun entry =>
      low.le (Double.ofInt entry.2) && (Double.ofInt entry.2).le high)).map Prod.fst)

/-! ### Loading from relays -/

/-- Something that answers subscriptions with stored events; the subscriptions it has already been
asked are given too. -/
abbrev Requester := List Subscription → Subscription → Except Failure (List Event)

/-- The subscriptions asked while loading, and how loading ended. -/
structure Loading where
  /-- The subscriptions in order. -/
  requests : List Subscription
  /-- The graph, or why there is none. -/
  outcome : Except Failure SocialGraph

/-- The lists of an author. -/
def ownLists (author : String) : Subscription where
  relays := []
  filters := [{ kinds := some (SortedSet.ofList [followKind, muteKind])
                authors := some (SortedSet.singleton author) }]

/-- The lists of some authors. -/
def listsOf (authors : SortedSet String) : Subscription where
  relays := []
  filters := [{ kinds := some (SortedSet.ofList [followKind, muteKind])
                authors := some authors }]

/-- The follow lists that name a key. -/
def followListsNaming (key : String) : Subscription where
  relays := []
  filters := [{ Filter.withTag Filter.all "p" [key] with
    kinds := some (SortedSet.singleton followKind) }]

/-- A graph with what a subscription brings, and the subscriptions asked so far. -/
def fetch (requester : Requester) (asked : List Subscription) (graph : SocialGraph)
    (subscription : Subscription) (context : String) : Loading where
  requests := asked ++ [subscription]
  outcome :=
    match requester asked subscription with
    | .ok events => .ok (graph.ingestAll events)
    | .error failure => .error (failure.within context)

/-- Fetches the user's own lists, the lists of those followed when there are any, and the follow
lists that name the user. -/
def load (requester : Requester) (user : String) : Loading :=
  let own := fetch requester [] { user := some user } (ownLists user)
    ("Failed to load follow list for " ++ user)
  match own.outcome with
  | .error failure => { own with outcome := .error failure }
  | .ok graph =>
    let follows := graph.follows user
    let lists :=
      if follows.isEmpty then own
      else fetch requester own.requests graph (listsOf follows)
        "Failed to load follow lists of follows"
    match lists.outcome with
    | .error failure => { lists with outcome := .error failure }
    | .ok graph =>
      fetch requester lists.requests graph (followListsNaming user)
        ("Failed to load followers of " ++ user)

end SocialGraph

end RelayFeeds
