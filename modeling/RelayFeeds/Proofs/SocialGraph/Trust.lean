import Mathlib.Data.List.Basic
import Mathlib.Order.Bounds.Basic
import RelayFeeds.Proofs.Ordered.Contents
import RelayFeeds.SocialGraph

/-! # Trust scores agree with the lists

Scores are added up rater by rater, while trust as an author sees it is counted target by target.
The two ways agree, and every change to a graph works its scores out again, so they agree after any
run of changes.

* **`getD_tally`** — the score worked out for a key is the number of raters that follow it less the
  number that mute it.
* **`isGreatest_highest`** — the highest number of a list is one of its numbers and bounds them all.
* **`Change.isRated_apply`**, **`isRated_after`** — a change, and so any run of changes, leaves a
  graph whose scores are those of its lists.
* **`scores_agree_with_lists`** — what the scores and the highest one are after any run of changes.
-/

namespace RelayFeeds.SocialGraph

open Ordered

/-! ### Adding up -/

section

variable {scores : SortedMap String Int} {keys : SortedSet String} {amount : Int} {key : String}

/-- Adding to every key of a list sets these to their score and the amount and leaves the others. -/
theorem find?_addTo : (addTo scores keys amount).find? key =
    if key ∈ keys then some ((scores.find? key).getD 0 + amount) else scores.find? key := by
  suffices h : ∀ (values : List String), values.Nodup → ∀ scores : SortedMap String Int,
      (values.foldl (fun scores key => scores.alter key (·.getD 0 + amount)) scores).find? key =
        if key ∈ values then some ((scores.find? key).getD 0 + amount) else scores.find? key from
    h keys.toList keys.ascending.nodup scores
  intro values hnodup
  induction values with
  | nil => intro scores; rfl
  | cons value rest ih =>
    intro scores
    obtain ⟨hfresh, hrest⟩ := List.nodup_cons.mp hnodup
    rw [List.foldl_cons, ih hrest, SortedMap.find?_alter]
    by_cases hkey : key = value
    · -- the key comes once, so the rest does not add to it again
      subst hkey
      simp [hfresh]
    · simp [hkey]

/-- Adding to every key of a list raises the score of each by the amount. -/
theorem getD_addTo : ((addTo scores keys amount).find? key).getD 0 =
    (scores.find? key).getD 0 + if key ∈ keys then amount else 0 := by
  rw [find?_addTo]
  split <;> simp

/-- Adding to every key of a list gives all of them a score. -/
theorem mem_keys_addTo : key ∈ (addTo scores keys amount).keys ↔ key ∈ keys ∨ key ∈ scores.keys := by
  rw [SortedMap.mem_keys, find?_addTo, SortedMap.mem_keys]
  by_cases hkey : key ∈ keys <;> simp [hkey]

end

variable (graph : SocialGraph)

/-- Of some raters, those that follow a key less those that mute it. -/
def balance (raters : List String) (key : String) : Int :=
  Int.ofNat (raters.filter (fun rater => decide (key ∈ graph.follows rater))).length -
    Int.ofNat (raters.filter (fun rater => decide (key ∈ graph.mutes rater))).length

/-- Whether a rater lists a key, as a follow or as a mute. -/
def Rates (key : String) : Prop :=
  ∃ rater ∈ graph.raters, key ∈ graph.follows rater ∨ key ∈ graph.mutes rater

/-- One more rater counts for its own follows and mutes. -/
theorem balance_cons (rater : String) (raters : List String) (key : String) :
    graph.balance (rater :: raters) key =
      (if key ∈ graph.follows rater then 1 else 0) + (if key ∈ graph.mutes rater then -1 else 0) +
        graph.balance raters key := by
  rw [balance, balance, List.filter_cons, List.filter_cons]
  by_cases hfollow : key ∈ graph.follows rater <;> by_cases hmute : key ∈ graph.mutes rater <;>
    simp [hfollow, hmute] <;> omega

/-- **The score worked out for a key is the number of raters that follow it less the number that mute
it.** -/
theorem getD_tally (key : String) :
    (graph.tally.find? key).getD 0 = graph.balance graph.raters key := by
  suffices h : ∀ (raters : List String) (scores : SortedMap String Int),
      ((raters.foldl graph.addRater scores).find? key).getD 0 =
        (scores.find? key).getD 0 + graph.balance raters key by
    rw [tally, h, SortedMap.find?_empty, Option.getD_none, Int.zero_add]
  intro raters
  induction raters with
  | nil => intro scores; simp [balance]
  | cons rater rest ih =>
    intro scores
    rw [List.foldl_cons, ih, addRater, getD_addTo, getD_addTo, balance_cons]
    omega

/-- The keys with a score worked out are those that a rater lists. -/
theorem mem_keys_tally {key : String} : key ∈ graph.tally.keys ↔ graph.Rates key := by
  suffices h : ∀ (raters : List String) (scores : SortedMap String Int),
      key ∈ (raters.foldl graph.addRater scores).keys ↔
        (∃ rater ∈ raters, key ∈ graph.follows rater ∨ key ∈ graph.mutes rater) ∨
          key ∈ scores.keys by
    have hempty : key ∉ (SortedMap.empty : SortedMap String Int).keys := List.not_mem_nil
    rw [tally, h, or_iff_left hempty, Rates]
  intro raters
  induction raters with
  | nil => simp
  | cons rater rest ih =>
    intro scores
    rw [List.foldl_cons, ih, addRater, mem_keys_addTo, mem_keys_addTo, List.exists_mem_cons_iff,
      ← or_assoc (a := key ∈ graph.mutes rater), or_comm (a := key ∈ graph.mutes rater),
      ← or_assoc, or_comm (a := ∃ other ∈ rest, _)]

/-! ### The highest number -/

/-- **The highest number of a list is one of its numbers and bounds them all.** -/
theorem isGreatest_highest {numbers : List Int} (h : numbers ≠ []) :
    IsGreatest {n | n ∈ numbers} (highest numbers) := by
  cases numbers with
  | nil => exact absurd rfl h
  | cons first rest =>
    rw [highest]
    clear h
    induction rest generalizing first with
    | nil => simp
    | cons n rest ih =>
      rw [List.foldl_cons]
      by_cases hlt : first < n
      · rw [if_pos hlt]
        obtain ⟨hmem, hbound⟩ := ih n
        refine ⟨List.mem_cons_of_mem _ hmem, ?_⟩
        -- what is lower than the new best number is bounded by it
        intro other hother
        obtain rfl | hother := List.mem_cons.mp hother
        · exact hlt.le.trans (hbound List.mem_cons_self)
        · exact hbound hother
      · rw [if_neg hlt]
        obtain ⟨hmem, hbound⟩ := ih first
        refine ⟨?_, ?_⟩
        · obtain heq | hrest := List.mem_cons.mp hmem
          · exact List.mem_cons.mpr (Or.inl heq)
          · exact List.mem_cons_of_mem _ (List.mem_cons_of_mem _ hrest)
        · intro other hother
          obtain rfl | hother := List.mem_cons.mp hother
          · exact hbound List.mem_cons_self
          · obtain rfl | hother := List.mem_cons.mp hother
            · exact (not_lt.mp hlt).trans (hbound List.mem_cons_self)
            · exact hbound (List.mem_cons_of_mem _ hother)

/-! ### Who lists a key -/

/-- An author lists a key when it is on the author's list. -/
theorem mem_authorsListing {lists : SortedMap String KeyList} {key author : String} :
    author ∈ authorsListing lists key ↔ key ∈ keysOf lists author := by
  simp only [authorsListing, SortedSet.mem_ofList, List.mem_map, List.mem_filter, Prod.exists,
    exists_and_right, exists_eq_right, SortedMap.mem_entries, decide_eq_true_eq, keysOf]
  cases lists.find? author <;> simp

/-- Those who follow a key are the authors whose follows have it. -/
theorem mem_followers {key author : String} :
    author ∈ graph.followers key ↔ key ∈ graph.follows author := mem_authorsListing

/-- Those who mute a key are the authors whose mutes have it. -/
theorem mem_muters {key author : String} :
    author ∈ graph.muters key ↔ key ∈ graph.mutes author := mem_authorsListing

/-- An author without a list has no keys on it. -/
theorem mem_keys_of_mem_keysOf {lists : SortedMap String KeyList} {key author : String}
    (h : key ∈ keysOf lists author) : author ∈ lists.keys := by
  rw [SortedMap.mem_keys]
  rw [keysOf] at h
  split at h
  · exact ⟨_, by assumption⟩
  · exact absurd h (SortedSet.not_mem_empty key)

/-- Seen by all authors of follow lists, a key has its followers less those of its muters that have a
follow list. -/
theorem balance_followLists (key : String) :
    graph.balance graph.followLists.keys key = Int.ofNat (graph.followers key).size -
      Int.ofNat ((graph.muters key).toList.filter
        (fun author => decide (author ∈ graph.followLists.keys))).length := by
  have hfollow : graph.followLists.keys.filter (fun author => decide (key ∈ graph.follows author)) =
      (graph.followers key).toList := by
    refine Ascending.eq_of_mem_iff (graph.followLists.ascending.filter _) (graph.followers key).ascending ?_
    intro author
    rw [List.mem_filter, decide_eq_true_eq, ← SortedSet.mem_def, mem_followers]
    exact and_iff_right_of_imp mem_keys_of_mem_keysOf
  have hmute : graph.followLists.keys.filter (fun author => decide (key ∈ graph.mutes author)) =
      (graph.muters key).toList.filter (fun author => decide (author ∈ graph.followLists.keys)) := by
    refine Ascending.eq_of_mem_iff (graph.followLists.ascending.filter _)
      ((graph.muters key).ascending.filter _) ?_
    intro author
    rw [List.mem_filter, List.mem_filter, decide_eq_true_eq, decide_eq_true_eq,
      ← SortedSet.mem_def, mem_muters, and_comm]
  rw [balance, hfollow, hmute, SortedSet.size]

/-! ### Runs of changes -/

/-- A change to a graph. -/
inductive Change where
  /-- The list of an event is taken in. -/
  | ingest (event : Event)
  /-- The lists of some events are taken in. -/
  | ingestAll (events : List Event)
  /-- An author's follows are replaced. -/
  | setFollows (author : String) (keys : List String)
  /-- An author's mutes are replaced. -/
  | setMutes (author : String) (keys : List String)

/-- A graph after a change. -/
def Change.apply : SocialGraph → Change → SocialGraph
  | graph, .ingest event => graph.ingest event
  | graph, .ingestAll events => graph.ingestAll events
  | graph, .setFollows author keys => graph.setFollows author keys
  | graph, .setMutes author keys => graph.setMutes author keys

/-- The graph of a user after some changes, nothing being known at first. -/
def after (user : Option String) (changes : List Change) : SocialGraph :=
  changes.foldl Change.apply { user }

/-- The scores of a graph are those of its lists. -/
def IsRated : Prop := graph.rated = graph

/-- Scores that were worked out from the lists are those of the lists. -/
theorem isRated_rated : graph.rated.IsRated := rfl

/-- Nothing is known at first, and no one is scored. -/
theorem isRated_fresh (user : Option String) : IsRated { user } := by
  cases user <;> rfl

/-- **A change leaves a graph whose scores are those of its lists.** -/
theorem Change.isRated_apply (change : Change) : (change.apply graph).IsRated := by
  cases change with
  | ingest event => exact isRated_rated _
  | ingestAll events => exact isRated_rated _
  | setFollows author keys => exact isRated_rated _
  | setMutes author keys => exact isRated_rated _

/-- Taking in an event leaves the user alone. -/
theorem user_receive (event : Event) : (graph.receive event).user = graph.user := by
  rw [receive]
  split_ifs <;> rfl

/-- Taking in events leaves the user alone. -/
theorem user_ingestAll (events : List Event) : (graph.ingestAll events).user = graph.user := by
  rw [ingestAll, rated]
  induction events generalizing graph with
  | nil => rfl
  | cons event rest ih => rw [List.foldl_cons, ih, user_receive]

/-- A change leaves the user alone. -/
theorem Change.user_apply (change : Change) : (change.apply graph).user = graph.user := by
  cases change with
  | ingest event => exact user_ingestAll graph [event]
  | ingestAll events => exact user_ingestAll graph events
  | setFollows author keys => rfl
  | setMutes author keys => rfl

/-- **Any run of changes leaves a graph whose scores are those of its lists**, seen from the same
user. -/
theorem isRated_after (user : Option String) (changes : List Change) :
    (after user changes).IsRated ∧ (after user changes).user = user := by
  suffices h : ∀ graph : SocialGraph, graph.IsRated →
      (changes.foldl Change.apply graph).IsRated ∧
        (changes.foldl Change.apply graph).user = graph.user from
    h { user } (isRated_fresh user)
  induction changes with
  | nil => exact fun graph hrated => ⟨hrated, rfl⟩
  | cons change rest ih =>
    intro graph _
    rw [List.foldl_cons, ← change.user_apply graph]
    exact ih _ (change.isRated_apply graph)

variable {graph}

/-- The score of a key of a rated graph is the number of raters that follow it less the number that
mute it. -/
theorem IsRated.score_eq (h : graph.IsRated) (key : String) :
    graph.score key = graph.balance graph.raters key := by
  rw [← getD_tally, score]
  nth_rewrite 1 [← h]
  rfl

/-- The highest score of a rated graph is the greatest of those whom raters list; it is zero when they
list no one. -/
theorem IsRated.maxScore_cases (h : graph.IsRated) :
    IsGreatest {n | ∃ key, graph.Rates key ∧ graph.score key = n} graph.maxScore ∨
      ((∀ key, ¬graph.Rates key) ∧ graph.maxScore = 0) := by
  have hmax : graph.maxScore = highest graph.tally.values := by
    nth_rewrite 1 [← h]
    rfl
  have hscored : {n | ∃ key, graph.Rates key ∧ graph.score key = n} =
      {n | n ∈ graph.tally.values} := by
    ext n
    rw [Set.mem_ofPred_eq, Set.mem_ofPred_eq, SortedMap.mem_values]
    refine exists_congr fun key => ?_
    rw [h.score_eq, ← getD_tally, ← mem_keys_tally, SortedMap.mem_keys]
    constructor
    · rintro ⟨⟨score, hfound⟩, rfl⟩
      rw [hfound]
      rfl
    · intro hfound
      exact ⟨⟨n, hfound⟩, by rw [hfound]; rfl⟩
  rw [hmax, hscored]
  by_cases hvalues : graph.tally.values = []
  · refine Or.inr ⟨fun key hrates => ?_, by rw [hvalues]; rfl⟩
    have hkeys := (mem_keys_tally graph).mpr hrates
    rw [SortedMap.keys, List.map_eq_nil_iff.mp hvalues] at hkeys
    exact absurd hkeys List.not_mem_nil
  · exact Or.inl (isGreatest_highest hvalues)

/-- **Trust scores always agree with the lists**, whatever changes were made to a graph of a user. The
score of a target is the trust in it as the user sees it; without a user it is the number of authors
whose follow list has the target less the number of those authors of follow lists whose mute list has
it. The highest score is the greatest of those whom a rater lists, and zero when raters list no
one. -/
theorem scores_agree_with_lists (user : Option String) (changes : List Change) :
    let graph := after user changes
    (∀ target, graph.score target =
      match user with
      | some author => graph.scoreFor (some author) target
      | none => Int.ofNat (graph.followers target).size -
          Int.ofNat ((graph.muters target).toList.filter
            (fun author => decide (author ∈ graph.followLists.keys))).length) ∧
      (IsGreatest {n | ∃ key, graph.Rates key ∧ graph.score key = n} graph.maxScore ∨
        ((∀ key, ¬graph.Rates key) ∧ graph.maxScore = 0)) := by
  obtain ⟨hrated, huser⟩ := isRated_after user changes
  refine ⟨fun target => ?_, hrated.maxScore_cases⟩
  rw [hrated.score_eq, raters, huser]
  cases user with
  | some author => rfl
  | none => exact balance_followLists _ target

end RelayFeeds.SocialGraph
