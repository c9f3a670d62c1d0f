import RelayFeeds.Proofs.Number.Order
import RelayFeeds.Proofs.SocialGraph.Trust

/-! # Trust windows and distrust

A trust window is a pair of fractions of the highest score. Where the highest score is not negative, a
window that starts at a fraction that is not negative starts at a score that is not, so no one with a
negative score is in it. Where everyone who is scored is distrusted the highest score is negative too,
and the fractions count downwards from zero: a window that starts below the whole of the highest score
is empty, and any other one has distrusted keys only.

* **`mem_inTrustRange`** — who is in a window.
* **`IsRated.score_le_maxScore`** — no one is scored above the highest score.
* **`nonnegative_window_admits`** — whom a window that starts at no negative fraction admits.
* **`window_admits_distrusted`** — a window that admits a distrusted key. -/

namespace RelayFeeds.SocialGraph

variable {graph : SocialGraph} {key : String} {min max : Double}

/-! ### Membership -/

/-- A key is in a window when it is scored between the two fractions of the highest score. -/
theorem mem_inTrustRange :
    key ∈ graph.inTrustRange min max ↔ ∃ score, graph.scores.find? key = some score ∧
      (min.mul (Double.ofInt graph.maxScore)).le (Double.ofInt score) = true ∧
        (Double.ofInt score).le (max.mul (Double.ofInt graph.maxScore)) = true := by
  simp only [inTrustRange, SortedSet.mem_ofList, List.mem_map, List.mem_filter, Bool.and_eq_true,
    Prod.exists, exists_and_right, exists_eq_right, SortedMap.mem_entries]

/-- Whoever is in a window is scored, and not below the start of the window. -/
theorem key_start_le (h : key ∈ graph.inTrustRange min max) :
    graph.scores.find? key = some (graph.score key) ∧
      (min.mul (Double.ofInt graph.maxScore)).key ≤ (Double.ofInt (graph.score key)).key := by
  obtain ⟨score, hfound, hstart, -⟩ := mem_inTrustRange.mp h
  have hscore : graph.score key = score := by rw [SocialGraph.score, hfound, Option.getD_some]
  rw [hscore]
  exact ⟨hfound, (Double.le_iff.mp hstart).2.2⟩

/-- No one is scored above the highest score. -/
theorem IsRated.score_le_maxScore (h : graph.IsRated) {score : Int}
    (hfound : graph.scores.find? key = some score) : graph.score key ≤ graph.maxScore := by
  have htally : graph.scores = graph.tally := by
    nth_rewrite 1 [← h]
    rfl
  have hrates : graph.Rates key := by
    rw [← mem_keys_tally, ← htally, SortedMap.mem_keys]
    exact ⟨score, hfound⟩
  obtain hgreatest | ⟨hnone, -⟩ := h.maxScore_cases
  · exact hgreatest.2 ⟨key, hrates, rfl⟩
  · exact absurd hrates (hnone key)

/-! ### Windows that start at no negative fraction -/

/-- Under a highest score that is not negative no one with a negative score is admitted. -/
theorem score_nonneg_of_mem_inTrustRange (hmin : 0 ≤ min.key) (hmax : 0 ≤ graph.maxScore)
    (h : key ∈ graph.inTrustRange min max) : 0 ≤ graph.score key := by
  by_contra hneg
  have hstart := (key_start_le h).2
  have htop : 0 ≤ (Double.ofInt graph.maxScore).key := Double.key_ofInt_mono hmax
  have hproduct := Double.key_mul_nonneg hmin htop
  have hscore := Double.key_ofInt_neg (not_le.mp hneg)
  omega

/-- Under a negative highest score a window that starts below the whole of it admits no one. -/
theorem IsRated.not_mem_inTrustRange (h : graph.IsRated) (hmin : 0 ≤ min.key)
    (hone : min.key < (Double.ofInt 1).key) (hmax : graph.maxScore < 0)
    (hfits : -0x8000000000000000 ≤ graph.maxScore) : key ∉ graph.inTrustRange min max := by
  intro hmem
  obtain ⟨hfound, hstart⟩ := key_start_le hmem
  have hscore : (Double.ofInt (graph.score key)).key ≤ (Double.ofInt graph.maxScore).key :=
    Double.key_ofInt_mono (h.score_le_maxScore hfound)
  -- the start lies above the highest score, which no one exceeds
  have hlift := Double.key_lt_key_mul hmin hone hmax hfits
  omega

/-- **Whom a window that starts at no negative fraction admits**, whatever changes were made to a graph
of a user and wherever the window ends. Under a highest score that is not negative it admits no one
with a negative score. Under a negative highest score it admits only keys with a negative score, and
no one at all if it starts below the whole of that score and the score fits 64 bits. -/
theorem nonnegative_window_admits (user : Option String) (changes : List Change) {min : Double}
    (hmin : Double.zero.le min = true) (max : Double) :
    let graph := after user changes
    (0 ≤ graph.maxScore → ∀ key ∈ graph.inTrustRange min max, 0 ≤ graph.score key) ∧
      (graph.maxScore < 0 →
        (∀ key ∈ graph.inTrustRange min max, graph.score key < 0) ∧
          (-0x8000000000000000 ≤ graph.maxScore → (Double.ofInt 1).le min = false →
            graph.inTrustRange min max = SortedSet.empty)) := by
  intro graph
  have hrated : graph.IsRated := (isRated_after user changes).1
  obtain ⟨-, hnumber, hzero⟩ := Double.le_iff.mp hmin
  have hstart : 0 ≤ min.key := hzero
  refine ⟨fun hmax key hmem => score_nonneg_of_mem_inTrustRange hstart hmax hmem, ?_⟩
  intro hmax
  refine ⟨fun key hmem => ?_, fun hfits hbelow => ?_⟩
  · exact (hrated.score_le_maxScore (key_start_le hmem).1).trans_lt hmax
  · -- a start that does not reach one lies below it, being a number
    have hone : min.key < (Double.ofInt 1).key := by
      by_contra hle
      have hreached : (Double.ofInt 1).le min = true :=
        Double.le_iff.mpr ⟨by decide +kernel, hnumber, not_lt.mp hle⟩
      rw [hbelow] at hreached
      cases hreached
    refine SortedSet.ext fun key => iff_of_false ?_ (SortedSet.not_mem_empty key)
    exact hrated.not_mem_inTrustRange hstart hone hmax hfits

/-- One friend, who mutes one key. -/
def grudge : List Change := [.setFollows "u" ["a"], .setMutes "a" ["b"]]

/-- At a friend with a follow and a mute, and at a friend with a mute only. -/
theorem nonnegative_window_admits_friends :
    Double.zero.le Double.zero = true ∧
    "c" ∈ (after (some "u") (grudge ++ [.setFollows "a" ["c"]])).inTrustRange
      Double.zero (Double.ofInt 1) ∧
    0 ≤ (after (some "u") (grudge ++ [.setFollows "a" ["c"]])).score "c" ∧
    (after (some "u") grudge).inTrustRange Double.zero (Double.ofInt 1) = SortedSet.empty := by
  have hmin : Double.zero.le Double.zero = true := by decide +kernel
  have hmem : "c" ∈ (after (some "u") (grudge ++ [.setFollows "a" ["c"]])).inTrustRange
      Double.zero (Double.ofInt 1) := by
    decide +kernel
  have hfollow :=
    nonnegative_window_admits (some "u") (grudge ++ [.setFollows "a" ["c"]]) hmin (Double.ofInt 1)
  have hmute := nonnegative_window_admits (some "u") grudge hmin (Double.ofInt 1)
  exact ⟨hmin, hmem, hfollow.1 (by decide +kernel) "c" hmem,
    (hmute.2 (by decide +kernel)).2 (by decide +kernel) (by decide +kernel)⟩

/-- **A window that starts at no negative fraction can admit a distrusted key**, when everyone who is
scored is distrusted. -/
theorem window_admits_distrusted :
    Double.zero.le (Double.ofInt 1) = true ∧
    "b" ∈ (after (some "u") grudge).inTrustRange (Double.ofInt 1) (Double.ofInt 1) ∧
    (after (some "u") grudge).score "b" = -1 := by
  decide +kernel

end RelayFeeds.SocialGraph
