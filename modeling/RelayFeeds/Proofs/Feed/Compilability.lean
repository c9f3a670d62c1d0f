import Mathlib.Tactic.TFAE
import RelayFeeds.Proofs.Feed.Calls
import RelayFeeds.Proofs.Feed.Decoded

/-! # Which feeds compile

A feed is refused for its nodes of an unrecognised type and for nothing else. Its report tells as
much by its type tags, since decoding reserves the recognised ones for the nodes that have them. A
response that cannot be read asks for nothing and never ends the call.

* **`canCompile_iff_refuse_not_mem`** — a feed compiles when its script refuses nothing.
* **`compilable_tfae`** — the ways of deciding whether a decoded feed compiles agree. -/

namespace RelayFeeds

namespace Services

/-- Requests and providers answer every call, whatever they answer. -/
structure Answering (services : Services) : Prop where
  /-- Every request brings events. -/
  request : ∀ earlier asked, ∃ events, services.request earlier asked = .ok events
  /-- Every provider responds. -/
  provider : ∀ earlier asked, ∃ event, services.provider earlier asked = .ok event

/-- Services that answer every call: requests bring nothing, and providers respond with an event that
says nothing. -/
def quiet : Services where
  clock _ := 0
  request _ _ := .ok []
  provider _ _ := .ok ⟨.zero, .zero, 0, 0, [], ""⟩
  scope _ := .empty
  trust _ := .empty

/-- Quiet services answer every call. -/
theorem answering_quiet : Answering quiet where
  request _ _ := ⟨_, rfl⟩
  provider _ _ := ⟨_, rfl⟩

variable {services : Services} {earlier : List Call} {call : Call} {error : FeedError}

/-- A failing call ends with the failure of a service. -/
theorem exists_serviceFailed_of_failure? (h : services.failure? earlier call = some error) :
    ∃ service failure, error = .serviceFailed service failure := by
  cases call with
  | clock => cases h
  | request asked =>
    rw [failure?] at h
    split at h
    · cases h
    · cases h
      exact ⟨_, _, rfl⟩
  | provider asked =>
    rw [failure?] at h
    split at h
    · cases h
    · cases h
      exact ⟨_, _, rfl⟩

/-- No call of services that answer fails. -/
theorem Answering.failure?_eq_none (h : services.Answering) :
    services.failure? earlier call = none := by
  cases call with
  | clock => rfl
  | request asked =>
    obtain ⟨events, hanswer⟩ := h.request earlier asked
    rw [failure?, hanswer]
  | provider asked =>
    obtain ⟨event, hanswer⟩ := h.provider earlier asked
    rw [failure?, hanswer]

end Services

namespace Feed

/-! ### Nodes of a recognised type -/

/-- A node of a recognised type has a recognised type tag. -/
theorem typeName_mem_knownTags {node : Feed} (h : node.isKnown = true) :
    node.typeName ∈ knownTags := by
  cases node with
  | selector chosen => cases chosen <;> simp [typeName, Selector.typeName, knownTags]
  | unknown tag arguments => cases h
  | _ => simp [typeName, knownTags]

/-- Feeds can be compiled when each can. -/
theorem canCompileAll_eq_all (feeds : List Feed) : canCompileAll feeds = feeds.all canCompile := by
  induction feeds with
  | nil => rfl
  | cons feed rest ih => rw [canCompileAll, ih, List.all_cons]

/-- A feed can be compiled when it is of a recognised type and its children can be compiled. -/
theorem canCompile_eq_and (feed : Feed) :
    feed.canCompile = (feed.isKnown && feed.children.all canCompile) := by
  cases feed with
  | union feeds =>
    rw [canCompile, canCompileAll_eq_all]
    rfl
  | intersection feeds =>
    rw [canCompile, canCompileAll_eq_all]
    rfl
  | _ => simp [canCompile, isKnown, children]

/-- **A feed can be compiled when all its nodes are of a recognised type.** -/
theorem canCompile_iff {feed : Feed} :
    feed.canCompile = true ↔ ∀ node ∈ feed.nodes, node.isKnown = true := by
  rw [← List.all_eq_true]
  induction feed using treeInduction with
  | node feed ih =>
    rw [canCompile_eq_and, all_nodes, Bool.and_eq_true, Bool.and_eq_true, List.all_eq_true,
      List.all_eq_true]
    exact and_congr_right fun _ => forall₂_congr ih

/-- A node has a step that refuses it only when it is of an unrecognised type. -/
theorem exists_refuse_mem_steps_iff {node : Feed} :
    (∃ tag, .refuse tag ∈ steps node) ↔ node.isKnown = false := by
  cases node with
  | list items =>
    rw [steps]
    split <;> simp [isKnown]
  | provider items => simp [steps, isKnown]
  | unknown tag arguments => simp [steps, isKnown]
  | _ => simp [steps, isKnown]

/-- **A feed can be compiled when its script refuses nothing.** -/
theorem canCompile_iff_refuse_not_mem {feed : Feed} :
    feed.canCompile = true ↔ ∀ tag, .refuse tag ∉ feed.script := by
  rw [canCompile_iff]
  constructor
  · intro h tag hrefuse
    obtain ⟨node, hnode, hstep⟩ := List.mem_flatMap.mp hrefuse
    have hunknown := exists_refuse_mem_steps_iff.mp ⟨tag, hstep⟩
    rw [h node hnode] at hunknown
    cases hunknown
  · intro h node hnode
    by_contra hunknown
    obtain ⟨tag, hstep⟩ := exists_refuse_mem_steps_iff.mpr (Bool.eq_false_iff.mpr hunknown)
    exact h tag (List.mem_flatMap.mpr ⟨node, hnode, hstep⟩)

/-! ### Reports -/

/-- The type tags of a report are those of the nodes of the feed. -/
theorem mem_keys_report {feed : Feed} {tag : String} :
    tag ∈ feed.report.nodes.keys ↔ ∃ node ∈ feed.nodes, node.typeName = tag := by
  have hempty : tag ∉ (SortedMap.empty : SortedMap String Nat).keys := List.not_mem_nil
  rw [report, SortedMap.mem_keys_tally, or_iff_right hempty]

/-- **The counts of a report add up to the number of nodes of the feed.** -/
theorem sum_values_report (feed : Feed) : feed.report.nodes.values.sum = feed.nodes.length := by
  rw [report, SortedMap.sum_values_tally]
  exact Nat.zero_add _

/-! ### Errors and items -/

/-- A feed with a node of an unrecognised type ends in an error whatever the services do. -/
theorem exists_error_of_not_canCompile {feed : Feed} (h : feed.canCompile = false)
    (services : Services) : ∃ error, (compile services feed).result = .error error := by
  obtain ⟨made, error, -, -, hresult⟩ | ⟨made, items, hperform, -, -⟩ := compile_cases services feed
  · exact ⟨error, hresult⟩
  · -- a script made without an error has calls only
    obtain ⟨hcalls, -⟩ := Services.perform_eq_none_iff.mp hperform
    rw [← Bool.not_eq_true, canCompile_iff_refuse_not_mem, hcalls] at h
    simp at h

/-- A feed without nodes of an unrecognised type ends in no error but that of a failing call. -/
theorem exists_failing_call_of_canCompile {feed : Feed} (h : feed.canCompile = true)
    {services : Services} {error : FeedError}
    (herror : (compile services feed).result = .error error) :
    ∃ earlier call, services.failure? earlier call = some error := by
  obtain ⟨made, failure, hperform, -, hresult⟩ | ⟨made, items, -, -, hresult⟩ :=
    compile_cases services feed
  · rw [hresult] at herror
    cases herror
    cases Services.perform_eq_error_iff.mp hperform with
    | failing split succeed fails => exact ⟨_, _, fails⟩
    | @refused _ tag _ split succeed =>
      have hrefuse : Step.refuse tag ∈ feed.script := by
        rw [split]
        exact List.mem_append_right _ List.mem_cons_self
      exact absurd hrefuse (canCompile_iff_refuse_not_mem.mp h tag)
  · rw [hresult] at herror
    cases herror

/-- **The ways of deciding whether a decoded feed compiles agree**: that all nodes are of a recognised
type, that the report says so, that every type tag of the report is a recognised one, and that there
are items with all services that answer every call, whatever the answers. The counts of the report
add up to the number of nodes. A feed that cannot be compiled ends in an error with any services, and
the only error of one that can is the failure of a service. -/
theorem compilable_tfae {value : Json} {feed : Feed} (h : ofJson value = .ok feed) :
    [feed.canCompile = true, feed.report.compilable = true,
      ∀ tag ∈ feed.report.nodes.keys, tag ∈ knownTags,
      ∀ services : Services, services.Answering →
        ∃ items, (compile services feed).result = .ok items].TFAE ∧
      feed.report.nodes.values.sum = feed.nodes.length ∧
      (feed.canCompile = false →
        ∀ services, ∃ error, (compile services feed).result = .error error) ∧
      (feed.canCompile = true → ∀ services error, (compile services feed).result = .error error →
        ∃ service failure, error = .serviceFailed service failure) := by
  refine ⟨?_, sum_values_report feed, exists_error_of_not_canCompile, ?_⟩
  · tfae_have 1 ↔ 2 := Iff.rfl
    tfae_have 1 → 3 := by
      intro hcompile tag htag
      obtain ⟨node, hnode, rfl⟩ := mem_keys_report.mp htag
      exact typeName_mem_knownTags (canCompile_iff.mp hcompile node hnode)
    tfae_have 3 → 1 := by
      intro htags
      refine canCompile_iff.mpr fun node hnode => isKnown_of_typeName_mem h hnode ?_
      exact htags _ (mem_keys_report.mpr ⟨node, hnode, rfl⟩)
    tfae_have 1 → 4 := by
      intro hcompile services hanswering
      cases hresult : (compile services feed).result with
      | ok items => exact ⟨items, rfl⟩
      | error error =>
        obtain ⟨earlier, call, hfails⟩ := exists_failing_call_of_canCompile hcompile hresult
        rw [hanswering.failure?_eq_none] at hfails
        cases hfails
    tfae_have 4 → 1 := by
      intro hitems
      by_contra hcompile
      obtain ⟨items, hresult⟩ := hitems _ Services.answering_quiet
      obtain ⟨error, herror⟩ :=
        exists_error_of_not_canCompile (Bool.eq_false_iff.mpr hcompile) Services.quiet
      rw [hresult] at herror
      cases herror
    tfae_finish
  · intro hcompile services error herror
    obtain ⟨earlier, call, hfails⟩ := exists_failing_call_of_canCompile hcompile herror
    exact Services.exists_serviceFailed_of_failure? hfails

/-- A union of authors and of a node that a newer client has written. -/
def authorOrHologram : Json :=
  .array [.string "union", .array [.string "author", .string "ab"],
    .array [.string "hologram", .string "cd"]]

/-- The union with a node of an unrecognised type decodes; its report has three nodes and says that it
does not compile, and it ends in an error with any services. -/
theorem compilable_author_or_hologram :
    ∃ feed, ofJson authorOrHologram = .ok feed ∧
      (feed.report.compilable = true ↔ ∀ services : Services, services.Answering →
        ∃ items, (compile services feed).result = .ok items) ∧
      feed.report.nodes.values.sum = 3 ∧
      ∀ services, ∃ error, (compile services feed).result = .error error := by
  have hdecode : ofJson authorOrHologram =
      .ok (.union [.selector (.author ["ab"]), .unknown "hologram" [.string "cd"]]) := by rfl
  obtain ⟨hagree, hsum, herror, -⟩ := compilable_tfae hdecode
  exact ⟨_, hdecode, hagree.out 1 3, hsum, herror rfl⟩

end Feed

end RelayFeeds
