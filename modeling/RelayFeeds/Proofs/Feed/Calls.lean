import RelayFeeds.Proofs.Feed.Exactness
import RelayFeeds.Proofs.Feed.Script

/-! # The calls of compiling a feed

Compiling reads the clock and then follows the script of the feed, which lists the steps of its nodes,
a node before its children: one request for a list node that names lists, one call for each item of a
provider node, a refusal for a node of an unrecognised type, and nothing for any other node. The
selectors that event tags become ask for nothing more, and no later reading of the clock matters.

* **`follows_compileNode`** — compiling follows the script of the feed.
* **`compile_absolute`** — windows are resolved against the one reading of the clock.
* **`compile_follows_script`** — calls and result of compiling any feed with any services. -/

namespace RelayFeeds

/-- The window of the times that the bounds of a window stand for at a present time. -/
def TimeWindow.absolute (window : TimeWindow) (now : UInt64) : TimeWindow where
  since := window.since.map (window.moment .since now)
  till := window.till.map (window.moment .till now)
  relative := []

/-- A bound of a window made absolute stands for its own time. -/
theorem TimeWindow.moment_absolute (window : TimeWindow) (bound : Bound)
    (now later time : UInt64) : (window.absolute now).moment bound later time = time := by
  rw [moment, absolute, if_pos List.not_mem_nil]

/-- A window made absolute is resolved at any present time as the window is at its own. -/
@[simp] theorem TimeWindow.resolve_absolute (window : TimeWindow) (now later : UInt64) :
    (window.absolute now).resolve later = window.resolve now := by
  -- no bound of it is an offset, so a second resolution changes nothing
  have hmoment : ∀ bound, (window.absolute now).moment bound later = id := fun bound =>
    funext (window.moment_absolute bound now later)
  rw [resolve_eq, resolve_eq, hmoment, hmoment, Option.map_id_apply, Option.map_id_apply]
  rfl

namespace Feed

/-! ### Scripts of feeds -/

/-- The steps of a node. -/
def steps : Feed → List Step
  | .list items =>
    let addresses := (items.flatMap ListItem.addresses).eraseDups
    if addresses = [] then [] else [.call (.request ⟨[], nameFilters addresses⟩)]
  | .provider items => items.map (fun item => .call (.provider ⟨item.kind, item.tags, item.relays⟩))
  | .unknown tag _ => [.refuse tag]
  | _ => []

/-- The script of a feed: the steps of its nodes, a node before its children. -/
def script (feed : Feed) : List Step := feed.nodes.flatMap steps

/-- **The script of a feed is its steps and then the scripts of its children.** -/
theorem script_eq_append (feed : Feed) :
    feed.script = steps feed ++ feed.children.flatMap script := by
  rw [script, nodes_eq_cons, List.flatMap_cons, List.flatMap_assoc]
  rfl

/-- The script of a node without children is its steps. -/
theorem script_leaf {feed : Feed} (h : feed.children = []) : script feed = steps feed := by
  rw [script_eq_append, h, List.flatMap_nil, List.append_nil]

variable {services : Services} {now : UInt64}

/-- Asking providers follows the script of one call for each item. -/
theorem follows_askProviders (items : List ProviderItem) :
    Follows services (askProviders services items) (steps (.provider items)) := by
  induction items with
  | nil => exact Follows.pure []
  | cons item rest ih =>
    exact (follows_askProvider item.request).bind fun event => ih.map _

/-- Asking for lists follows the script of one request, or none when no list is named. -/
theorem follows_askLists (items : List ListItem) :
    Follows services (askLists services items) (steps (.list items)) := by
  rw [askLists, steps, ← Filter.distinct_eq_eraseDups]
  cases Filter.distinct (items.flatMap ListItem.addresses) with
  | nil => exact Follows.pure _
  | cons address rest => exact (follows_askEvents _).map _

/-- Nodes compiled one after another follow their scripts one after another. -/
theorem follows_compileNodes {feeds : List Feed}
    (h : ∀ feed ∈ feeds, Follows services (compileNode services now feed) feed.script) :
    Follows services (compileNodes services now feeds) (feeds.flatMap script) := by
  induction feeds with
  | nil => exact Follows.pure []
  | cons feed rest ih =>
    rw [List.forall_mem_cons] at h
    rw [compileNodes, List.flatMap_cons]
    exact h.1.bind fun items => (ih h.2).map _

/-- **Compiling a node follows the script of the feed.** -/
theorem follows_compileNode (feed : Feed) :
    Follows services (compileNode services now feed) feed.script := by
  induction feed using childrenInduction with
  | union feeds ih =>
    rw [compileNode, script_eq_append]
    exact (follows_compileNodes ih).map _
  | intersection feeds ih =>
    rw [compileNode, script_eq_append]
    exact (follows_compileNodes ih).map _
  | selector chosen => exact Follows.pure _
  | scope scopes => exact Follows.pure _
  | time windows => exact Follows.pure _
  | trust windows => exact Follows.pure _
  | provider items =>
    rw [compileNode, script_leaf rfl]
    exact (follows_askProviders items).map _
  | list items =>
    rw [compileNode, script_leaf rfl]
    exact (follows_askLists items).map _
  | unknown tag arguments => exact follows_refuse tag

/-! ### The reading of the clock -/

mutual

/-- A feed with every window made absolute at a present time. -/
def absolute (now : UInt64) : Feed → Feed
  | .union feeds => .union (absoluteAll now feeds)
  | .intersection feeds => .intersection (absoluteAll now feeds)
  | .time windows => .time (windows.map (·.absolute now))
  | leaf => leaf

/-- Feeds with every window made absolute at a present time. -/
def absoluteAll (now : UInt64) : List Feed → List Feed
  | [] => []
  | feed :: rest => absolute now feed :: absoluteAll now rest

end

/-- Feeds are made absolute one by one. -/
theorem absoluteAll_eq_map (now : UInt64) (feeds : List Feed) :
    absoluteAll now feeds = feeds.map (absolute now) := by
  induction feeds with
  | nil => rfl
  | cons feed rest ih => rw [absoluteAll, ih, List.map_cons]

/-- Nodes that are changed one by one compile alike one after another when each of them does. -/
theorem compileNodes_map_congr {others : Services} {later : UInt64} {change : Feed → Feed}
    {feeds : List Feed}
    (h : ∀ feed ∈ feeds, compileNode others later (change feed) = compileNode services now feed) :
    compileNodes others later (feeds.map change) = compileNodes services now feeds := by
  induction feeds with
  | nil => rfl
  | cons feed rest ih =>
    rw [List.forall_mem_cons] at h
    rw [List.map_cons, compileNodes, compileNodes, h.1, ih h.2]

/-- Windows that are made absolute give the same items at any present time. -/
theorem timeItems_absolute (windows : List TimeWindow) (now later : UInt64) :
    timeItems (windows.map (·.absolute now)) later = timeItems windows now := by
  rw [timeItems, timeItems, List.filterMap_map]
  congr 3
  funext window
  rw [Function.comp_apply, windowFilter?, windowFilter?, TimeWindow.resolve_absolute]

/-- Asking providers does not look at the clock. -/
theorem askProviders_clock (clock : List Call → UInt64) (items : List ProviderItem) :
    askProviders { services with clock } items = askProviders services items := by
  induction items with
  | nil => rfl
  | cons item rest ih =>
    rw [askProviders, askProviders, ih]
    rfl

/-- **Compiling a node is compiling it with its windows made absolute**, at whatever present time and
with whatever clock. -/
theorem compileNode_absolute (clock : List Call → UInt64) (later : UInt64) (feed : Feed) :
    compileNode { services with clock } later (feed.absolute now) =
      compileNode services now feed := by
  induction feed using childrenInduction with
  | union feeds ih =>
    rw [absolute, absoluteAll_eq_map, compileNode, compileNode, compileNodes_map_congr ih]
  | intersection feeds ih =>
    rw [absolute, absoluteAll_eq_map, compileNode, compileNode, compileNodes_map_congr ih]
  | selector chosen => rfl
  | scope scopes => rfl
  | time windows => rw [absolute, compileNode, compileNode, timeItems_absolute]
  | trust windows => rfl
  | provider items =>
    have hleaf : absolute now (.provider items) = .provider items := rfl
    rw [hleaf, compileNode, compileNode, askProviders_clock]
  | list items => rfl
  | unknown tag arguments => rfl

/-- Compiling runs the session of the feed after the one reading of the clock. -/
theorem compile_eq_run (services : Services) (feed : Feed) :
    compile services feed =
      ⟨((compileNode services (services.clock []) feed).run.run [.clock]).2,
        ((compileNode services (services.clock []) feed).run.run [.clock]).1⟩ := rfl

/-- **Windows are resolved against the one reading of the clock.** -/
theorem compile_absolute (clock : List Call → UInt64) (feed : Feed) :
    compile { services with clock } (feed.absolute (services.clock [])) =
      compile services feed := by
  rw [compile_eq_run, compile_eq_run, compileNode_absolute]

/-! ### Calls and result -/

/-- No step of a script reads the clock. -/
theorem clock_not_mem_script (feed : Feed) : Step.call .clock ∉ feed.script := by
  rw [script, List.mem_flatMap]
  rintro ⟨node, -, hstep⟩
  cases node with
  | list items =>
    rw [steps] at hstep
    split at hstep
    · cases hstep
    · cases hstep with
      | tail _ hrest => cases hrest
  | provider items =>
    obtain ⟨item, -, hitem⟩ := List.mem_map.mp hstep
    cases hitem
  | unknown tag arguments =>
    cases hstep with
    | tail _ hrest => cases hrest
  | _ => cases hstep

/-- Selectors compile as a union to their items without a call. -/
theorem compileNode_selectors (selectors : List Selector) :
    compileNode services now (.union (selectors.map .selector)) =
      pure (selectorItems selectors) := by
  have hplain : isPlain (.union (selectors.map .selector)) = true := by
    rw [isPlain_union, List.all_map, List.all_eq_true]
    intro chosen _
    rfl
  rw [compileNode_of_isPlain _ hplain, plainItems_union, List.flatMap_map]
  rfl

/-- A provider node compiles the selectors that its responses become as a union. -/
theorem compileNode_provider (items : List ProviderItem) :
    compileNode services now (.provider items) =
      askProviders services items >>= fun selectors =>
        compileNode services now (.union (selectors.map .selector)) := by
  rw [compileNode]
  simp only [compileNode_selectors]

/-- A list node compiles the selectors that its lists become as a union. -/
theorem compileNode_list (items : List ListItem) :
    compileNode services now (.list items) =
      askLists services items >>= fun selectors =>
        compileNode services now (.union (selectors.map .selector)) := by
  rw [compileNode]
  simp only [compileNode_selectors]

/-- A run of a feed after the clock is read: the calls of its script, and the error that cuts it or
items when nothing does. -/
theorem compile_cases (services : Services) (feed : Feed) :
    (∃ made error, services.perform [.clock] feed.script = (made, some error) ∧
      (compile services feed).calls = .clock :: made ∧
      (compile services feed).result = .error error) ∨
    ∃ made items, services.perform [.clock] feed.script = (made, none) ∧
      (compile services feed).calls = .clock :: made ∧
      (compile services feed).result = .ok items := by
  rw [compile_eq_run]
  have hfollows := @follows_compileNode services (services.clock []) feed
  rcases hperform : services.perform [.clock] feed.script with ⟨made, error | error⟩
  · obtain ⟨items, hrun⟩ := hfollows.ends _ _ hperform
    exact Or.inr ⟨made, items, rfl, by rw [hrun]; rfl, by rw [hrun]⟩
  · have hrun := hfollows.cut _ _ _ hperform
    exact Or.inl ⟨made, error, rfl, by rw [hrun]; rfl, by rw [hrun]⟩

/-- Compiling ends with items after some calls exactly when making the script after the clock is read
makes those calls without an error. -/
theorem compile_ok_iff (services : Services) (feed : Feed) (made : List Call) :
    (compile services feed).calls = .clock :: made ∧
        (∃ items, (compile services feed).result = .ok items) ↔
      services.perform [.clock] feed.script = (made, none) := by
  obtain ⟨others, failure, hperform, hcalls, hresult⟩ | ⟨others, items, hperform, hcalls, hresult⟩ :=
    compile_cases services feed
  · simp [hperform, hresult]
  · simp [hperform, hcalls, hresult, eq_comm]

/-- Compiling ends with an error after some calls exactly when making the script after the clock is
read makes those calls and ends with that error. -/
theorem compile_error_iff (services : Services) (feed : Feed) (made : List Call)
    (error : FeedError) :
    (compile services feed).calls = .clock :: made ∧
        (compile services feed).result = .error error ↔
      services.perform [.clock] feed.script = (made, some error) := by
  obtain ⟨others, failure, hperform, hcalls, hresult⟩ | ⟨others, items, hperform, hcalls, hresult⟩ :=
    compile_cases services feed
  · simp [hperform, hcalls, hresult]
  · simp [hperform, hresult]

/-- The calls of compiling are the reading of the clock and then those that making the script makes. -/
theorem compile_calls (services : Services) (feed : Feed) :
    (compile services feed).calls = .clock :: (services.perform [.clock] feed.script).1 := by
  obtain ⟨made, error, hperform, hcalls, -⟩ | ⟨made, items, hperform, hcalls, -⟩ :=
    compile_cases services feed
  · rw [hcalls, hperform]
  · rw [hcalls, hperform]

/-- **Compiling follows the script of the feed.** The clock is read once, before any other call, and
every window is resolved against that reading: a feed whose windows are made absolute at it compiles
alike with any clock. The selectors that the tags of events become are compiled as a union, which
makes no call. The calls after the clock are those of the script, the result being items exactly when
all its steps are calls that succeed; it is an error exactly when the script is cut, right after its
first failing call or just before its first refused node, and then it is the error of that call or
refusal. -/
theorem compile_follows_script (services : Services) (feed : Feed) :
    (∃ made, (compile services feed).calls = .clock :: made ∧ Call.clock ∉ made) ∧
      (∀ clock, compile { services with clock } (feed.absolute (services.clock [])) =
        compile services feed) ∧
      (∀ now,
        (∀ items, compileNode services now (.provider items) =
          askProviders services items >>= fun selectors =>
            compileNode services now (.union (selectors.map .selector))) ∧
        (∀ items, compileNode services now (.list items) =
          askLists services items >>= fun selectors =>
            compileNode services now (.union (selectors.map .selector))) ∧
        ∀ selectors, compileNode services now (.union (selectors.map .selector)) =
          pure (selectorItems selectors)) ∧
      (∀ made, (feed.script = made.map Step.call ∧ services.Succeed [.clock] made) ↔
        (compile services feed).calls = .clock :: made ∧
          ∃ items, (compile services feed).result = .ok items) ∧
      ∀ made error, services.Cut [.clock] feed.script made error ↔
        (compile services feed).calls = .clock :: made ∧
          (compile services feed).result = .error error := by
  refine ⟨?_, fun clock => compile_absolute clock feed,
    fun now => ⟨compileNode_provider, compileNode_list, compileNode_selectors⟩, ?_, ?_⟩
  · exact ⟨_, compile_calls services feed, fun hmem =>
      clock_not_mem_script feed (Services.call_mem_of_mem_perform hmem)⟩
  · intro made
    rw [compile_ok_iff, Services.perform_eq_none_iff]
  · intro made error
    rw [compile_error_iff, Services.perform_eq_error_iff]

/-- Notes from the hour before the present up to a fixed time, and what a list names. -/
def recentNotes : Feed :=
  .union [.intersection [.selector (.kind [1]), .time [⟨some 3600, some 9000, [.since]⟩]],
    .list [⟨["a"], []⟩]]

/-- At ten thousand seconds the hour before the present starts at 6400, whatever a later reading of
the clock says, and the list is asked for after the clock is read. -/
theorem compile_recent_notes :
    recentNotes.absolute 10000 =
        .union [.intersection [.selector (.kind [1]), .time [⟨some 6400, some 9000, []⟩]],
          .list [⟨["a"], []⟩]] ∧
      compile (Services.offline { user := none } 0) (recentNotes.absolute 10000) =
        compile (Services.offline { user := none } 10000) recentNotes ∧
      (compile (Services.offline { user := none } 10000) recentNotes).calls =
        [.clock, .request ⟨[], nameFilters ["a"]⟩] ∧
      (compile (Services.offline { user := none } 10000) recentNotes).result =
        .ok [.ofFilters [{ kinds := some (SortedSet.singleton 1),
                           since := some 6400, till := some 9000 }]] := by
  obtain ⟨-, habsolute, -, hcalls, -⟩ :=
    compile_follows_script (Services.offline { user := none } 10000) recentNotes
  have hunion : RequestItem.union (RequestItem.intersection
        [[.ofFilters [{ kinds := some (SortedSet.singleton 1) }]],
          [.ofFilters [{ since := some 6400, till := some 9000 }]]] ++ selectorItems []) =
      [.ofFilters [{ kinds := some (SortedSet.singleton 1),
                     since := some 6400, till := some 9000 }]] := by decide +kernel
  refine ⟨by decide +kernel, habsolute fun _ => 0,
    ((hcalls [.request ⟨[], nameFilters ["a"]⟩]).mp ⟨rfl, ?_⟩).1, congrArg Except.ok hunion⟩
  rw [Services.succeed_cons]
  exact ⟨rfl, Services.succeed_nil⟩

end Feed

end RelayFeeds
