import RelayFeeds.Proofs.Feed.Calls
import RelayFeeds.Proofs.Json.Arranged

/-! # Provider responses — what they echo and what they contribute

A response repeats the request that it answers in a `request` tag, and its other tags may repeat the
id and the author of that request. Tags whose value is such a repetition are dropped, and the values
of the others become selectors. A response whose request cannot be read contributes nothing, and it
leaves what the other providers of its node contribute alone.

* **`echoed?_tagTexts`**, **`Json.mem_echoes`** — what a response echoes.
* **`responseSelectors_eq_filterMap`** — the selectors of a response, mapping by mapping.
* **`compile_provider`** — a node whose providers respond compiles their selectors one after another.
* **`compile_silencing`** — an unreadable response counts as one without tags, wherever in a feed.
* **`responses_without_echo`** — all of this about one response. -/

namespace RelayFeeds

/-! ### What a response echoes -/

/-- The text of the request that an event answers: the value of its first `request` tag, empty when
that tag has none. -/
def Event.requestText? (event : Event) : Option String :=
  (event.tags.find? (fun tag => tag.name == "request")).map (fun tag => tag.value?.getD "")

/-- The texts that the responses to a request echo. -/
def Json.echoes (request : Json) : List String :=
  ["id", "pubkey"].filterMap (fun key => (request.member? key).bind Json.text?)

/-- **The responses to a request echo its members `id` and `pubkey` that are texts.** -/
theorem Json.mem_echoes {text value : String} {request : Json} (h : parse? text = some request) :
    value ∈ request.echoes ↔ ∃ members, request = .object members ∧
      (("id", .string value) ∈ members ∨ ("pubkey", .string value) ∈ members) := by
  have htext : ∀ node : Json, node.text? = some value ↔ node = .string value := by
    intro node
    cases node <;> simp [Json.text?]
  -- the value of a text has no key twice, so what is found under a key is its one member
  simp [echoes, Option.bind_eq_some_iff, htext, (isArranged_of_parse? h).member?_eq_some_iff,
    and_or_left, exists_or]

/-- Nothing is echoed of a request that is no object. -/
theorem Json.echoes_of_not_object {request : Json} (h : ∀ members, request ≠ .object members) :
    request.echoes = [] := by
  cases request with
  | object members => exact absurd rfl (h members)
  | _ => rfl

/-- **What a response echoes**: nothing without a `request` tag, else what its first one says. -/
theorem echoed?_tagTexts (event : Event) :
    echoed? event.tagTexts =
      match event.requestText? with
      | none => some []
      | some text => (Json.parse? text).map Json.echoes := by
  have hname : (fun tag : List String => tag.head? == some "request") ∘ Tag.toList =
      fun tag => tag.name == "request" := rfl
  rw [echoed?, Event.requestText?, Event.tagTexts, List.find?_map, hname]
  cases event.tags.find? (fun tag => tag.name == "request") <;> rfl

/-! ### What a response contributes -/

/-- The values that the tags of a name have beside some texts, in tag order. -/
def Event.valuesBeside (event : Event) (echoed : List String) (name : String) : List String :=
  ((event.tags.filter (fun tag => tag.name = name)).filterMap Tag.value?).filter (· ∉ echoed)

/-- What is kept of a response has the values that are not echoed under each name. -/
theorem exists_responseTags? {event : Event} {echoed : List String}
    (h : echoed? event.tagTexts = some echoed) :
    ∃ tags, responseTags? event = some tags ∧
      ∀ mapping : TagMapping, mapping.values tags = event.valuesBeside echoed mapping.tag := by
  refine ⟨_, by rw [responseTags?, h, Option.map_some], ?_⟩
  intro mapping
  -- both sides pick at most one value from each tag, so they are compared tag by tag
  rw [Event.tagTexts, Event.valuesBeside, TagMapping.values, List.filter_map, List.filterMap_map,
    List.filterMap_filter, List.filter_filterMap, List.filterMap_filter]
  congr 1
  funext tag
  obtain ⟨name, others⟩ := tag
  cases others with
  | nil => simp [Tag.toList, Tag.value?]
  | cons value others =>
    by_cases hname : name = mapping.tag <;> by_cases hechoed : value ∈ echoed <;>
      simp [Tag.toList, Tag.value?, Option.filter, hname, hechoed]

namespace TagTarget

/-- The values that a target can use: those that are kinds for a selector of kinds, all for the
others. -/
def usable (target : TagTarget) (values : List String) : List String :=
  match target with
  | .kind => values.filter (fun value => (Text.readUInt16? value).isSome)
  | _ => values

/-- The selector that usable values become. -/
def apply (target : TagTarget) (values : List String) : Selector :=
  match target with
  | .address => .address values
  | .author => .author values
  | .id => .id values
  | .kind => .kind (values.filterMap Text.readUInt16?)
  | .relay => .relay values
  | .search => .search values
  | .tag key => .tag key values

/-- **Values become the selector of the usable ones, and none when no value is usable.** -/
theorem selector?_eq (target : TagTarget) (values : List String) :
    target.selector? values =
      if target.usable values = [] then none else some (target.apply (target.usable values)) := by
  cases target with
  | kind =>
    -- only here can values be left over that are not usable
    have hkinds : (values.filter (fun value => (Text.readUInt16? value).isSome)).filterMap
        Text.readUInt16? = values.filterMap Text.readUInt16? := by
      rw [List.filterMap_filter]
      congr 1
      funext value
      cases Text.readUInt16? value <;> rfl
    cases values with
    | nil => rfl
    | cons value rest => simp [selector?, usable, apply, hkinds]
  | _ => cases values <;> rfl

end TagTarget

/-- The texts that a selector names, its tag key aside. -/
def Selector.texts : Selector → List String
  | .address texts | .author texts | .id texts | .relay texts | .search texts => texts
  | .tag _ values => values
  | .kind _ => []

/-- A selector names usable values only. -/
theorem TagTarget.mem_of_mem_texts {target : TagTarget} {values : List String} {text : String}
    (h : text ∈ (target.apply (target.usable values)).texts) : text ∈ values := by
  cases target with
  | kind => cases h
  | _ => exact h

namespace Feed

section Response

variable {event : Event} {echoed : List String}

/-- **The selectors of a response**: for each mapping in order the one of its usable values that are
not echoed, if there are any. -/
theorem responseSelectors_eq_filterMap (h : echoed? event.tagTexts = some echoed)
    (mappings : List TagMapping) :
    responseSelectors event mappings = mappings.filterMap (fun mapping =>
      let values := mapping.target.usable (event.valuesBeside echoed mapping.tag)
      if values = [] then none else some (mapping.target.apply values)) := by
  obtain ⟨tags, htags, hvalues⟩ := exists_responseTags? h
  rw [responseSelectors, htags]
  simp only [TagMapping.selectors, hvalues, TagTarget.selector?_eq]

/-- **No selector of a response names a text that is echoed.** -/
theorem not_mem_echoed_of_mem_texts (h : echoed? event.tagTexts = some echoed)
    {mappings : List TagMapping} {chosen : Selector}
    (hchosen : chosen ∈ responseSelectors event mappings) {text : String}
    (htext : text ∈ chosen.texts) : text ∉ echoed := by
  rw [responseSelectors_eq_filterMap h, List.mem_filterMap] at hchosen
  obtain ⟨mapping, -, hmapping⟩ := hchosen
  obtain ⟨-, ⟨⟩⟩ := Option.ite_none_left_eq_some.mp hmapping
  have hmem := TagTarget.mem_of_mem_texts htext
  rw [Event.valuesBeside, List.mem_filter] at hmem
  simpa using hmem.2

/-- A response whose request cannot be read has no selectors. -/
theorem responseSelectors_of_unreadable (h : echoed? event.tagTexts = none)
    (mappings : List TagMapping) : responseSelectors event mappings = [] := by
  rw [responseSelectors, responseTags?, h]
  rfl

/-- An event without tags has no selectors as a response. -/
theorem responseSelectors_of_no_tags (h : event.tags = []) (mappings : List TagMapping) :
    responseSelectors event mappings = [] := by
  have hechoed : echoed? event.tagTexts = some [] := by
    rw [Event.tagTexts, h]
    rfl
  rw [responseSelectors_eq_filterMap hechoed, List.filterMap_eq_nil_iff]
  intro mapping _
  rw [Event.valuesBeside, h]
  cases mapping.target <;> rfl

end Response

end Feed

/-! ### Responses in a batch -/

/-- The providers of some items respond with events, one item being asked after another. -/
def Services.Respond (services : Services) (earlier : List Call) :
    List (ProviderItem × Event) → Prop
  | [] => True
  | exchange :: rest =>
    services.provider earlier exchange.1.request = .ok exchange.2 ∧
      services.Respond (earlier ++ [.provider exchange.1.request]) rest

/-- A response, without its tags when it is a given event. -/
def Event.silence (event response : Event) : Event :=
  if response = event then { event with tags := [] } else response

/-- Services whose providers respond without tags where they would respond with a given event. -/
def Services.silencing (services : Services) (event : Event) : Services :=
  { services with
    provider := fun earlier request => (services.provider earlier request).map event.silence }

namespace Feed

variable {services : Services}

/-- What an item and its response contribute to a node. -/
def contribution (exchange : ProviderItem × Event) : List Selector :=
  responseSelectors exchange.2 exchange.1.mappings

/-- Asking providers that respond takes the selectors of their responses one after another. -/
theorem run_askProviders {exchanges : List (ProviderItem × Event)} {earlier : List Call}
    (h : services.Respond earlier exchanges) :
    (askProviders services (exchanges.map Prod.fst)).run.run earlier =
      (.ok (exchanges.flatMap contribution),
        earlier ++ exchanges.map (fun exchange => .provider exchange.1.request)) := by
  induction exchanges generalizing earlier with
  | nil =>
    rw [List.map_nil, List.map_nil, List.append_nil]
    rfl
  | cons exchange rest ih =>
    obtain ⟨hresponse, hrest⟩ := h
    rw [List.map_cons, askProviders, Session.run_bind, run_askProvider, hresponse]
    simp only [Except.mapError]
    rw [Session.run_bind, ih hrest, List.map_cons, List.append_assoc]
    rfl

/-- **A node whose providers respond compiles the selectors of their responses as a union.** -/
theorem compile_provider {exchanges : List (ProviderItem × Event)}
    (h : services.Respond [.clock] exchanges) :
    (compile services (.provider (exchanges.map Prod.fst))).result =
      .ok (selectorItems (exchanges.flatMap contribution)) := by
  rw [compile_eq_run, compileNode, Session.run_bind, run_askProviders h]
  rfl

/-! ### Unreadable responses -/

/-- An unreadable response has no selectors with its tags or without them. -/
theorem responseSelectors_silence {event : Event} (h : echoed? event.tagTexts = none)
    (response : Event) (mappings : List TagMapping) :
    responseSelectors (event.silence response) mappings = responseSelectors response mappings := by
  rw [Event.silence]
  split_ifs with hresponse
  · rw [hresponse, responseSelectors_of_no_tags rfl, responseSelectors_of_unreadable h]
  · rfl

/-- Asking providers takes no notice of an unreadable response. -/
theorem askProviders_silencing {event : Event} (h : echoed? event.tagTexts = none)
    (items : List ProviderItem) :
    askProviders (services.silencing event) items = askProviders services items := by
  induction items with
  | nil => rfl
  | cons item rest ih =>
    funext earlier
    change (askProviders _ (item :: rest)).run.run earlier =
      (askProviders services (item :: rest)).run.run earlier
    -- the calls and the failures are the same, and so are the selectors of what is answered
    have hprovider : (services.silencing event).provider earlier item.request =
        (services.provider earlier item.request).map event.silence := rfl
    rw [askProviders, askProviders, ih, Session.run_bind, Session.run_bind, run_askProvider,
      run_askProvider, hprovider]
    cases services.provider earlier item.request with
    | error failure => rfl
    | ok response => simp only [Except.map, Except.mapError, responseSelectors_silence h]

/-- **Compiling takes no notice of an unreadable response**, wherever in a feed its provider is
asked. -/
theorem compile_silencing {event : Event} (h : echoed? event.tagTexts = none)
    (services : Services) (feed : Feed) :
    compile (services.silencing event) feed = compile services feed := by
  have hnode : ∀ now, compileNode (services.silencing event) now feed =
      compileNode services now feed := by
    intro now
    induction feed using childrenInduction with
    | union feeds ih =>
      rw [compileNode, compileNode, ← compileNodes_map_congr ih, List.map_id']
    | intersection feeds ih =>
      rw [compileNode, compileNode, ← compileNodes_map_congr ih, List.map_id']
    | selector chosen => rfl
    | scope scopes => rfl
    | time windows => rfl
    | trust windows => rfl
    | provider items => rw [compileNode, compileNode, askProviders_silencing h]
    | list items => rfl
    | unknown tag arguments => rfl
  rw [compile_eq_run, compile_eq_run, hnode]
  rfl

/-! ### One response -/

/-- **A provider response contributes its tags without what it echoes.** Nothing is echoed without a
`request` tag; a first one that is readable echoes the texts of its members `id` and `pubkey`, if it is
an object that has any. Each mapping in order takes the usable values of its tags that are not echoed,
in tag order, and becomes a selector exactly when there are any; so no selector names a text that is
echoed. When the first `request` tag is not readable there are no selectors: a node whose providers
respond compiles what its other items contribute, and any feed compiles, or fails to, as with a
response that has no tags. -/
theorem responses_without_echo (event : Event) :
    (event.requestText? = none → echoed? event.tagTexts = some []) ∧
    (∀ text request, event.requestText? = some text → Json.parse? text = some request →
      ∃ echoed, echoed? event.tagTexts = some echoed ∧
        (∀ value, value ∈ echoed ↔ ∃ members, request = .object members ∧
          (("id", .string value) ∈ members ∨ ("pubkey", .string value) ∈ members)) ∧
        ((∀ members, request ≠ .object members) → echoed = [])) ∧
    (∀ echoed mappings, echoed? event.tagTexts = some echoed →
      (responseSelectors event mappings = mappings.filterMap (fun mapping =>
        let values := mapping.target.usable (event.valuesBeside echoed mapping.tag)
        if values = [] then none else some (mapping.target.apply values))) ∧
      ∀ chosen ∈ responseSelectors event mappings, ∀ text ∈ chosen.texts, text ∉ echoed) ∧
    ∀ text, event.requestText? = some text → Json.parse? text = none →
      (∀ mappings, responseSelectors event mappings = []) ∧
      (∀ services before item after,
        Services.Respond services [.clock] (before ++ (item, event) :: after) →
          (compile services (.provider ((before ++ (item, event) :: after).map Prod.fst))).result =
            .ok (selectorItems ((before ++ after).flatMap contribution))) ∧
      ∀ services feed, compile (services.silencing event) feed = compile services feed := by
  refine ⟨?_, ?_, ?_, ?_⟩
  · intro hrequest
    rw [echoed?_tagTexts, hrequest]
  · intro text request hrequest hparse
    refine ⟨request.echoes, ?_, fun value => Json.mem_echoes hparse, Json.echoes_of_not_object⟩
    rw [echoed?_tagTexts, hrequest]
    simp only [hparse, Option.map_some]
  · intro echoed mappings hechoed
    exact ⟨responseSelectors_eq_filterMap hechoed mappings, fun chosen hchosen text htext =>
      not_mem_echoed_of_mem_texts hechoed hchosen htext⟩
  · intro text hrequest hparse
    have hechoed : echoed? event.tagTexts = none := by
      rw [echoed?_tagTexts, hrequest]
      simp only [hparse, Option.map_none]
    refine ⟨responseSelectors_of_unreadable hechoed, ?_, compile_silencing hechoed⟩
    intro services before item after hrespond
    rw [compile_provider hrespond, List.flatMap_append, List.flatMap_append, List.flatMap_cons,
      contribution, responseSelectors_of_unreadable hechoed, List.nil_append]

/-- The request that a response repeats. -/
def repeatedRequest : String := "\x7b\"id\":\"request\",\"pubkey\":\"user\"\x7d"

/-- A response that names its request and the author of it beside two answers. -/
def echoingResponse : Event where
  id := HexKey.zero
  author := HexKey.zero
  createdAt := 0
  kind := 6300
  tags := [⟨"request", [repeatedRequest]⟩, ⟨"e", ["request"]⟩, ⟨"e", ["answer"]⟩, ⟨"p", ["user"]⟩,
    ⟨"p", ["carol", "user"]⟩]
  content := ""

/-- At a response that echoes the id and the author of its request, the answers are left. -/
theorem responses_without_echo_of_request :
    ∃ echoed, echoed? echoingResponse.tagTexts = some echoed ∧
      "request" ∈ echoed ∧ "user" ∈ echoed ∧
      responseSelectors echoingResponse [⟨"p", .author⟩, ⟨"e", .id⟩] =
        [.author ["carol"], .id ["answer"]] ∧
      ∀ chosen ∈ responseSelectors echoingResponse [⟨"p", .author⟩, ⟨"e", .id⟩],
        ∀ text ∈ chosen.texts, text ∉ echoed := by
  have hparse : Json.parse? repeatedRequest =
      some (.object [("id", .string "request"), ("pubkey", .string "user")]) := by decide +kernel
  obtain ⟨-, hreadable, hselectors, -⟩ := responses_without_echo echoingResponse
  obtain ⟨echoed, hechoed, hmem, -⟩ := hreadable repeatedRequest _ rfl hparse
  refine ⟨echoed, hechoed, (hmem _).mpr ⟨_, rfl, Or.inl (List.mem_cons_self ..)⟩,
    (hmem _).mpr ⟨_, rfl, Or.inr (List.mem_cons_of_mem _ (List.mem_singleton_self _))⟩, ?_,
    (hselectors _ _ hechoed).2⟩
  decide +kernel

end Feed

end RelayFeeds
