import RelayFeeds.Address
import RelayFeeds.Proofs.Filter.Union
import RelayFeeds.Proofs.Text.Numeral

/-! # Addresses of events

An event lies at one address, which its kind, its author and its first `d` tag give. The text of that
address reads back as it, whatever the identifier, and the filters of the text match the event. Other
texts may spell the address too, with zeros or a plus sign before the kind; they ask for the same.

* **`Address.parse?_text_iff`** — an address reads back when its author is a text without colons, and
  only then.
* **`Address.isMatch_filter`** — what the filter of an address matches.
* **`Address.anyMatch_nameFilters_ofEvent`** — an event matches the filters of its address.
* **`Address.text_canonical`** — the text of an address stands for all of its spellings. -/

namespace RelayFeeds

/-- A key has no colon. -/
theorem HexKey.colon_not_mem (key : HexKey) : ':' ∉ key.text.toList := by
  intro hmem
  have hlower := List.all_eq_true.mp key.lower ':' hmem
  revert hlower
  decide

/-- A key is not empty. -/
theorem HexKey.text_ne_empty (key : HexKey) : key.text ≠ "" := by
  intro hempty
  have hlength := key.length_eq
  rw [hempty] at hlength
  cases hlength

namespace Address

/-! ### Reading an address back -/

/-- A part without colons is split off at the colon behind it. -/
theorem splitColon?_append {part : List Char} (h : ':' ∉ part) (rest : List Char) :
    splitColon? (part ++ ':' :: rest) = some (part, rest) := by
  induction part with
  | nil => rfl
  | cons c part ih =>
    rw [List.mem_cons, not_or] at h
    have hc : c ≠ ':' := fun heq => h.1 heq.symm
    rw [List.cons_append, splitColon?.eq_3 _ _ hc, ih h.2, Option.map_some]

/-- **An address whose author is a text without colons reads back from its text.** -/
theorem parse?_text {address : Address} (hne : address.author ≠ "")
    (hcolon : ':' ∉ address.author.toList) : parse? address.text = some address := by
  have hkind : ':' ∉ Text.numeral address.kind.toNat := Text.not_mem_numeral (by decide)
  have hauthor : address.author.toList ≠ [] := by simpa using hne
  rw [parse?, text, String.toList_ofList, List.append_assoc, List.cons_append,
    splitColon?_append hkind]
  simp [splitColon?_append hcolon, Text.readUInt16?_numeral, hauthor]

/-- The part before the first colon has no colon. -/
theorem colon_not_mem_of_splitColon? {text part rest : List Char}
    (h : splitColon? text = some (part, rest)) : ':' ∉ part := by
  induction text generalizing part with
  | nil => cases h
  | cons c text ih =>
    by_cases hc : c = ':'
    · subst hc
      cases h
      exact List.not_mem_nil
    · rw [splitColon?.eq_3 _ _ hc, Option.map_eq_some_iff] at h
      obtain ⟨⟨before, after⟩, hsplit, hparts⟩ := h
      cases hparts
      rw [List.mem_cons, not_or]
      exact ⟨fun heq => hc heq.symm, ih hsplit⟩

/-- The author of an address that was read is a text without colons. -/
theorem author_of_parse? {text : String} {address : Address} (h : parse? text = some address) :
    address.author ≠ "" ∧ ':' ∉ address.author.toList := by
  simp only [parse?, Option.bind_eq_bind, Option.bind_eq_some_iff, Prod.exists] at h
  obtain ⟨kind, rest, -, author, identifier, hauthor, number, -, haddress⟩ := h
  split at haddress
  · cases haddress
  · rename_i hne
    cases haddress
    refine ⟨?_, ?_⟩
    · simpa using hne
    · simpa using colon_not_mem_of_splitColon? hauthor

/-- **An address reads back from its text exactly when its author is a text without colons.** -/
theorem parse?_text_iff {address : Address} :
    parse? address.text = some address ↔
      address.author ≠ "" ∧ ':' ∉ address.author.toList :=
  ⟨author_of_parse?, fun ⟨hne, hcolon⟩ => parse?_text hne hcolon⟩

/-- What was read from any spelling reads back from its own text. -/
theorem parse?_text_of_parse? {text : String} {address : Address} (h : parse? text = some address) :
    parse? address.text = some address :=
  parse?_text_iff.mpr (author_of_parse? h)

/-- The filters of a spelling are those of the address alone. -/
theorem nameFilters_of_parse? {text : String} {address : Address} (h : parse? text = some address) :
    nameFilters [text] = Filter.union [address.filter] := by
  simp [nameFilters, h]

/-- The address of an event reads back from its text. -/
theorem parse?_text_ofEvent (event : Event) :
    parse? (ofEvent event).text = some (ofEvent event) :=
  parse?_text event.author.text_ne_empty event.author.colon_not_mem

/-! ### Events at an address -/

variable {event : Event}

/-- **The filter of an address matches the events of its kind and author that carry its identifier
under `d`, if it has one.** -/
theorem isMatch_filter {address : Address} :
    address.filter.isMatch event = true ↔
      event.kind = address.kind ∧ event.author.text = address.author ∧
        (address.identifier ≠ "" → event.Carries "d" address.identifier) := by
  have hfits : ∀ tags, ({ kinds := some (SortedSet.singleton address.kind)
                          authors := some (SortedSet.singleton address.author)
                          tags } : Filter).Fits event ↔
      event.kind = address.kind ∧ event.author.text = address.author := by
    intro tags
    constructor
    · intro h
      exact ⟨by simpa using h.kinds, by simpa using h.authors⟩
    · rintro ⟨hkind, hauthor⟩
      exact ⟨rfl, by simpa using hauthor, by simpa using hkind, rfl, rfl,
        Filter.finds_none event.content⟩
  rw [Filter.isMatch_iff, filter]
  by_cases hempty : address.identifier = ""
  · rw [if_pos (String.isEmpty_iff.mpr hempty), hfits]
    simp [hempty]
  · have hname : tagName (tagKey "d") = "d" := rfl
    rw [if_neg (fun h => hempty (String.isEmpty_iff.mp h)), Filter.withTag, hfits, and_assoc]
    simp [hempty, SortedMap.find?_insert, hname]

/-- A nonempty identifier is the value of a `d` tag of the event. -/
theorem carries_identifier_ofEvent (h : (ofEvent event).identifier ≠ "") :
    event.Carries "d" (ofEvent event).identifier := by
  simp only [ofEvent] at h ⊢
  cases hfind : event.tags.find? (fun tag => tag.name == "d") with
  | none => simp [hfind] at h
  | some tag =>
    have hname : tag.name = "d" := by simpa using List.find?_some hfind
    cases hvalue : tag.value? with
    | none => simp [hfind, hvalue] at h
    | some value =>
      simp only [hvalue, Option.getD_some]
      exact ⟨tag, List.mem_of_find?_eq_some hfind, hname, hvalue⟩

/-- An event matches the filter of its address. -/
theorem isMatch_filter_ofEvent (event : Event) : (ofEvent event).filter.isMatch event = true :=
  isMatch_filter.mpr ⟨rfl, rfl, carries_identifier_ofEvent⟩

/-- **An event matches the filters of the text of its address.** -/
theorem anyMatch_nameFilters_ofEvent (event : Event) :
    Filter.anyMatch (nameFilters [(ofEvent event).text]) event = true := by
  rw [nameFilters_of_parse? (parse?_text_ofEvent event), Filter.anyMatch_union, Filter.anyMatch,
    List.any_cons, List.any_nil, Bool.or_false]
  exact isMatch_filter_ofEvent event

/-- **The text of an address stands for all of its spellings.** An address reads back from its text
exactly when its author is a text without colons. Every text that spells an address asks for the same
events as the text of the address does, which spells it too. The address of an event reads back from
its text, and its filter matches the event. -/
theorem text_canonical :
    (∀ address : Address, parse? address.text = some address ↔
      address.author ≠ "" ∧ ':' ∉ address.author.toList) ∧
    (∀ text address, parse? text = some address →
      parse? address.text = some address ∧ nameFilters [text] = nameFilters [address.text]) ∧
    ∀ event : Event, parse? (ofEvent event).text = some (ofEvent event) ∧
      (ofEvent event).filter.isMatch event = true := by
  refine ⟨fun address => parse?_text_iff, ?_, ?_⟩
  · intro text address hparse
    have hcanonical := parse?_text_of_parse? hparse
    exact ⟨hcanonical, (nameFilters_of_parse? hparse).trans (nameFilters_of_parse? hcanonical).symm⟩
  · intro event
    exact ⟨parse?_text_ofEvent event, isMatch_filter_ofEvent event⟩

/-- At a spelling with zeros and a plus sign before the kind and colons in the identifier. -/
theorem text_canonical_signed_kind :
    parse? "+0030003:ab:my:list" = some ⟨30003, "ab", "my:list"⟩ ∧
    parse? "30003:ab:my:list" = some ⟨30003, "ab", "my:list"⟩ ∧
    nameFilters ["+0030003:ab:my:list"] = nameFilters ["30003:ab:my:list"] := by
  have hparse : parse? "+0030003:ab:my:list" = some ⟨30003, "ab", "my:list"⟩ := by
    decide +kernel
  have htext : (⟨30003, "ab", "my:list"⟩ : Address).text = "30003:ab:my:list" := by
    decide +kernel
  obtain ⟨hread, hfilters⟩ := text_canonical.2.1 _ _ hparse
  rw [htext] at hread hfilters
  exact ⟨hparse, hread, hfilters⟩

end Address

end RelayFeeds
