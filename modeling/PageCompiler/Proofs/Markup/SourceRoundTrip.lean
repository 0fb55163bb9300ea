import PageCompiler.Proofs.Markup.Spelling
import PageCompiler.Proofs.Markup.TokenSequences
import PageCompiler.Proofs.Results

/-!
# The markup of a text that was read

A text of plain tokens is the markup of the document that it is read as (`html_parse_charsOf`) :
elements may be left open and end tags left out, and what one token adds to the markup is how it is
written (`spellAll_events`). For a start tag that holds by itself. An end tag is written back with
the name of the element that it ends, so the text has to repeat that name, letter for letter
(`EndsMatch`).
-/

namespace PageCompiler.Markup

/-- An end tag, if the token is one, repeats the name that the nearest open element with its tag was
written with. -/
def Token.EndMatches (building : Building) (token : Token) : Prop :=
  ∀ name, token = .endTag name →
    ∃ head, building.nearest? (Text.lower (String.ofList name)) = some head ∧
      head.sourceTag = String.ofList name

/-- Every end tag matches when it is reached. -/
def EndsMatch (building : Building) : List Token → Prop
  | [] => True
  | token :: tokens =>
    token.EndMatches building ∧
      ∀ events, token.events = .ok events → EndsMatch (events.foldl Building.add building) tokens

instance Token.decidableEndMatches (building : Building) :
    DecidablePred (Token.EndMatches building)
  | .endTag name =>
    decidable_of_iff ((building.nearest? (Text.lower (String.ofList name))).map Head.sourceTag =
        some (String.ofList name)) <| by
      simp only [EndMatches, Option.map_eq_some_iff]
      constructor
      · rintro h _ ⟨⟩
        exact h
      · exact fun h => h name rfl
  | .text _ | .namedReference _ | .numericReference _ | .comment _ | .doctype _ | .instruction _
  | .startTag _ | .rawText _ _ => .isTrue (by rintro name ⟨⟩)

instance decidableEndsMatch : (building : Building) → DecidablePred (EndsMatch building)
  | _, [] => .isTrue trivial
  | building, token :: tokens =>
    match he : token.events with
    | .error _ => decidable_of_iff (token.EndMatches building) <| by
        simp [EndsMatch, he]
    | .ok events =>
      have := decidableEndsMatch (events.foldl Building.add building) tokens
      decidable_of_iff (token.EndMatches building ∧
        EndsMatch (events.foldl Building.add building) tokens) <| by
        simp [EndsMatch, he]

/-! ## What a token adds -/

namespace SpelledTag

variable {tag : SpelledTag}

theorem event_eq_ok {event : Event} (h : tag.event = .ok event) :
    ∃ values, tag.values = .ok values ∧
      event = .startTag (String.ofList tag.chars) tag.tagName values tag.selfClosing := by
  obtain ⟨values, hvalues, rfl⟩ := map_eq_ok h
  exact ⟨values, hvalues, rfl⟩

theorem wellSpelled_event (h : tag.IsPlain) {event : Event} (he : tag.event = .ok event) :
    event.WellSpelled := by
  obtain ⟨c, more, hname, hc, -⟩ := h.name
  obtain ⟨values, -, rfl⟩ := event_eq_ok he
  refine ⟨c, more ++ (attributeChars tag.attributes ++ tag.closing), ?_, hc⟩
  simp [chars, hname]

end SpelledTag

theorem spellAll_append : ∀ (first second : List Event) (building : Building),
    building.spellAll (first ++ second) =
      building.spellAll first ++ (first.foldl Building.add building).spellAll second
  | [], second, building => String.empty_append.symm
  | event :: first, second, building => by
    rw [List.cons_append, Building.spellAll, spellAll_append first, Building.spellAll,
      String.append_assoc]
    rfl

theorem spellAll_textEvents (data : List Char) (building : Building) :
    building.spellAll (textEvents data) = String.ofList data := by
  cases data with
  | nil => rfl
  | cons c data => exact String.append_empty

theorem opened_foldl_textEvents (data : List Char) (building : Building) :
    ((textEvents data).foldl Building.add building).opened = building.opened := by
  cases data with
  | nil => rfl
  | cons c data => exact openHeads_addLeaf _ _ _

/-- A start tag adds how it is written. -/
theorem spell_event {tag : SpelledTag} {event : Event} (he : tag.event = .ok event)
    (building : Building) : building.spell event = String.ofList tag.chars := by
  obtain ⟨values, -, rfl⟩ := SpelledTag.event_eq_ok he
  rfl

/-- The nearest element with the tag of a raw-text element that was just opened is that element. -/
theorem nearest?_rawText {tag : SpelledTag} (h : tag.IsPlain) (hopens : tag.opensRawText)
    {event : Event} (he : tag.event = .ok event) (building : Building) :
    ∃ head, (building.add event).nearest? tag.tagName = some head ∧
      head.sourceTag = String.ofList tag.name := by
  obtain ⟨values, -, rfl⟩ := SpelledTag.event_eq_ok he
  refine ⟨tag.head building.nextId values, ?_, SpelledTag.sourceTag_head h _ _⟩
  have hself : tag.selfClosing = false := by
    simp only [SpelledTag.opensRawText, Bool.and_eq_true, Bool.not_eq_true'] at hopens
    exact hopens.1
  have hvoid := SpelledTag.isVoid_head h hopens building.nextId values
  have htag := SpelledTag.tag_head h building.nextId values
  have hadd : building.add (.startTag (String.ofList tag.chars) tag.tagName values
      tag.selfClosing) = ⟨⟨tag.head building.nextId values, .nil⟩,
        (building.endImplied tag.tagName).current :: (building.endImplied tag.tagName).outer,
        building.nextId + 1⟩ := by
    rw [SpelledTag.head, hself] at hvoid
    simp [Building.add, Building.openElement, hself, SpelledTag.head, hvoid]
  rw [hadd]
  simp [Building.nearest?, Building.opened, openHeads, htag]

/-- A plain token adds to the markup how it is written. -/
theorem spellAll_events {token : Token} (h : token.IsPlain) {building : Building}
    (hend : token.EndMatches building) {events : List Event} (he : token.events = .ok events) :
    (∀ event ∈ events, event.WellSpelled) ∧
      building.spellAll events = String.ofList token.chars := by
  cases token with
  | startTag tag =>
    obtain ⟨event, hevent, rfl⟩ := map_eq_ok he
    refine ⟨by simpa using SpelledTag.wellSpelled_event h.1 hevent, ?_⟩
    rw [Building.spellAll, spell_event hevent]
    exact String.append_empty
  | endTag name =>
    obtain rfl := Except.ok.inj he
    obtain ⟨head, hnearest, hname⟩ := hend name rfl
    refine ⟨by simp [Event.WellSpelled], String.toList_injective ?_⟩
    simp [Building.spellAll, Building.spell, hnearest, hname, Token.chars, Token.endTagChars]
  | rawText tag content =>
    obtain ⟨event, hevent, rfl⟩ := map_eq_ok he
    obtain ⟨head, hnearest, hname⟩ := nearest?_rawText h.1 h.2.1 hevent building
    have hwell := SpelledTag.wellSpelled_event h.1 hevent
    have htext : ∀ event ∈ textEvents content, event.WellSpelled := by
      cases content <;> simp [textEvents, Event.ofChars, Event.WellSpelled]
    have hclose : ((textEvents content).foldl Building.add (building.add event)).nearest?
        tag.tagName = some head := by
      rw [Building.nearest?, opened_foldl_textEvents]
      exact hnearest
    constructor
    · simp only [List.mem_cons, List.mem_append, List.not_mem_nil, or_false]
      rintro other (rfl | hmem | rfl)
      · exact hwell
      · exact htext other hmem
      · trivial
    apply String.toList_injective
    rw [Building.spellAll, spellAll_append, spell_event hevent, spellAll_textEvents]
    simp [Building.spellAll, Building.spell, hclose, hname, Token.chars, Token.endTagChars]
  | text data =>
    obtain rfl := Except.ok.inj he
    refine ⟨?_, spellAll_textEvents data building⟩
    cases data <;> simp [textEvents, Event.ofChars, Event.WellSpelled]
  | _ =>
    obtain rfl := Except.ok.inj he
    refine ⟨by simp [Event.WellSpelled], String.toList_injective ?_⟩
    simp [Building.spellAll, Building.spell, Token.chars]

/-! ## Whole texts -/

/-- Plain tokens add to the markup how they are written. -/
theorem spellAll_eventsOf : ∀ {tokens : List Token} {building : Building},
    (∀ token ∈ tokens, token.IsPlain) → EndsMatch building tokens →
    ∀ {events : List Event}, Token.eventsOf tokens = .ok events →
      (∀ event ∈ events, event.WellSpelled) ∧
        building.spellAll events = String.ofList (Token.charsOf tokens)
  | [], building, _, _, events, he => by
    obtain rfl := Except.ok.inj he
    exact ⟨by simp, rfl⟩
  | token :: tokens, building, h, hends, events, he => by
    obtain ⟨first, hfirst, he⟩ := bind_eq_ok he
    obtain ⟨more, hmore, rfl⟩ := map_eq_ok he
    obtain ⟨hwell, hspell⟩ := spellAll_events (h token List.mem_cons_self) hends.1 hfirst
    obtain ⟨hwells, hspells⟩ := spellAll_eventsOf
      (fun t ht => h t (List.mem_cons_of_mem _ ht)) (hends.2 first hfirst) hmore
    constructor
    · intro event hmem
      exact (List.mem_append.1 hmem).elim (hwell event) (hwells event)
    · rw [spellAll_append, hspell, hspells, ← String.ofList_append]
      rfl

/-- A text of plain tokens is the markup of the document it is read as. -/
theorem html_parse_charsOf {tokens : List Token} (hplain : ∀ token ∈ tokens, token.IsPlain)
    (hends : EndsMatch Building.start tokens) {document : Element}
    (hparse : parse (String.ofList (Token.charsOf tokens)) = .ok document) :
    document.html = String.ofList (Token.charsOf tokens) := by
  rw [parse_charsOf hplain] at hparse
  obtain ⟨events, hevents, rfl⟩ := map_eq_ok hparse
  obtain ⟨hwell, hspell⟩ := spellAll_eventsOf hplain hends hevents
  have hstart : Building.start.html = "" := by decide
  rw [ofEvents, html_finish_foldl_add Building.start_isSound hwell, hstart, String.empty_append,
    hspell]

/-- A page with elements left open, raw text, references and both kinds of quotes. -/
def pageTokens : List Token :=
  [.doctype " html".toList,
   .startTag ⟨"UL".toList, [⟨"Title".toList, some ('\'', "a\"&amp;b".toList)⟩], false⟩,
   .startTag ⟨"li".toList, [⟨"hidden".toList, none⟩], false⟩, .text "one ".toList,
   .namedReference "amp".toList, .numericReference "x3e".toList, .text " two".toList,
   .startTag ⟨"LI".toList, [], false⟩, .startTag ⟨"br".toList, [], true⟩, .endTag "LI".toList,
   .endTag "UL".toList, .comment "a--b".toList, .instruction "php".toList,
   .rawText ⟨"Script".toList, [⟨"src".toList, some ('"', [])⟩], false⟩ "a</b>&c".toList,
   .startTag ⟨"p".toList, [], false⟩, .text "end".toList]

/-- The same page in characters. -/
def pageMarkup : String :=
  "<!DOCTYPE html><UL Title='a\"&amp;b'><li hidden>one &amp;&#x3e; two<LI><br/></LI></UL>" ++
    "<!--a--b--><?php><Script src=\"\">a</b>&c</Script><p>end"

theorem html_parse_charsOf_page :
    ∃ document, parse pageMarkup = .ok document ∧ document.html = pageMarkup := by
  have hplain : ∀ token ∈ pageTokens, token.IsPlain := by decide +kernel
  have hends : EndsMatch Building.start pageTokens := by decide +kernel
  have hevents : (Token.eventsOf pageTokens).isOk := by decide +kernel
  have hchars : String.ofList (Token.charsOf pageTokens) = pageMarkup := by decide +kernel
  cases he : Token.eventsOf pageTokens with
  | error e =>
    rw [he] at hevents
    cases hevents
  | ok events =>
    have hparse : parse (String.ofList (Token.charsOf pageTokens)) = .ok (ofEvents events) := by
      rw [parse_charsOf hplain, he]
      rfl
    have hhtml := html_parse_charsOf hplain hends hparse
    rw [hchars] at hparse hhtml
    exact ⟨_, hparse, hhtml⟩

end PageCompiler.Markup
