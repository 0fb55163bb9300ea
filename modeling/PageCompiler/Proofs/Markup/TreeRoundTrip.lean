import PageCompiler.Proofs.Markup.Forest
import PageCompiler.Proofs.Markup.TokenSequences
import PageCompiler.Proofs.Markup.Writable
import PageCompiler.Proofs.Results

/-!
# Writing a tree and reading it back

The markup of a writable tree is read as that tree (`parse_html_of_writable`), apart from what only
a tree that was read has : its numbers and the spelling of its start tags, which `bare` leaves out.

The events of a writable forest put its nodes behind those that the current element has so far and
leave the stack as it was (`foldl_events_of_writable`). An element with children is pushed, takes in
its children and is closed by its own end tag (`endWritten_grown`) : the start tags in between end
nothing outside it, since the forest is writable, and every element inside closes itself.
-/

namespace PageCompiler.Markup

/-! ## What is compared -/

/-- The head without what only an element that was read has. -/
def Head.bare (head : Head) : Head :=
  { head with id := 0, written := none, hasEndTag := true }

/-- The forest with bare heads. -/
def Forest.bare : Forest → Forest
  | nil => nil
  | leaf l next => leaf l next.bare
  | element head children next => element head.bare children.bare next.bare

/-- The element with bare heads. -/
def Element.bare (element : Element) : Element :=
  ⟨element.head.bare, element.children.bare⟩

theorem Forest.bare_append : ∀ first second : Forest,
    (first.append second).bare = first.bare.append second.bare
  | nil, _ => rfl
  | leaf l next, second => by rw [append, bare, bare_append next, bare, append]
  | element head children next, second => by
    rw [append, bare, bare_append next, bare, append]

/-! ## More nodes in the current element -/

namespace Building

/-- The building with more nodes in the current element. -/
def grown (building : Building) (more : Forest) (nextId : Nat) : Building :=
  { building with
    current := { building.current with nodes := more.reverseOnto building.current.nodes }
    nextId }

/-- The building with an element opened inside the current one. -/
def pushed (building : Building) (head : Head) : Building :=
  ⟨⟨head, .nil⟩, building.current :: building.outer, building.nextId + 1⟩

theorem grown_grown (building : Building) (first second : Forest) (n m : Nat) :
    (building.grown first n).grown second m = building.grown (first.append second) m := by
  simp only [grown, Forest.reverseOnto_append]

@[simp] theorem opened_grown (building : Building) (more : Forest) (nextId : Nat) :
    (building.grown more nextId).opened = building.opened := by
  obtain ⟨current, outer, n⟩ := building
  cases outer <;> rfl

/-- A leaf stands behind what there is, unless it goes on with a text. -/
theorem addLeaf_eq_grown {building : Building} {leaf : Leaf}
    (h : Forest.startsWithText (.leaf leaf .nil) = true →
      building.current.nodes.startsWithText = false) :
    building.addLeaf leaf = building.grown (.leaf leaf .nil) building.nextId := by
  obtain ⟨⟨head, nodes⟩, outer, nextId⟩ := building
  unfold addLeaf Frame.addLeaf
  split
  · next before earlier hnodes =>
    dsimp only at hnodes h
    rw [hnodes] at h
    exact absurd (h rfl) (by simp [Forest.startsWithText])
  · rfl

/-- An element without children stands behind what there is. -/
theorem openElement_single {building : Building} {spelling name : String}
    {attributes : List (String × Option String)} {selfClosing : Bool}
    (h : selfClosing = true ∨
      (readHead building.nextId spelling name attributes selfClosing).isVoid = true ∧
        EndsNothing name (building.opened.map Head.tag)) :
    building.openElement spelling name attributes selfClosing =
      building.grown (.element (readHead building.nextId spelling name attributes selfClosing)
        .nil .nil) (building.nextId + 1) := by
  unfold openElement
  rcases h with rfl | ⟨hvoid, hplace⟩
  · rfl
  · cases selfClosing with
    | true => rfl
    | false =>
      simp only [hvoid, endImplied_of_endsNothing hplace]
      rfl

theorem openElement_parent {building : Building} {spelling name : String}
    {attributes : List (String × Option String)}
    (hv : (readHead building.nextId spelling name attributes false).isVoid = false)
    (hplace : EndsNothing name (building.opened.map Head.tag)) :
    building.openElement spelling name attributes false =
      building.pushed (readHead building.nextId spelling name attributes false) := by
  simp [openElement, hv, endImplied_of_endsNothing hplace, pushed]

/-- The end tag of the current element makes an element of what it has taken in. -/
theorem endWritten_grown (building : Building) (head : Head) (inner : Forest) (nextId : Nat) :
    ((building.pushed head).grown inner nextId).endWritten head.tag =
      building.grown (.element { head with hasEndTag := true } inner .nil) nextId := by
  have hinner : (inner.reverseOnto .nil).reverse = inner := inner.reverse_reverse
  simp [endWritten, closeNearest, closeNearest?, pushed, grown, Frame.addElement, Frame.close,
    Frame.markEnd, hinner, Forest.reverseOnto]

end Building

/-! ## What tokens build -/

/-- The tokens lead from one building to another. -/
def Builds (tokens : List Token) (building built : Building) : Prop :=
  ∃ events, Token.eventsOf tokens = .ok events ∧ events.foldl Building.add building = built

namespace Builds

variable {tokens more : List Token} {building between built : Building}

theorem nil : Builds [] building building :=
  ⟨[], rfl, rfl⟩

theorem cons {token : Token} {events : List Event} (he : token.events = .ok events)
    (h : Builds tokens (events.foldl Building.add building) built) :
    Builds (token :: tokens) building built := by
  obtain ⟨rest, hrest, rfl⟩ := h
  refine ⟨events ++ rest, ?_, List.foldl_append⟩
  rw [Token.eventsOf, he, hrest]
  rfl

theorem append : ∀ {tokens : List Token} {building : Building}, Builds tokens building between →
    Builds more between built → Builds (tokens ++ more) building built
  | [], building, ⟨_, hevents, hfold⟩, h => by
    obtain rfl := Except.ok.inj hevents
    have hsame : building = between := hfold
    exact hsame ▸ h
  | token :: tokens, building, ⟨events, hevents, hfold⟩, h => by
    obtain ⟨first, hfirst, hevents⟩ := bind_eq_ok hevents
    obtain ⟨rest, hrest, rfl⟩ := map_eq_ok hevents
    rw [List.foldl_append] at hfold
    exact cons hfirst (append ⟨rest, hrest, hfold⟩ h)

end Builds

/-- The nodes of a forest are put behind those of the current element. -/
def Forest.Grows (forest : Forest) (building : Building) : Prop :=
  ∃ added nextId, Builds forest.tokens building (building.grown added nextId) ∧
    added.bare = forest.bare

namespace Forest

variable {building : Building} {head : Head} {children next : Forest}

/-- A forest is put behind its first node. -/
theorem Grows.of_first {first : Forest} {tokens : List Token} {nextId : Nat}
    (hfirst : Builds tokens building (building.grown first nextId))
    (hnext : next.Grows (building.grown first nextId)) {forest : Forest}
    (htokens : forest.tokens = tokens ++ next.tokens)
    (hbare : forest.bare = (first.bare).append next.bare) : forest.Grows building := by
  obtain ⟨added, n, hbuilds, hadded⟩ := hnext
  rw [Building.grown_grown] at hbuilds
  refine ⟨first.append added, n, htokens ▸ hfirst.append hbuilds, ?_⟩
  rw [bare_append, hadded, hbare]

/-- The head that a built element is read as. -/
def readAs (building : Building) (head : Head) : Head :=
  head.spelledTag.head building.nextId head.attributes

theorem isVoid_readAs (built : head.IsBuilt) (building : Building) :
    (readAs building head).isVoid = head.isVoid := by
  rw [readAs, Head.read_spelledTag built]
  rfl

theorem tag_readAs (built : head.IsBuilt) (building : Building) :
    (readAs building head).tag = head.tag := by
  rw [readAs, Head.read_spelledTag built]
  rfl

theorem bare_readAs (built : head.IsBuilt) (building : Building) :
    (readAs building head).bare = head.bare := by
  rw [readAs, Head.read_spelledTag built]
  rfl

/-- The event of a built start tag. -/
def startEvent (head : Head) : Event :=
  .startTag (String.ofList head.spelledTag.chars) head.spelledTag.tagName head.attributes
    head.spelledTag.selfClosing

theorem events_startTag (built : head.IsBuilt) :
    (Token.startTag head.spelledTag).events = .ok [startEvent head] := by
  rw [Token.events, Head.event_spelledTag built]
  rfl

/-- An element without children is put behind what there is. -/
theorem builds_single (built : head.IsBuilt)
    (h : head.selfClosing = true ∨
      head.isVoid = true ∧ EndsNothing head.tag (building.opened.map Head.tag)) :
    Builds [.startTag head.spelledTag] building
      (building.grown (.element (readAs building head) .nil .nil) (building.nextId + 1)) := by
  refine Builds.cons (events_startTag built) ⟨[], rfl, Building.openElement_single ?_⟩
  rw [← isVoid_readAs built building, ← Head.tagName_spelledTag] at h
  exact h

/-- The start tag of an element with children opens it. -/
theorem add_startEvent (built : head.IsBuilt) (opened : head.selfClosing = false)
    (parent : head.isVoid = false) (place : EndsNothing head.tag (building.opened.map Head.tag)) :
    building.add (startEvent head) = building.pushed (readAs building head) := by
  have hself : head.spelledTag.selfClosing = false := opened
  rw [← isVoid_readAs built building] at parent
  rw [← Head.tagName_spelledTag] at place
  rw [readAs, SpelledTag.head, hself] at parent ⊢
  rw [startEvent, Building.add, hself]
  exact Building.openElement_parent parent place

theorem textEvents_toList {data : String} (nonempty : data ≠ "") :
    textEvents data.toList = [.text data] := by
  cases hdata : data.toList with
  | nil => exact absurd (String.toList_eq_nil_iff.1 hdata) nonempty
  | cons c rest => rw [textEvents, Event.ofChars, ← hdata, String.ofList_toList]

theorem builds_text {data : String} (nonempty : data ≠ "")
    (hfree : building.current.nodes.startsWithText = false) :
    Builds [.text data.toList] building
      (building.grown (.leaf (.text data) .nil) building.nextId) := by
  have hevents : (Token.text data.toList).events = .ok [.text data] := by
    rw [Token.events, textEvents_toList nonempty]
  exact Builds.cons hevents ⟨[], rfl, Building.addLeaf_eq_grown fun _ => hfree⟩

theorem builds_comment (data : String) :
    Builds [.comment data.toList] building
      (building.grown (.leaf (.comment data) .nil) building.nextId) := by
  have hevents : (Token.comment data.toList).events = .ok [.comment data] := by
    rw [Token.events, String.ofList_toList]
  refine Builds.cons hevents ⟨[], rfl, Building.addLeaf_eq_grown fun h => ?_⟩
  cases h

/-- The text of an element with raw text is put into it. -/
theorem foldl_textEvents_of_isRawText {tag : String} :
    ∀ {children : Forest}, children.IsRawText tag → ∀ (building : Building) (head : Head),
      (textEvents children.text.toList).foldl Building.add (building.pushed head) =
        (building.pushed head).grown children (building.nextId + 1)
  | nil, _, _, _ => rfl
  | leaf (.text data) nil, h, building, head => by
    have htext : (leaf (.text data) nil).text = data := String.append_empty
    rw [htext, textEvents_toList h.1]
    rfl

theorem builds_rawText (built : head.IsBuilt) (opened : head.selfClosing = false)
    (raw : head.tag ∈ rawTextTags) (content : children.IsRawText head.tag)
    (place : EndsNothing head.tag (building.opened.map Head.tag)) :
    Builds [.rawText head.spelledTag children.text.toList] building
      (building.grown (.element { readAs building head with hasEndTag := true } children .nil)
        (building.nextId + 1)) := by
  have hevents : (Token.rawText head.spelledTag children.text.toList).events =
      .ok (startEvent head :: (textEvents children.text.toList ++
        [.endTag head.spelledTag.tagName])) := by
    rw [Token.events, Head.event_spelledTag built]
    rfl
  refine Builds.cons hevents ⟨[], rfl, ?_⟩
  rw [List.foldl_cons, add_startEvent built opened (isVoid_of_mem_rawTextTags raw) place,
    List.foldl_append, foldl_textEvents_of_isRawText content, Head.tagName_spelledTag,
    ← tag_readAs built building, List.foldl_nil, List.foldl_cons, List.foldl_nil, Building.add,
    Building.endWritten_grown]

/-- An element is put behind what there is when its children are put into it. -/
theorem builds_element (built : head.IsBuilt) (opened : head.selfClosing = false)
    (parent : head.isVoid = false) (place : EndsNothing head.tag (building.opened.map Head.tag))
    {added : Forest} {nextId : Nat}
    (hinner : Builds children.tokens (building.pushed (readAs building head))
      ((building.pushed (readAs building head)).grown added nextId)) :
    Builds (.startTag head.spelledTag :: (children.tokens ++ [.endTag head.sourceTag.toList]))
      building
      (building.grown (.element { readAs building head with hasEndTag := true } added .nil)
        nextId) := by
  have hend : (Token.endTag head.sourceTag.toList).events =
      .ok [.endTag (readAs building head).tag] := by
    rw [Token.events, String.ofList_toList, tag_readAs built, Head.tag]
  refine Builds.cons (events_startTag built) ?_
  rw [List.foldl_cons, add_startEvent built opened parent place]
  refine hinner.append (Builds.cons hend ⟨[], rfl, ?_⟩)
  rw [List.foldl_nil, List.foldl_cons, List.foldl_nil, Building.add, Building.endWritten_grown]

theorem grows_of_writable {around : List String} {forest : Forest} (h : Writable around forest) :
    ∀ building : Building, building.opened.map Head.tag = around →
      (forest.startsWithText = true → building.current.nodes.startsWithText = false) →
      forest.Grows building := by
  induction h with
  | nil =>
    intro building _ _
    exact ⟨.nil, building.nextId, .nil, rfl⟩
  | text nonempty _ apart _ ih =>
    intro building haround hfree
    refine Grows.of_first (builds_text nonempty (hfree rfl))
      (ih _ (by rw [Building.opened_grown, haround]) fun htext => ?_) rfl rfl
    rw [apart] at htext
    cases htext
  | comment inside _ ih =>
    intro building haround _
    exact Grows.of_first (builds_comment _)
      (ih _ (by rw [Building.opened_grown, haround]) fun _ => rfl) rfl rfl
  | selfClosing built closed _ ih =>
    intro building haround _
    refine Grows.of_first (builds_single built (.inl closed))
      (ih _ (by rw [Building.opened_grown, haround]) fun _ => rfl)
      (tokens_single (by simp [closed]) _ _) ?_
    rw [bare, ← bare_readAs built building]
    rfl
  | void built opened single place _ ih =>
    intro building haround _
    refine Grows.of_first (builds_single built (.inr ⟨single, haround ▸ place⟩))
      (ih _ (by rw [Building.opened_grown, haround]) fun _ => rfl)
      (tokens_single (by simp [single]) _ _) ?_
    rw [bare, ← bare_readAs built building]
    rfl
  | rawText built opened raw content place _ ih =>
    intro building haround _
    refine Grows.of_first (builds_rawText built opened raw content (haround ▸ place))
      (ih _ (by rw [Building.opened_grown, haround]) fun _ => rfl)
      (tokens_rawText opened raw _ _) ?_
    rw [bare, ← bare_readAs built building]
    rfl
  | @element around head children next built opened parent ordinary place _ _ ihInner ih =>
    intro building haround _
    have hinside : (building.pushed (readAs building head)).opened.map Head.tag =
        head.tag :: around := by
      rw [← haround, ← tag_readAs built building]
      rfl
    obtain ⟨added, nextId, hinner, hbare⟩ := ihInner _ hinside fun _ => rfl
    refine Grows.of_first (builds_element built opened parent (haround ▸ place) hinner)
      (ih _ (by rw [Building.opened_grown, haround]) fun _ => rfl)
      (by simp [tokens_element opened parent ordinary]) ?_
    rw [bare, ← bare_readAs built building, ← hbare]
    rfl

end Forest

/-- The markup of a writable tree is read as that tree. -/
theorem parse_html_of_writable {forest : Forest} (h : Forest.Writable [] forest) :
    ∃ document, parse (Element.html ⟨documentHead, forest⟩) = .ok document ∧
      document.bare = Element.bare ⟨documentHead, forest⟩ := by
  have hhtml : Element.html ⟨documentHead, forest⟩ =
      String.ofList (Token.charsOf forest.tokens) := by
    rw [← h.chars_tokens, String.ofList_toList, Element.html, Head.html, if_pos documentHead_tag]
  obtain ⟨added, nextId, ⟨events, hevents, hfold⟩, hbare⟩ :=
    Forest.grows_of_writable h Building.start rfl (fun _ => rfl)
  have hdocument : ofEvents events = ⟨documentHead, added⟩ := by
    rw [ofEvents, hfold]
    exact congrArg (Element.mk documentHead) added.reverse_reverse
  refine ⟨⟨documentHead, added⟩, ?_, ?_⟩
  · rw [hhtml, parse_charsOf h.tokens_isPlain, hevents, ← hdocument]
    rfl
  · rw [Element.bare, Element.bare, hbare]

/-- The head of an element that was not read. -/
def builtHead (tag : String) (attributes : Attributes) (selfClosing : Bool) : Head :=
  ⟨0, tag, attributes, none, selfClosing, true⟩

/-- A tree with raw text, a shielded paragraph and values full of signs. -/
def paragraphForest : Forest :=
  .element (builtHead "P" [("title", some "\"a\" & <b>&amp;"), ("hidden", none)] false)
    (.leaf (.text "one ")
      (.element (builtHead "Button" [("class", some "")] false)
        (.element (builtHead "div" [] false) (.element (builtHead "p" [] true) .nil .nil)
          (.element (builtHead "hr" [("id", some "'x'")] false) .nil .nil))
        (.leaf (.comment "--x") .nil)))
    (.element (builtHead "script" [] false) (.leaf (.text "if (a </b> && c)") .nil) .nil)

/-- The markup of that tree. -/
def paragraphMarkup : String :=
  "<P title=\"&quot;a&quot; &amp; <b>&amp;amp;\" hidden>one <Button class=\"\"><div><p/></div>" ++
    "<hr id=\"'x'\"></Button><!----x--></P><script>if (a </b> && c)</script>"

theorem parse_html_of_writable_paragraph :
    Forest.Writable [] paragraphForest ∧ ∃ document, parse paragraphMarkup = .ok document ∧
      document.bare = Element.bare ⟨documentHead, paragraphForest⟩ := by
  have hwritable : Forest.Writable [] paragraphForest :=
    .element (by decide) rfl (by decide) (by decide) (by decide)
      (.text (by decide) (List.all_eq_true.1 rfl) rfl
        (.element (by decide) rfl (by decide) (by decide) (by decide)
          (.element (by decide) rfl (by decide) (by decide) (by decide)
            (.selfClosing (by decide) rfl .nil)
            (.void (by decide) rfl (by decide) (by decide) .nil))
          (.comment (by decide) .nil)))
      (.rawText (by decide) rfl (by decide) ⟨by decide, by decide⟩ (by decide) .nil)
  have hhtml : Element.html ⟨documentHead, paragraphForest⟩ = paragraphMarkup := by
    decide +kernel
  exact ⟨hwritable, hhtml ▸ parse_html_of_writable hwritable⟩

end PageCompiler.Markup
