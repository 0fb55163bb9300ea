import PageCompiler.Proofs.Markup.Fragment

/-!
# The body of a page

A page around a body is the document type, an empty `head` and the body, and nothing else
(`pageAround`). It is read as the document around what the tokens of the body build on their own,
and that is written as they are (`parse_pageAround`). The tokens stand inside the body like a
fragment (`foldl_add_inside`); what they leave open is closed by the end tag of the body.

The tokens are inner ones : none opens an element with a tag that the page or the build has a use
for (`pageTags`), so none of these turns up in the body.
-/

namespace PageCompiler.Markup

/-! ## Tokens of a body -/

/-- The tags that stand around a body, that the build reads or that open raw text. -/
def pageTags : List String :=
  ["html", "head", "body", "meta", "script", "style"]

/-- A plain token that opens no element with one of these tags. -/
def Token.IsInner : Token → Prop
  | startTag tag => tag.IsPlain ∧ tag.tagName ∉ pageTags
  | rawText _ _ => False
  | token => token.IsPlain

instance : DecidablePred Token.IsInner
  | .startTag tag => inferInstanceAs (Decidable (tag.IsPlain ∧ tag.tagName ∉ pageTags))
  | .rawText _ _ => inferInstanceAs (Decidable False)
  | .text data => inferInstanceAs (Decidable (Token.text data).IsPlain)
  | .namedReference name => inferInstanceAs (Decidable (Token.namedReference name).IsPlain)
  | .numericReference number => inferInstanceAs (Decidable (Token.numericReference number).IsPlain)
  | .comment data => inferInstanceAs (Decidable (Token.comment data).IsPlain)
  | .doctype data => inferInstanceAs (Decidable (Token.doctype data).IsPlain)
  | .instruction data => inferInstanceAs (Decidable (Token.instruction data).IsPlain)
  | .endTag name => inferInstanceAs (Decidable (Token.endTag name).IsPlain)

theorem Token.isPlain_of_isInner {token : Token} (h : token.IsInner) : token.IsPlain := by
  cases token with
  | startTag tag =>
    refine ⟨h.1, Bool.eq_false_iff.2 fun hopens => h.2 ?_⟩
    have hraw : ∀ name ∈ rawTextTags, name ∈ pageTags := by decide
    exact hraw _ (SpelledTag.tagName_mem_rawTextTags hopens)
  | rawText tag content => exact h.elim
  | _ => exact h

/-- An inner token is read as one event at most; an end tag has an element to end. -/
theorem Token.events_of_isInner {token : Token} (h : token.IsInner) {events : List Event}
    (hevents : token.events = .ok events) :
    events = [] ∨ ∃ event, events = [event] ∧
      (∀ name, event = .endTag name → ∃ spelled, token = .endTag spelled ∧
        name = Text.lower (String.ofList spelled)) ∧
      ∀ id head, event.head? id = some head → head.tag ∉ pageTags := by
  cases token with
  | startTag tag =>
    obtain ⟨event, hevent, rfl⟩ := map_eq_ok hevents
    obtain ⟨values, -, rfl⟩ := SpelledTag.event_eq_ok hevent
    refine .inr ⟨_, rfl, nofun, fun id head hhead => ?_⟩
    obtain rfl : tag.head id values = head := Option.some.inj hhead
    rw [SpelledTag.tag_head h.1]
    exact h.2
  | rawText tag content => exact h.elim
  | text data =>
    obtain rfl := Except.ok.inj hevents
    cases data with
    | nil => exact .inl rfl
    | cons c data =>
      exact .inr ⟨_, rfl, nofun, nofun⟩
  | endTag spelled =>
    obtain rfl := Except.ok.inj hevents
    refine .inr ⟨_, rfl, fun name he => ⟨spelled, rfl, ?_⟩, nofun⟩
    exact (Event.endTag.inj he).symm
  | _ =>
    obtain rfl := Except.ok.inj hevents
    exact .inr ⟨_, rfl, nofun, nofun⟩

/-- Inner tokens build inside an element what they build on their own. -/
theorem foldl_add_inside {head : Head} {base : List Frame} (hbase : HoldsPage head base) :
    ∀ {tokens : List Token} {fragment : Building}, (∀ token ∈ tokens, token.IsInner) →
      EndsMatch fragment tokens → ∀ {events : List Event}, Token.eventsOf tokens = .ok events →
        events.foldl Building.add (fragment.inside head base) =
          (events.foldl Building.add fragment).inside head base
  | [], _, _, _, events, hevents => by
    obtain rfl := Except.ok.inj hevents
    rfl
  | token :: tokens, fragment, h, hends, events, hevents => by
    obtain ⟨first, hfirst, hevents⟩ := bind_eq_ok hevents
    obtain ⟨more, hmore, rfl⟩ := map_eq_ok hevents
    have hstep : first.foldl Building.add (fragment.inside head base) =
        (first.foldl Building.add fragment).inside head base := by
      obtain rfl | ⟨event, rfl, hend, -⟩ :=
        Token.events_of_isInner (h token List.mem_cons_self) hfirst
      · rfl
      · -- the element of an end tag is among those of the fragment
        refine add_inside hbase fun name hname => ?_
        obtain ⟨spelled, rfl, rfl⟩ := hend name hname
        obtain ⟨found, hfound, -⟩ := hends.1 spelled rfl
        exact ⟨found, hfound⟩
    rw [List.foldl_append, List.foldl_append, hstep]
    exact foldl_add_inside hbase (fun other ho => h other (List.mem_cons_of_mem _ ho))
      (hends.2 first hfirst) hmore

/-- No start tag among inner tokens has one of the tags of the page. -/
theorem tag_of_mem_headsOf : ∀ {tokens : List Token}, (∀ token ∈ tokens, token.IsInner) →
    ∀ {events : List Event}, Token.eventsOf tokens = .ok events →
      ∀ nextId, ∀ head ∈ headsOf nextId events, head.tag ∉ pageTags
  | [], _, events, hevents, _, head, hmem => by
    obtain rfl := Except.ok.inj hevents
    cases hmem
  | token :: tokens, h, events, hevents, nextId, head, hmem => by
    obtain ⟨first, hfirst, hevents⟩ := bind_eq_ok hevents
    obtain ⟨more, hmore, rfl⟩ := map_eq_ok hevents
    have hrest := tag_of_mem_headsOf (fun other ho => h other (List.mem_cons_of_mem _ ho)) hmore
    obtain rfl | ⟨event, rfl, -, htag⟩ :=
      Token.events_of_isInner (h token List.mem_cons_self) hfirst
    · exact hrest nextId head hmem
    · rw [List.singleton_append, headsOf] at hmem
      split at hmem
      · next opened hopened =>
        rcases List.mem_cons.1 hmem with rfl | hmem
        · exact htag nextId head hopened
        · exact hrest _ head hmem
      · exact hrest nextId head hmem

/-! ## What is built -/

/-- Open elements are among the elements that were read off so far. -/
theorem mem_openList {head : Head} : ∀ {frame : Frame} {outer : List Frame},
    head ∈ openHeads frame outer →
      { head with hasEndTag := false } ∈ headListing.openList frame outer
  | frame, below :: outer, h => by
    rw [Listing.openList]
    rcases List.mem_cons.1 h with rfl | h
    · exact List.mem_append_right _ (List.mem_append_left _ (List.mem_singleton_self _))
    · exact List.mem_append_left _ (mem_openList h)

/-- A document of its own, whose elements get the numbers that they have in the page. -/
def fragmentStart : Building :=
  ⟨⟨documentHead, .nil⟩, [], 4⟩

/-- Inner tokens build a document that is written as they are, and none of its elements, open or
not, has one of the tags of the page. -/
theorem fragment_of_inner {tokens : List Token} (h : ∀ token ∈ tokens, token.IsInner)
    (hends : EndsMatch fragmentStart tokens) {events : List Event}
    (hevents : Token.eventsOf tokens = .ok events) {fragment : Building}
    (hfragment : fragment = events.foldl Building.add fragmentStart) :
    fragment.finish.children.html = String.ofList (Token.charsOf tokens) ∧
      (∀ head ∈ fragment.finish.children.heads, head.tag ∉ pageTags) ∧
      ∀ head ∈ fragment.opened, head.tag ∉ pageTags := by
  have hlist : headListing.openList fragment.current fragment.outer = headsOf 4 events := by
    rw [hfragment, Listing.openList_foldl_add, headListing_ofEvents]
    rfl
  have htags := tag_of_mem_headsOf h hevents 4
  -- elements, open or closed, are told by the events, but for whether an end tag was read
  refine ⟨?_, fun head hmem => ?_, fun head hmem => ?_⟩
  · have hplain := fun token hmem => Token.isPlain_of_isInner (h token hmem)
    obtain ⟨hwell, hspell⟩ := spellAll_eventsOf hplain hends hevents
    have hsound : fragmentStart.IsSound := rfl
    have hstart : fragmentStart.html = "" := by decide
    obtain ⟨hsound, hhtml⟩ := html_foldl_add events hsound hwell
    rw [hfragment, (html_children_finish hsound).2, hhtml, hstart, String.empty_append, hspell]
  · have hclosed : headListing.list fragment.finish.children = headsOf 4 events :=
      (headListing.list_closeAll _ _).trans hlist
    rw [headListing_list] at hclosed
    have hread : { head with hasEndTag := false } ∈ headsOf 4 events :=
      hclosed ▸ List.mem_map.2 ⟨head, hmem, rfl⟩
    exact htags { head with hasEndTag := false } hread
  · have hread : { head with hasEndTag := false } ∈ headsOf 4 events :=
      hlist ▸ mem_openList hmem
    exact htags { head with hasEndTag := false } hread

/-! ## The page around it -/

/-- A page around a body. -/
def pageAround (body : String) : String :=
  "<!DOCTYPE html>\n<html><head></head><body>" ++ body ++ "</body></html>"

/-- What stands in front of the body. -/
def openingTokens : List Token :=
  [.doctype " html".toList, .text ['\n'], .startTag ⟨"html".toList, [], false⟩,
   .startTag ⟨"head".toList, [], false⟩, .endTag "head".toList,
   .startTag ⟨"body".toList, [], false⟩]

/-- What stands behind it. -/
def closingTokens : List Token :=
  [.endTag "body".toList, .endTag "html".toList]

theorem charsOf_pageAround (tokens : List Token) :
    String.ofList (Token.charsOf (openingTokens ++ (tokens ++ closingTokens))) =
      pageAround (String.ofList (Token.charsOf tokens)) := by
  have hopening : String.ofList (Token.charsOf openingTokens) =
      "<!DOCTYPE html>\n<html><head></head><body>" := by decide +kernel
  have hclosing : String.ofList (Token.charsOf closingTokens) = "</body></html>" := by
    decide +kernel
  rw [Token.charsOf_append, Token.charsOf_append, String.ofList_append, String.ofList_append,
    hopening, hclosing, ← String.append_assoc]
  rfl

/-- The head of an element around the body, which has no attributes. -/
def frameHead (id : Nat) (tag : String) : Head :=
  Building.readHead id ("<" ++ tag ++ ">") tag [] false

/-- The open elements around the body. -/
def pageBase : List Frame :=
  [⟨frameHead 1 "html", .element { frameHead 2 "head" with hasEndTag := true } .nil .nil⟩,
   ⟨documentHead, .leaf (.text "\n") (.leaf (.markup "<!DOCTYPE html>") .nil)⟩]

/-- The document around the nodes of a body. -/
def documentAround (body : Forest) : Element :=
  ⟨documentHead, .leaf (.markup "<!DOCTYPE html>") (.leaf (.text "\n")
    (.element { frameHead 1 "html" with hasEndTag := true }
      (.element { frameHead 2 "head" with hasEndTag := true } .nil
        (.element { frameHead 3 "body" with hasEndTag := true } body .nil)) .nil))⟩

/-- The page has come to its body. -/
theorem foldl_openingTokens : ∃ events, Token.eventsOf openingTokens = .ok events ∧
    events.foldl Building.add Building.start =
      fragmentStart.inside (frameHead 3 "body") pageBase := by
  have hrun : (Token.eventsOf openingTokens).toOption.any fun events =>
      events.foldl Building.add Building.start =
        fragmentStart.inside (frameHead 3 "body") pageBase := by
    decide +kernel
  obtain ⟨events, hevents, hpage⟩ := exists_ok_of_any hrun
  exact ⟨events, hevents, of_decide_eq_true hpage⟩

/-- No start tag ends a body or a whole page. -/
theorem not_mem_closes {tag : String} {implied : ImpliedEnd} (h : impliedEnd? tag = some implied) :
    "body" ∉ implied.closes ∧ "html" ∉ implied.closes := by
  unfold impliedEnd? at h
  split_ifs at h <;> (obtain rfl := Option.some.inj h; decide)

theorem holdsPage_pageBase : HoldsPage (frameHead 3 "body") pageBase := by
  intro tag nodes implied himplied
  have haround : (openHeads ⟨frameHead 3 "body", .nil⟩ pageBase).map Head.tag =
      ["body", "html"] := by
    decide +kernel
  -- what the body holds does not matter for which elements are open
  change implied.IsClear ((openHeads ⟨frameHead 3 "body", .nil⟩ pageBase).map Head.tag)
  obtain ⟨hbody, hhtml⟩ := not_mem_closes himplied
  rw [haround, ImpliedEnd.isClear_cons, ImpliedEnd.isClear_cons]
  exact ⟨hbody, .inr ⟨hhtml, .inr ImpliedEnd.isClear_nil⟩⟩

/-- The end tag of the body closes it with all that is open in it. -/
theorem endWritten_body {fragment : Building} (h : ∀ head ∈ fragment.opened, head.tag ∉ pageTags) :
    (fragment.inside (frameHead 3 "body") pageBase).endWritten "body" =
      ⟨⟨frameHead 1 "html",
        .element { frameHead 3 "body" with hasEndTag := true } fragment.finish.children
          (.element { frameHead 2 "head" with hasEndTag := true } .nil .nil)⟩,
        [⟨documentHead, .leaf (.text "\n") (.leaf (.markup "<!DOCTYPE html>") .nil)⟩],
        fragment.nextId⟩ := by
  have hbody : (frameHead 3 "body").tag = "body" := by decide
  have hpasses : ∀ head ∈ openHeads fragment.current fragment.outer,
      (if head.tag = "body" then Verdict.closes else .passes) = .passes := by
    intro head hmem
    refine if_neg fun htag => h head hmem ?_
    rw [htag]
    decide
  have hfound : closeNearest? (fun head => if head.tag = "body" then .closes else .passes)
      Frame.markEnd (fragment.inside (frameHead 3 "body") pageBase).current
      (fragment.inside (frameHead 3 "body") pageBase).outer =
        closeNearest? (fun head => if head.tag = "body" then .closes else .passes) Frame.markEnd
          ⟨frameHead 3 "body", fragment.finish.children.reverse⟩ pageBase :=
    closeNearest?_stackOnto_passes Frame.markEnd hpasses
  rw [Building.endWritten, Building.closeNearest, hfound, pageBase, closeNearest?, if_pos hbody]
  simp only [Frame.markEnd, Frame.close, Frame.addElement, Forest.reverse_reverse]
  rfl

/-- Behind its body the page is closed. -/
theorem foldl_closingTokens {fragment : Building}
    (h : ∀ head ∈ fragment.opened, head.tag ∉ pageTags) :
    ([Event.endTag "body", .endTag "html"].foldl Building.add
      (fragment.inside (frameHead 3 "body") pageBase)).finish =
        documentAround fragment.finish.children := by
  have hhtml : (frameHead 1 "html").tag = "html" := by decide
  rw [List.foldl_cons, Building.add, endWritten_body h, List.foldl_cons, List.foldl_nil,
    Building.add, Building.endWritten, Building.closeNearest]
  simp only [closeNearest?, if_pos hhtml]
  rfl

/-- The tokens of a page around inner ones. -/
theorem isPlain_pageAround {tokens : List Token} (h : ∀ token ∈ tokens, token.IsInner) :
    ∀ token ∈ openingTokens ++ (tokens ++ closingTokens), token.IsPlain := by
  have hopening : ∀ token ∈ openingTokens, token.IsPlain := by decide +kernel
  have hclosing : ∀ token ∈ closingTokens, token.IsPlain := by decide +kernel
  exact List.forall_mem_append.2 ⟨hopening, List.forall_mem_append.2
    ⟨fun token hmem => Token.isPlain_of_isInner (h token hmem), hclosing⟩⟩

/-- A page around inner tokens is read as the document around what they build, and that is written
as they are. -/
theorem parse_pageAround {tokens : List Token} (h : ∀ token ∈ tokens, token.IsInner)
    (hends : EndsMatch Building.start tokens) {document : Element}
    (hparse : parse (pageAround (String.ofList (Token.charsOf tokens))) = .ok document) :
    ∃ body, document = documentAround body ∧ body.html = String.ofList (Token.charsOf tokens) ∧
      ∀ head ∈ body.heads, head.tag ∉ pageTags := by
  rw [← charsOf_pageAround, parse_charsOf (isPlain_pageAround h)] at hparse
  obtain ⟨all, hall, rfl⟩ := map_eq_ok hparse
  obtain ⟨opening, hopening, hpage⟩ := foldl_openingTokens
  rw [Token.eventsOf_append, hopening] at hall
  obtain ⟨behind, hbehind, rfl⟩ := map_eq_ok hall
  rw [Token.eventsOf_append] at hbehind
  obtain ⟨events, hevents, hbehind⟩ := bind_eq_ok hbehind
  obtain ⟨closing, hclosing, rfl⟩ := map_eq_ok hbehind
  have hnames : Building.start.openNames = fragmentStart.openNames := rfl
  have hinner := endsMatch_congr hnames hends
  obtain ⟨hhtml, hheads, hopened⟩ := fragment_of_inner h hinner hevents rfl
  refine ⟨_, ?_, hhtml, hheads⟩
  rw [ofEvents, List.foldl_append, List.foldl_append, hpage,
    foldl_add_inside holdsPage_pageBase h hinner hevents]
  have hend : Token.eventsOf closingTokens = .ok [.endTag "body", .endTag "html"] := by
    decide +kernel
  obtain rfl := Except.ok.inj (hend.symm.trans hclosing)
  exact foldl_closingTokens hopened

/-- The page has the elements of its body and three of its own. -/
theorem mem_heads_documentAround {body : Forest} {head : Head}
    (h : head ∈ (documentAround body).children.heads) :
    head.tag ∈ ["html", "head", "body"] ∨ head ∈ body.heads := by
  have hheads : (documentAround body).children.heads =
      [{ frameHead 1 "html" with hasEndTag := true },
        { frameHead 2 "head" with hasEndTag := true },
        { frameHead 3 "body" with hasEndTag := true }] ++ body.heads := by
    simp [documentAround, Forest.heads]
  have htags : ∀ own ∈ [{ frameHead 1 "html" with hasEndTag := true },
      { frameHead 2 "head" with hasEndTag := true },
      { frameHead 3 "body" with hasEndTag := true }], own.tag ∈ ["html", "head", "body"] := by
    decide
  rw [hheads] at h
  exact (List.mem_append.1 h).imp_left (htags head)

end PageCompiler.Markup
