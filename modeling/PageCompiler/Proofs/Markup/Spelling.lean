import PageCompiler.Proofs.Markup.Forest
import PageCompiler.Proofs.Markup.Names
import PageCompiler.Proofs.Markup.OpenElements

/-!
# The markup of a building

`openHtml` is the markup of what events have built so far : the start tags of the open elements
with what stands behind each of them. An event adds its own spelling at the end and changes nothing
in front of it (`openHtml_add`), for closing an element without an end tag moves its markup into the
element around it as it stands (`openHtml_close`). At the end of the text the document has the
markup of the building (`html_finish`), so it is the spelling of the events, in order
(`html_ofEvents`).

The spelling of an end tag depends on what is open : it repeats the name that the nearest element
with its tag was written with, and it is empty if there is none.
-/

namespace PageCompiler.Markup

/-- The markup of open elements and of what they hold, without end tags. -/
def openHtml : Frame → List Frame → String
  | frame, [] => frame.nodes.reverse.html
  | frame, below :: outer =>
    openHtml below outer ++ (frame.head.startTag ++ frame.nodes.reverse.html)

/-- A start tag begins with `<` and a letter. -/
def Event.WellSpelled : Event → Prop
  | .startTag spelling .. => ∃ c rest, spelling.toList = '<' :: c :: rest ∧ isLetter c
  | _ => True

namespace Building

/-- What an event adds to the markup. -/
def spell (building : Building) : Event → String
  | .startTag spelling _ _ _ => spelling
  | .endTag name =>
    match building.nearest? name with
    | some head => "</" ++ head.sourceTag ++ ">"
    | none => ""
  | .text data => data
  | .namedReference name => "&" ++ name ++ ";"
  | .numericReference number => "&#" ++ number ++ ";"
  | .comment data => "<!--" ++ data ++ "-->"
  | .declaration data => "<!" ++ data ++ ">"
  | .markedSection data => "<![" ++ data ++ "]>"
  | .instruction data => "<?" ++ data ++ ">"

/-- What events add to the markup, one after the other. -/
def spellAll (building : Building) : List Event → String
  | [] => ""
  | event :: events => building.spell event ++ (building.add event).spellAll events

/-- The markup of what is built so far. -/
def html (building : Building) : String :=
  openHtml building.current building.outer

end Building

/-! ## More nodes -/

theorem html_addLeaf (frame : Frame) (leaf : Leaf) :
    (frame.addLeaf leaf).nodes.reverse.html = frame.nodes.reverse.html ++ leaf.html := by
  unfold Frame.addLeaf
  split
  · next data before earlier hnodes =>
    rw [hnodes, Forest.html_reverse_leaf, Forest.html_reverse_leaf, String.append_assoc]
    rfl
  · exact Forest.html_reverse_leaf _ _

theorem openHtml_addLeaf (frame : Frame) (leaf : Leaf) :
    ∀ outer : List Frame, openHtml (frame.addLeaf leaf) outer = openHtml frame outer ++ leaf.html
  | [] => html_addLeaf frame leaf
  | below :: outer => by
    simp only [openHtml, html_addLeaf, Frame.addLeaf_head, String.append_assoc]

theorem openHtml_addElement (frame : Frame) (element : Element) :
    ∀ outer : List Frame,
      openHtml (frame.addElement element) outer = openHtml frame outer ++ element.html
  | [] => Forest.html_reverse_element element.head element.children frame.nodes
  | below :: outer => by
    simp only [openHtml, Frame.addElement, Forest.html_reverse_element, String.append_assoc]
    rfl

/-! ## Closing -/

/-- An element that can have children is written around them. -/
theorem Head.html_eq {head : Head} (hd : head.tag ≠ documentTag) (hs : head.selfClosing = false)
    (hv : head.isVoid = false) (inner : String) :
    head.html inner = head.startTag ++ inner ++ head.endTag := by
  simp [Head.html, hd, hs, hv]

theorem html_close {frame : Frame} (h : frame.head.IsOpen) :
    frame.close.html = frame.head.startTag ++ frame.nodes.reverse.html := by
  have hend : frame.head.endTag = "" := by simp [Head.endTag, h.no_endTag]
  rw [Element.html, Frame.close, Head.html_eq h.not_document h.not_selfClosing h.not_void, hend,
    String.append_empty]

theorem html_markEnd {frame : Frame} (h : frame.head.IsOpen) :
    frame.markEnd.close.html =
      frame.head.startTag ++ frame.nodes.reverse.html ++ ("</" ++ frame.head.sourceTag ++ ">") := by
  have hd : frame.markEnd.head.tag ≠ documentTag := h.not_document
  have hv : frame.markEnd.head.isVoid = false := h.not_void
  exact Head.html_eq hd h.not_selfClosing hv _

/-- An element that ends without an end tag leaves the markup as it is. -/
theorem openHtml_close {frame : Frame} (h : frame.head.IsOpen) (below : Frame)
    (outer : List Frame) :
    openHtml (below.addElement frame.close) outer = openHtml frame (below :: outer) := by
  rw [openHtml_addElement, html_close h, openHtml]

theorem Unwinds.openHtml {verdict : Head → Verdict} {frame target : Frame}
    {outer rest : List Frame} (h : Unwinds verdict frame outer target rest)
    (hs : Sound frame outer) : openHtml target rest = openHtml frame outer := by
  have hkept : Sound target rest ∧ Markup.openHtml target rest = Markup.openHtml frame outer := by
    refine h.preserves (I := fun f o => Sound f o ∧ Markup.openHtml f o = _) ?_ ⟨hs, rfl⟩
    intro f below o hi
    exact ⟨hi.1.2.of_head rfl, (openHtml_close hi.1.1 below o).trans hi.2⟩
  exact hkept.2

/-! ## Events -/

theorem isSound_closeNearest {building : Building} (hs : building.IsSound)
    (verdict : Head → Verdict) (finish : Frame → Frame) :
    (building.closeNearest verdict finish).IsSound :=
  closeNearest_preserves (I := Sound) (fun _ _ _ hi => hi.2.of_head rfl)
    (fun _ _ _ hi => hi.2.of_head rfl) hs

/-- An implied end adds nothing. -/
theorem html_endImplied {building : Building} (hs : building.IsSound) (tag : String) :
    (building.endImplied tag).html = building.html := by
  unfold Building.endImplied
  split
  · rfl
  · unfold Building.closeNearest
    split
    · next current outer h =>
      obtain ⟨target, below, hu, -, rfl⟩ := closeNearest?_eq_some h
      exact (openHtml_close (hu.sound hs).1 below outer).trans (hu.openHtml hs)
    · rfl

/-- An end tag adds the name of the element that it ends, as that was written. -/
theorem html_endWritten {building : Building} (hs : building.IsSound) (name : String) :
    (building.endWritten name).html = building.html ++ building.spell (.endTag name) := by
  unfold Building.endWritten Building.closeNearest
  split
  · next current outer h =>
    obtain ⟨target, below, hu, hc, rfl⟩ := closeNearest?_eq_some h
    have hfound := (building.find?_closes name).symm.trans (hu.find?_openHeads hc)
    have hopen := (hu.sound hs).1
    have hhtml := hu.openHtml hs
    rw [openHtml] at hhtml
    have hspell : building.spell (.endTag name) = "</" ++ target.head.sourceTag ++ ">" := by
      simp only [Building.spell, hfound]
    rw [hspell, Building.html, openHtml_addElement, html_markEnd hopen, ← String.append_assoc,
      hhtml]
    rfl
  · next h =>
    have hnone := (building.find?_closes name).symm.trans
      (find?_openHeads_of_closeNearest?_eq_none (by intro head; split <;> simp) h)
    have hspell : building.spell (.endTag name) = "" := by
      simp only [Building.spell, hnone]
    rw [hspell, String.append_empty]

/-! ## New elements -/

/-- The tag of an element whose start tag begins with a letter is not that of the document. -/
theorem readHead_tag_ne {spelling : String} {c : Char} {rest : List Char}
    (h : spelling.toList = '<' :: c :: rest) (hc : isLetter c) (id : Nat) (name : String)
    (attributes : List (String × Option String)) (selfClosing : Bool) :
    (Building.readHead id spelling name attributes selfClosing).tag ≠ documentTag := by
  rw [Head.tag, Building.readHead, h, List.drop_succ_cons, List.drop_zero]
  cases name.length with
  | zero =>
    exact (by decide : Text.lower (String.ofList []) ≠ documentTag)
  | succ n =>
    rw [List.take_succ_cons]
    exact lower_cons_ne hc _ (by decide)

/-- An element without children, not opened, adds its start tag. -/
theorem html_single {head : Head} (hd : head.tag ≠ documentTag)
    (h : (head.selfClosing || head.isVoid) = true) :
    Element.html ⟨head, .nil⟩ = head.startTag := by
  simp [Element.html, Head.html, hd, h]

/-- A start tag adds itself and keeps the stack sound. -/
theorem html_openElement {building : Building} (hs : building.IsSound) {spelling : String}
    (hw : ∃ c rest, spelling.toList = '<' :: c :: rest ∧ isLetter c) (name : String)
    (attributes : List (String × Option String)) (selfClosing : Bool) :
    (building.openElement spelling name attributes selfClosing).IsSound ∧
      (building.openElement spelling name attributes selfClosing).html =
        building.html ++ spelling := by
  obtain ⟨c, rest, hspelling, hc⟩ := hw
  have htag := readHead_tag_ne hspelling hc building.nextId name attributes selfClosing
  have hclosed := html_endImplied hs name
  have hsound : (building.endImplied name).IsSound :=
    endImplied_preserves (I := Sound) (fun _ _ _ hi => hi.2.of_head rfl) hs name
  rw [Building.IsSound, Building.html]
  obtain ⟨-, ⟨hself, houter, hcurrent⟩ | ⟨-, hvoid, houter, hcurrent⟩ |
    ⟨hself, hvoid, hcurrent, houter⟩⟩ :=
    building.openElement_cases spelling name attributes selfClosing
  · rw [hcurrent, houter]
    refine ⟨hs.of_head rfl, ?_⟩
    rw [openHtml_addElement, html_single htag (by simp [Building.readHead, hself])]
    rfl
  · rw [hcurrent, houter]
    refine ⟨hsound.of_head rfl, ?_⟩
    rw [openHtml_addElement, html_single htag (by simp [hvoid])]
    exact congrArg (· ++ spelling) hclosed
  · rw [hcurrent, houter]
    refine ⟨⟨⟨htag, hself, hvoid, rfl⟩, hsound⟩, ?_⟩
    rw [← hclosed]
    exact congrArg ((building.endImplied name).html ++ ·) (String.append_empty (s := spelling))

/-! ## Runs of events -/

theorem html_add_leaf {building : Building} (hs : building.IsSound) (leaf : Leaf) :
    (building.addLeaf leaf).IsSound ∧
      (building.addLeaf leaf).html = building.html ++ leaf.html :=
  ⟨hs.of_head (Frame.addLeaf_head _ _), openHtml_addLeaf _ _ _⟩

/-- An event adds its spelling to the markup and keeps the stack sound. -/
theorem html_add {building : Building} (hs : building.IsSound) {event : Event}
    (hw : event.WellSpelled) :
    (building.add event).IsSound ∧
      (building.add event).html = building.html ++ building.spell event := by
  cases event with
  | startTag spelling name attributes selfClosing =>
    exact html_openElement hs hw name attributes selfClosing
  | endTag name => exact ⟨isSound_closeNearest hs _ _, html_endWritten hs name⟩
  | text data => exact html_add_leaf hs _
  | namedReference name => exact html_add_leaf hs _
  | numericReference number => exact html_add_leaf hs _
  | comment data => exact html_add_leaf hs _
  | declaration data => exact html_add_leaf hs _
  | markedSection data => exact html_add_leaf hs _
  | instruction data => exact html_add_leaf hs _

/-- Events add their spellings one behind the other. -/
theorem html_foldl_add : ∀ (events : List Event) {building : Building}, building.IsSound →
    (∀ event ∈ events, event.WellSpelled) →
    (events.foldl Building.add building).IsSound ∧
      (events.foldl Building.add building).html = building.html ++ building.spellAll events
  | [], building, hs, _ => ⟨hs, String.append_empty.symm⟩
  | event :: events, building, hs, hw => by
    obtain ⟨hs', hadd⟩ := html_add hs (hw event List.mem_cons_self)
    obtain ⟨hsound, hrest⟩ :=
      html_foldl_add events hs' fun e he => hw e (List.mem_cons_of_mem _ he)
    refine ⟨hsound, ?_⟩
    rw [List.foldl_cons, hrest, hadd, String.append_assoc]
    rfl

/-- Closing everything that is open leaves the markup as it is, inside the document. -/
theorem html_children_finish {building : Building} (hs : building.IsSound) :
    building.finish.head = documentHead ∧ building.finish.children.html = building.html := by
  obtain ⟨bottom, hu, hb⟩ := closeAll_eq building.current building.outer
  have hhead : bottom.head = documentHead := hu.sound hs
  have hhtml : openHtml bottom [] = building.html := hu.openHtml hs
  rw [Building.finish, hb]
  exact ⟨hhead, hhtml⟩

theorem html_finish {building : Building} (hs : building.IsSound) :
    building.finish.html = building.html := by
  obtain ⟨hhead, hhtml⟩ := html_children_finish hs
  rw [Element.html, hhead, Head.html, if_pos documentHead_tag, hhtml]

/-- After events the document has the markup of before and then their spellings. -/
theorem html_finish_foldl_add {building : Building} (hs : building.IsSound) {events : List Event}
    (h : ∀ event ∈ events, event.WellSpelled) :
    (events.foldl Building.add building).finish.html =
      building.html ++ building.spellAll events := by
  obtain ⟨hs', hhtml⟩ := html_foldl_add events hs h
  rw [html_finish hs', hhtml]

/-- The document that events describe has the markup that the events spell. -/
theorem html_ofEvents {events : List Event} (h : ∀ event ∈ events, event.WellSpelled) :
    (ofEvents events).html = Building.start.spellAll events := by
  have hstart : Building.start.html = "" := by decide
  rw [ofEvents, html_finish_foldl_add Building.start_isSound h, hstart, String.empty_append]

/-- Events with implied, stray and missing end tags and an element without children. -/
def paragraphEvents : List Event :=
  [.startTag "<P>" "p" [] false, .text "a", .startTag "<br>" "br" [] false,
   .startTag "<p>" "p" [] false, .startTag "<b>" "b" [] false, .endTag "i", .text "c",
   .endTag "p", .comment "d"]

theorem html_ofEvents_paragraphs : (∀ event ∈ paragraphEvents, event.WellSpelled) ∧
    (ofEvents paragraphEvents).html = "<P>a<br><p><b>c</p><!--d-->" := by
  have h : ∀ event ∈ paragraphEvents, event.WellSpelled := by
    simp [paragraphEvents, Event.WellSpelled, isLetter]
  refine ⟨h, (html_ofEvents h).trans ?_⟩
  decide

end PageCompiler.Markup
