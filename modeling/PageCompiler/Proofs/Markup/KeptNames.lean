import Mathlib.Tactic.TFAE
import PageCompiler.Proofs.Markup.AttributeEdits
import PageCompiler.Proofs.Markup.Growth
import PageCompiler.Proofs.Markup.Tokens

/-!
# The names that elements keep

An element that was read has the name that is written in its start tag, with that name in small
letters as its tag, and the end tag with the same name closes it (`Head.IsClosedBy`). Each of the
three holds just if the name has no `İ` (`Head.IsReadOff.tfae_name`). As small letters make that
letter two characters, one character for each of them is taken off the start tag behind the name
(`Head.IsReadOff.exists_behind`), and no end tag has such a name (`name_not_kept`).

An element that is closed stays as it is, whatever comes behind (`Closed.add`, `Closed.foldl_add`).
So what an end tag does to an open element is seen in the document (`hasEndTag_of_meetsEnd`).

The end tag with a name is read with that name, unless its last characters are blanks that could as
well stand behind the name (`endTagName`).
-/

namespace PageCompiler.Markup

/-! ## Closing by name -/

/-- Where this element is open and none inside it has the name, an end tag with the name closes it
and what is inside it : it becomes the latest node of the element around it, with an end tag. -/
def Head.IsClosedBy (head : Head) (name : String) : Prop :=
  ∀ (building : Building) (inside around : List Head),
    building.opened = inside ++ head :: around → (∀ other ∈ inside, other.tag ≠ name) →
      (building.add (.endTag name)).opened = around ∧
      ∃ children, (building.add (.endTag name)).current.close.children.last? =
        some (.element ⟨{ head with hasEndTag := true }, children⟩)

/-- A search that passes some open elements and closes the next one leaves those around it. -/
theorem closeNearest?_of_openHeads (verdict : Head → Verdict) (finish : Frame → Frame)
    {head : Head} {around : List Head} (hcloses : verdict head = .closes) :
    ∀ {inside : List Head} {frame : Frame} {outer : List Frame},
      openHeads frame outer = inside ++ head :: around →
      (∀ other ∈ inside, verdict other = .passes) →
      ∃ target below rest, target.head = head ∧ openHeads below rest = around ∧
        closeNearest? verdict finish frame outer =
          some (below.addElement (finish target).close, rest)
  | inside, _, [], h, _ => by
    cases inside <;> cases h
  | [], frame, below :: outer, h, _ => by
    obtain ⟨hhead, haround⟩ := List.cons.inj h
    refine ⟨frame, below, outer, hhead, haround, ?_⟩
    rw [closeNearest?, hhead, hcloses]
  | other :: inside, frame, below :: outer, h, hpasses => by
    obtain ⟨hhead, hrest⟩ := List.cons.inj h
    obtain ⟨target, around', rest, htarget, haround, hsearch⟩ :=
      closeNearest?_of_openHeads verdict finish hcloses
        ((openHeads_addElement below frame.close outer).trans hrest)
        fun next hnext => hpasses next (List.mem_cons_of_mem _ hnext)
    refine ⟨target, around', rest, htarget, haround, ?_⟩
    rw [closeNearest?, hhead, hpasses other List.mem_cons_self]
    exact hsearch

/-- An end tag closes an open element just if its name is the tag of that element. -/
theorem Head.isClosedBy_iff (head : Head) (name : String) :
    head.IsClosedBy name ↔ head.tag = name := by
  constructor
  · intro h
    by_contra hother
    -- With nothing else open the end tag is dropped.
    have hclosed := (h ⟨⟨head, .nil⟩, [⟨documentHead, .nil⟩], 1⟩ [] [] rfl (by simp)).1
    simp [Building.add, Building.endWritten, Building.closeNearest, closeNearest?, hother,
      Building.opened, openHeads] at hclosed
  · rintro rfl building inside around hopened hinside
    obtain ⟨target, below, rest, htarget, haround, hsearch⟩ :=
      closeNearest?_of_openHeads (fun other => if other.tag = head.tag then .closes else .passes)
        Frame.markEnd (if_pos rfl) hopened fun other hother => if_neg (hinside other hother)
    have hadd : building.add (.endTag head.tag) =
        { building with current := below.addElement target.markEnd.close, outer := rest } := by
      rw [Building.add, Building.endWritten, Building.closeNearest, hsearch]
    rw [hadd]
    refine ⟨(openHeads_addElement below _ rest).trans haround, target.nodes.reverse, ?_⟩
    rw [last?_addElement, ← htarget]
    rfl

/-! ## Closed elements -/

/-- An element with this head is closed : it is among the nodes of an open one, or in one of them. -/
def Closed (head : Head) : Frame → List Frame → Prop
  | frame, [] => head ∈ frame.nodes.heads
  | frame, below :: outer => head ∈ frame.nodes.heads ∨ Closed head below outer

theorem Forest.mem_heads_reverseOnto {head : Head} : ∀ (forest done : Forest),
    head ∈ forest.heads ∨ head ∈ done.heads → head ∈ (forest.reverseOnto done).heads
  | nil, _, h => h.resolve_left List.not_mem_nil
  | leaf l next, done, h => mem_heads_reverseOnto next (leaf l done) h
  | element first children next, done, h => by
    refine mem_heads_reverseOnto next (element first children done) ?_
    simp only [heads, List.mem_cons, List.mem_append] at h ⊢
    tauto

theorem Forest.mem_heads_reverse {head : Head} {forest : Forest} (h : head ∈ forest.heads) :
    head ∈ forest.reverse.heads :=
  mem_heads_reverseOnto forest nil (.inl h)

namespace Closed

variable {head : Head} {frame frame' below : Frame} {outer : List Frame}

theorem of_nodes (h : head ∈ frame.nodes.heads) : Closed head frame outer := by
  cases outer with
  | nil => exact h
  | cons below outer => exact .inl h

theorem of_last? {children : Forest}
    (h : frame.close.children.last? = some (.element ⟨head, children⟩)) :
    Closed head frame outer := by
  have hmem := Forest.mem_elements_of_mem_tops _ (List.mem_of_mem_getLast? h)
  have hhead := Forest.mem_heads_reverse (Forest.head_mem_heads hmem)
  rw [Frame.close, Forest.reverse_reverse] at hhead
  exact of_nodes hhead

theorem mono (h : Closed head frame outer)
    (hnodes : head ∈ frame.nodes.heads → head ∈ frame'.nodes.heads) :
    Closed head frame' outer := by
  cases outer with
  | nil => exact hnodes h
  | cons below outer => exact h.imp_left hnodes

theorem addLeaf (h : Closed head frame outer) (leaf : Leaf) :
    Closed head (frame.addLeaf leaf) outer := by
  refine h.mono fun hmem => ?_
  unfold Frame.addLeaf
  split
  · next hnodes =>
    rw [hnodes] at hmem
    exact hmem
  · exact hmem

theorem addElement (h : Closed head frame outer) (element : Element) :
    Closed head (frame.addElement element) outer :=
  h.mono fun hmem => List.mem_cons_of_mem _ (List.mem_append_right _ hmem)

theorem close (h : Closed head frame (below :: outer)) (hasEndTag : Bool) :
    Closed head (below.addElement ⟨{ frame.head with hasEndTag }, frame.nodes.reverse⟩) outer := by
  rcases h with hmem | h
  · exact of_nodes (List.mem_cons_of_mem _
      (List.mem_append_left _ (Forest.mem_heads_reverse hmem)))
  · exact h.addElement _

/-- Elements that are closed stay as they are. -/
theorem add {building : Building} (h : Closed head building.current building.outer)
    (event : Event) : Closed head (building.add event).current (building.add event).outer := by
  obtain ⟨leaf, -, -, hadd⟩ | ⟨name, -, hadd⟩ |
    ⟨spelling, name, attributes, selfClosing, -, hadd⟩ := building.add_cases event
  · rw [hadd]
    exact h.addLeaf leaf
  · rw [hadd]
    exact endWritten_preserves (fun _ _ _ hasEndTag hi => hi.close hasEndTag) h name
  · have hended := endImplied_preserves (I := Closed head)
      (fun frame _ _ hi => hi.close frame.head.hasEndTag) h name
    rw [hadd]
    obtain ⟨-, ⟨-, houter, hcurrent⟩ | ⟨-, -, houter, hcurrent⟩ | ⟨-, -, hcurrent, houter⟩⟩ :=
      building.openElement_cases spelling name attributes selfClosing
    · rw [hcurrent, houter]
      exact h.addElement _
    · rw [hcurrent, houter]
      exact hended.addElement _
    · rw [hcurrent, houter]
      exact .inr hended

theorem foldl_add : ∀ (events : List Event) {building : Building},
    Closed head building.current building.outer →
      Closed head (events.foldl Building.add building).current
        (events.foldl Building.add building).outer
  | [], _, h => h
  | event :: events, _, h => foldl_add events (h.add event)

/-- At the end of the text they are in the document. -/
theorem mem_heads_finish {building : Building}
    (h : Closed head building.current building.outer) :
    head ∈ building.finish.children.heads := by
  obtain ⟨bottom, hu, hdocument⟩ := closeAll_eq building.current building.outer
  have hbottom : head ∈ bottom.nodes.heads :=
    hu.preserves (I := Closed head) (fun frame _ _ hi => hi.close frame.head.hasEndTag) h
  rw [Building.finish, hdocument]
  exact Forest.mem_heads_reverse hbottom

end Closed

/-- Among the events is an end tag with the name that comes when this element is open and none
inside it has the name. -/
def Head.MeetsEnd (head : Head) (name : String) (events : List Event) : Prop :=
  ∃ front back inside around, events = front ++ .endTag name :: back ∧
    (front.foldl Building.add Building.start).opened = inside ++ head :: around ∧
    ∀ other ∈ inside, other.tag ≠ name

/-- An element that an end tag of the text closes has an end tag in the document. -/
theorem hasEndTag_of_meetsEnd {text : String} {page : Page} (h : Page.ofMarkup text = .ok page)
    {head : Head} (hmem : head ∈ page.inside) {name : String}
    (hcloses : { head with hasEndTag := false }.IsClosedBy name) {events : List Event}
    (hevents : readEvents text.toList = .ok events)
    (hmeets : { head with hasEndTag := false }.MeetsEnd name events) :
    head.hasEndTag = true := by
  obtain ⟨front, back, inside, around, rfl, hopened, hinside⟩ := hmeets
  obtain ⟨-, children, hlast⟩ := hcloses _ inside around hopened hinside
  have hclosed := ((Closed.of_last? hlast).foldl_add back).mem_heads_finish
  have ht := (Page.isTree_ofMarkup h).1
  obtain ⟨document, hparse, rfl⟩ := map_eq_ok h
  obtain ⟨found, hfound, rfl⟩ := map_eq_ok hparse
  obtain rfl := Except.ok.inj (hfound.symm.trans hevents)
  have hin : { head with hasEndTag := true } ∈
      (Page.ofDocument (ofEvents (front ++ .endTag name :: back))).inside := by
    rw [Page.inside, Page.ofDocument, ofEvents, List.foldl_append]
    exact hclosed
  exact (congrArg Head.hasEndTag (Page.eq_of_mem_inside ht hmem hin rfl) :)

/-! ## Written names -/

namespace Head.IsReadOff

variable {head : Head} {text spelling : String}

/-- The written name is a letter and what goes on with the name of a tag. -/
theorem exists_letter (h : head.IsReadOff text spelling) :
    ∃ c more, (writtenName spelling).toList = c :: more ∧ isLetter c ∧
      ∀ d ∈ more, isTagNameChar d := by
  obtain ⟨⟨c, front, hspelling, hc⟩, -⟩ := h
  refine ⟨c, front.takeWhile isTagNameChar, ?_, hc, List.all_eq_true.1 List.all_takeWhile⟩
  rw [writtenName, hspelling, String.toList_ofList, List.drop_succ_cons, List.drop_zero,
    List.takeWhile_cons_of_pos (nameChar_reads (isNameChar_of_isLetter hc)).1]

/-- Something stands behind the written name, and for each `İ` in that the element takes one
character more for its own name. -/
theorem exists_behind (h : head.IsReadOff text spelling) :
    ∃ behind, behind ≠ [] ∧ spelling.toList = '<' :: ((writtenName spelling).toList ++ behind) ∧
      head.sourceTag = String.ofList ((writtenName spelling).toList ++
        behind.take ((writtenName spelling).toList.count 'İ')) := by
  obtain ⟨⟨c, front, hspelling, hc⟩, before, later, name, values, -, hread, heq⟩ := h
  have hsource : head.sourceTag =
      (Building.readHead head.id spelling name values head.selfClosing).sourceTag :=
    (congrArg Head.sourceTag heq :)
  rw [hspelling, List.cons_append, List.cons_append] at hread
  have hnamed := isNamed_of_readStartTag hc hread
  rw [← hspelling, String.ofList_toList] at hnamed
  obtain ⟨-, behind, hne, hbehind, hparts⟩ := readStartTag_parts hread
  have hwritten : (writtenName spelling).toList =
      (c :: (front ++ later)).takeWhile isTagNameChar := by
    rw [writtenName, String.toList_ofList, hspelling, hparts]
    exact takeWhile_of_append hne hbehind
  rw [← hspelling, ← hwritten] at hparts
  refine ⟨behind, hne, hparts, ?_⟩
  rw [hsource, sourceTag_readHead_eq hnamed.2, hparts, List.drop_succ_cons, List.drop_zero,
    ← String.length_toList, List.take_length_add_append]

/-- The name, the tag and the end tag of an element are those of its start tag just if small letters
do not make the name longer. -/
theorem tfae_name (h : head.IsReadOff text spelling) :
    [head.sourceTag = writtenName spelling,
      head.tag = Text.lower (writtenName spelling),
      { head with hasEndTag := false }.IsClosedBy (Text.lower (writtenName spelling)),
      'İ' ∉ (writtenName spelling).toList].TFAE := by
  obtain ⟨behind, hne, -, hsource⟩ := h.exists_behind
  tfae_have 1 → 2 := fun hname => congrArg Text.lower hname
  tfae_have 2 ↔ 3 := (isClosedBy_iff { head with hasEndTag := false } _).symm
  tfae_have 2 → 4 := by
    intro htag hlong
    -- The name has grown by a character, and what it got in small letters stays in it.
    have hlength := congrArg String.length htag
    have hcount := List.count_pos_iff.2 hlong
    have hbehind := List.length_pos_iff.2 hne
    simp only [Head.tag, hsource, Text.lower, String.toList_ofList, String.length_ofList,
      Text.length_lowerAfter, List.length_append, List.length_take, List.count_append] at hlength
    omega
  tfae_have 4 → 1 := by
    intro hshort
    rw [hsource, List.count_eq_zero.2 hshort, List.take_zero, List.append_nil,
      String.ofList_toList]
  tfae_finish

end Head.IsReadOff

/-! ## End tags with a name -/

/-- The name that an end tag is read with, given what stands between `</` and `>` : blanks are not
part of it, if all that stands in front of them goes on with the name of an end tag. -/
def endTagName (name : List Char) : List Char :=
  if (name.dropWhile isEndTagNameChar).all Text.isBlank then name.takeWhile isEndTagNameChar
  else name

/-- What could be the name of a start tag makes an end tag. -/
theorem readEndTag_endTagChars {c : Char} {more : List Char} (hc : isLetter c)
    (hmore : ∀ d ∈ more, isTagNameChar d) (later : List Char) :
    readEndTag none (Token.endTagChars (c :: more) ++ later) =
      some ([.endTag (Text.lower (String.ofList (endTagName (c :: more))))], none, later) := by
  have hreads := nameChar_reads (isNameChar_of_isLetter hc)
  have htext : (Token.endTagChars (c :: more) ++ later).drop 2 = c :: (more ++ '>' :: later) := by
    simp [Token.endTagChars]
  have hall : ∀ d ∈ c :: more, isTagNameChar d := List.forall_mem_cons.2 ⟨hreads.1, hmore⟩
  have hangle : '>' ∉ c :: more := fun hmem => absurd (hall '>' hmem) (by decide)
  have hname : (more ++ '>' :: later).takeWhile isTagNameChar = more := by
    rw [takeWhile_append_cons (by decide), List.takeWhile_eq_self_iff.2 hmore]
  rw [readEndTag, splitAt?_endTagChars hangle, Option.map_some,
    plainEndTag?_endTagChars hc (List.not_mem_of_not_mem_cons hangle), endTagName, htext,
    List.dropWhile_cons_of_pos hreads.2.2.1, List.takeWhile_cons_of_pos hreads.2.2.1]
  by_cases hblank : (more.dropWhile isEndTagNameChar).all Text.isBlank
  · rw [if_pos hblank, if_pos hblank]
    rfl
  · rw [if_neg hblank, if_neg hblank]
    simp [hc, hname]

/-! ## Elements of a page -/

/-- An element of a page that was just read was read off a start tag, from which it takes as many
characters as the written name has in small letters. That it is named as the start tag, that its tag
is that name in small letters, that the end tag with this tag closes it and that the name has no `İ`
are all the same. If they hold, the element has an end tag in the document whenever the text has one
with this tag for it. The end tag with the written name has this tag, less the blanks at its end. -/
theorem names_of_ofMarkup {text : String} {page : Page} (h : Page.ofMarkup text = .ok page)
    {head : Head} (hmem : head ∈ page.inside) :
    ∃ spelling, head.IsReadOff text spelling ∧
      (∃ behind, spelling.toList = '<' :: ((writtenName spelling).toList ++ behind) ∧
        head.sourceTag = String.ofList ((writtenName spelling).toList ++
          behind.take ((writtenName spelling).toList.count 'İ'))) ∧
      [head.sourceTag = writtenName spelling,
        head.tag = Text.lower (writtenName spelling),
        { head with hasEndTag := false }.IsClosedBy (Text.lower (writtenName spelling)),
        'İ' ∉ (writtenName spelling).toList].TFAE ∧
      ('İ' ∉ (writtenName spelling).toList → ∀ events, readEvents text.toList = .ok events →
        { head with hasEndTag := false }.MeetsEnd (Text.lower (writtenName spelling)) events →
          head.hasEndTag = true) ∧
      ∀ later, readEndTag none (Token.endTagChars (writtenName spelling).toList ++ later) =
        some ([.endTag (Text.lower (String.ofList (endTagName (writtenName spelling).toList)))],
          none, later) := by
  obtain ⟨spelling, hoff⟩ := exists_isReadOff h hmem
  obtain ⟨behind, -, hspelling, hsource⟩ := hoff.exists_behind
  have hnames := hoff.tfae_name
  refine ⟨spelling, hoff, ⟨behind, hspelling, hsource⟩, hnames,
    fun hshort events hevents hmeets => ?_, fun later => ?_⟩
  · exact hasEndTag_of_meetsEnd h hmem ((hnames.out 2 3).2 hshort) hevents hmeets
  · obtain ⟨c, more, hname, hc, hmore⟩ := hoff.exists_letter
    rw [hname]
    exact readEndTag_endTagChars hc hmore later

/-- Capitals with an accent and a hyphen. The end tag in small letters closes the element and the
one in it. -/
theorem names_of_ofMarkup_accent :
    ∃ page head, Page.ofMarkup "<LI-É><b>x</li-é>" = .ok page ∧ head ∈ page.inside ∧
      head.sourceTag = "LI-É" ∧ head.tag = "li-é" ∧ head.hasEndTag = true ∧
      { head with hasEndTag := false }.IsClosedBy "li-é" ∧
      readEndTag none "</LI-É> y".toList = some ([.endTag "li-é"], none, " y".toList) := by
  have hrun : (Page.ofMarkup "<LI-É><b>x</li-é>").toOption.any fun page =>
      ∃ head ∈ page.inside, { head with hasEndTag := false } =
        Building.readHead 1 "<LI-É>" "li-é" [] false := by
    decide +kernel
  have hevents : (readEvents "<LI-É><b>x</li-é>".toList).toOption.any (· =
      [.startTag "<LI-É>" "li-é" [] false, .startTag "<b>" "b" [] false, .text "x",
        .endTag "li-é"]) := by
    decide +kernel
  obtain ⟨page, hread, hinside⟩ := exists_ok_of_any hrun
  obtain ⟨head, hmem, hhead⟩ := of_decide_eq_true hinside
  obtain ⟨events, hevents, heq⟩ := exists_ok_of_any hevents
  obtain rfl := of_decide_eq_true heq
  have hmeets : { head with hasEndTag := false }.MeetsEnd "li-é"
      [.startTag "<LI-É>" "li-é" [] false, .startTag "<b>" "b" [] false, .text "x",
        .endTag "li-é"] :=
    ⟨[.startTag "<LI-É>" "li-é" [] false, .startTag "<b>" "b" [] false, .text "x"], [],
      [Building.readHead 2 "<b>" "b" [] false], [], rfl, by rw [hhead]; decide +kernel,
      by decide +kernel⟩
  obtain ⟨spelling, hoff, -, hnames, hended, hend⟩ := names_of_ofMarkup hread hmem
  obtain rfl := Option.some.inj (hoff.written_eq.symm.trans (congrArg Head.written hhead :))
  have hname : writtenName "<LI-É>" = "LI-É" := by decide
  have hsmall : Text.lower "LI-É" = "li-é" := by decide +kernel
  rw [hname, hsmall] at hnames hended
  have hshort : 'İ' ∉ "LI-É".toList := by decide
  have hread' := hend " y".toList
  rw [hname] at hread'
  exact ⟨page, head, hread, hmem, (hnames.out 0 3).2 hshort, (hnames.out 1 3).2 hshort,
    hended hshort _ hevents hmeets, (hnames.out 2 3).2 hshort, hread'⟩

/-- The element takes the bracket behind its name as well, so the end tag does not close it. -/
theorem name_not_kept :
    ∃ page head, Page.ofMarkup "<aİ>x</aİ>" = .ok page ∧ head ∈ page.inside ∧
      head.IsReadOff "<aİ>x</aİ>" "<aİ>" ∧ writtenName "<aİ>" = "aİ" ∧
      readEndTag none "</aİ>".toList = some ([.endTag (Text.lower "aİ")], none, []) ∧
      head.sourceTag = "aİ>" ∧ head.tag ≠ Text.lower "aİ" ∧ head.hasEndTag = false := by
  have hrun : (Page.ofMarkup "<aİ>x</aİ>").toOption.any fun page =>
      ∃ head ∈ page.inside, head.written = some "<aİ>" ∧ head.sourceTag = "aİ>" ∧
        head.tag ≠ Text.lower "aİ" ∧ head.hasEndTag = false := by
    decide +kernel
  obtain ⟨page, hread, hinside⟩ := exists_ok_of_any hrun
  obtain ⟨head, hmem, hwritten, hsource, htag, hopen⟩ := of_decide_eq_true hinside
  obtain ⟨spelling, hoff⟩ := exists_isReadOff hread hmem
  obtain rfl := Option.some.inj (hoff.written_eq.symm.trans hwritten)
  exact ⟨page, head, hread, hmem, hoff, by decide, by decide +kernel, hsource, htag, hopen⟩

end PageCompiler.Markup
