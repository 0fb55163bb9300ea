import Mathlib.Data.Bool.AllAny
import PageCompiler.Proofs.Markup.Forest
import PageCompiler.Proofs.Markup.ImpliedEnds
import PageCompiler.Proofs.Markup.WrittenTags

/-!
# Where elements stand

In a document that was read an element never stands where its start tag would have ended one of the
elements around it (`shielded_of_parse`). A start tag ends one element only, so the proof looks at
all that are open : each of them stands where its start tag ended nothing (`Nested`), and the
elements that a start tag can end would themselves have ended the same ones
(`impliedEnd?_of_mem_closes`). So behind the nearest of them, which the start tag ends, there is no
other in reach (`isClear_of_closes`).

Groups of options are the exception in the table : their start tag ends open options, whose start
tags look no further than the group.
-/

namespace PageCompiler.Markup

/-- The tag of a group of options. -/
def optionGroup : String := "optgroup"

/-! ## The table -/

/-- The tags that have an entry in the table of implied ends. -/
def endingTags : List String :=
  endsParagraph ++ ["li", "dt", "dd", "option", optionGroup, "tr", "td", "th"] ++ rowGroups

theorem mem_endingTags {tag : String} {implied : ImpliedEnd} (h : impliedEnd? tag = some implied) :
    tag ∈ endingTags := by
  refine Decidable.byContradiction fun hnot => ?_
  simp only [endingTags, optionGroup, List.mem_append, List.mem_cons, List.not_mem_nil, or_false,
    not_or] at hnot
  obtain ⟨⟨hp, hli, hdt, hdd, hoption, hgroup, htr, htd, hth⟩, hrows⟩ := hnot
  simp [impliedEnd?, hp, hli, hdt, hdd, hoption, hgroup, htr, htd, hth, hrows] at h

/-- The tags in the table are ASCII. No entry ends the document, and what ends an element has the
entry of that element, too, unless it is a group of options. -/
theorem endingTags_table : ∀ tag ∈ endingTags,
    (tag.toList.all fun c => decide (c.toNat < 128)) = true ∧
      ∀ inner ∈ ((impliedEnd? tag).map ImpliedEnd.closes).getD [], inner ≠ documentTag ∧
        (tag ≠ optionGroup → impliedEnd? inner = impliedEnd? tag ∧ inner ≠ optionGroup) := by
  decide +kernel

section

variable {tag inner : String} {implied : ImpliedEnd}

theorem ascii_of_impliedEnd? (h : impliedEnd? tag = some implied) :
    ∀ c ∈ tag.toList, c.toNat < 128 :=
  List.all_iff_forall_prop.1 (endingTags_table tag (mem_endingTags h)).1

theorem table_of_mem_closes (h : impliedEnd? tag = some implied) (hc : inner ∈ implied.closes) :
    inner ≠ documentTag ∧
      (tag ≠ optionGroup → impliedEnd? inner = some implied ∧ inner ≠ optionGroup) := by
  have hentry := (endingTags_table tag (mem_endingTags h)).2 inner (by simpa [h] using hc)
  rwa [h] at hentry

/-- What a start tag ends, its own start tag ends the same. -/
theorem impliedEnd?_of_mem_closes (h : impliedEnd? tag = some implied) (ho : tag ≠ optionGroup)
    (hc : inner ∈ implied.closes) : impliedEnd? inner = some implied ∧ inner ≠ optionGroup :=
  (table_of_mem_closes h hc).2 ho

theorem documentTag_not_mem_closes (h : impliedEnd? tag = some implied) :
    documentTag ∉ implied.closes :=
  fun hc => (table_of_mem_closes h hc).1 rfl

end

/-! ## Places -/

/-- The elements of a forest, each with the tags of the elements around it, innermost first. -/
def Forest.placed (around : List String) : Forest → List (Head × List String)
  | nil => []
  | leaf _ next => next.placed around
  | element head children next =>
    (head, around) :: (children.placed (head.tag :: around) ++ next.placed around)

/-- The start tag of an element ends nothing where the element stands. -/
def Settled (head : Head) (around : List String) : Prop :=
  head.selfClosing = false → head.tag ≠ optionGroup → EndsNothing head.tag around

/-- Every element of the forest is settled. -/
def Forest.IsSettled (around : List String) (forest : Forest) : Prop :=
  ∀ place ∈ forest.placed around, Settled place.1 place.2

namespace Forest

variable {around : List String}

theorem placed_append (around : List String) : ∀ first second : Forest,
    (first.append second).placed around = first.placed around ++ second.placed around
  | nil, _ => rfl
  | leaf _ next, second => placed_append around next second
  | element head children next, second => by
    rw [append, placed, placed, placed_append around next second, List.cons_append,
      List.append_assoc]

theorem isSettled_nil : nil.IsSettled around :=
  fun _ hmem => absurd hmem List.not_mem_nil

theorem isSettled_reverse_leaf {l : Leaf} {nodes : Forest} :
    (leaf l nodes).reverse.IsSettled around ↔ nodes.reverse.IsSettled around := by
  simp [IsSettled, reverse_leaf, placed_append, placed]

theorem isSettled_reverse_element {head : Head} {children nodes : Forest} :
    (element head children nodes).reverse.IsSettled around ↔
      nodes.reverse.IsSettled around ∧ Settled head around ∧
        children.IsSettled (head.tag :: around) := by
  simp only [IsSettled, reverse_element, placed_append, placed, List.append_nil,
    List.forall_mem_append, List.forall_mem_cons]

end Forest

/-! ## The open elements -/

/-- The tags of open elements, innermost first, and of the document. -/
def tagsFrom (frame : Frame) (outer : List Frame) : List String :=
  (frame :: outer).map fun frame => frame.head.tag

/-- The document at the bottom and above it elements that are not self-closing; these and what all
of them hold are settled. -/
def Nested : Frame → List Frame → Prop
  | frame, [] =>
    frame.head = documentHead ∧ frame.nodes.reverse.IsSettled (tagsFrom frame [])
  | frame, below :: outer =>
    (frame.head.selfClosing = false ∧ Settled frame.head (tagsFrom below outer)) ∧
      frame.nodes.reverse.IsSettled (tagsFrom frame (below :: outer)) ∧ Nested below outer

namespace Nested

variable {frame frame' below : Frame} {outer : List Frame}

theorem nodes : ∀ {frame : Frame} {outer : List Frame}, Nested frame outer →
    frame.nodes.reverse.IsSettled (tagsFrom frame outer)
  | _, [], h => h.2
  | _, _ :: _, h => h.2.1

theorem of_nodes (h : Nested frame outer) (hhead : frame'.head = frame.head)
    (hnodes : frame'.nodes.reverse.IsSettled (tagsFrom frame outer)) : Nested frame' outer := by
  cases outer with
  | nil => exact ⟨hhead.trans h.1, by rwa [tagsFrom, List.map_cons, hhead]⟩
  | cons below outer =>
    exact ⟨hhead ▸ h.1, by rwa [tagsFrom, List.map_cons, hhead], h.2.2⟩

theorem addLeaf (h : Nested frame outer) (leaf : Leaf) : Nested (frame.addLeaf leaf) outer := by
  refine h.of_nodes (Frame.addLeaf_head frame leaf) ?_
  have hn := h.nodes
  unfold Frame.addLeaf
  split
  · next hnodes =>
    rw [hnodes] at hn
    exact Forest.isSettled_reverse_leaf.2 (Forest.isSettled_reverse_leaf.1 hn)
  · exact Forest.isSettled_reverse_leaf.2 hn

theorem addElement (h : Nested frame outer) {element : Element}
    (hplace : Settled element.head (tagsFrom frame outer))
    (hchildren : element.children.IsSettled (element.head.tag :: tagsFrom frame outer)) :
    Nested (frame.addElement element) outer :=
  h.of_nodes rfl (Forest.isSettled_reverse_element.2 ⟨h.nodes, hplace, hchildren⟩)

/-- Closing an element leaves it where it stood, with an end tag and without. -/
theorem close (h : Nested frame (below :: outer)) (hasEndTag : Bool) :
    Nested (below.addElement ⟨{ frame.head with hasEndTag }, frame.nodes.reverse⟩) outer :=
  h.2.2.addElement h.1.2 h.2.1

end Nested

/-! ## What a start tag ends -/

/-- What the search for what a start tag ends makes of an open element. -/
def ImpliedEnd.verdict (implied : ImpliedEnd) (head : Head) : Verdict :=
  if implied.closes.contains head.tag then .closes
  else if implied.boundary.contains head.tag then .stops
  else .passes

namespace ImpliedEnd

variable {implied : ImpliedEnd} {head : Head}

theorem verdict_eq_closes (h : implied.verdict head = .closes) : head.tag ∈ implied.closes := by
  unfold verdict at h
  split at h
  · next hc => simpa using hc
  · split at h <;> cases h

theorem verdict_eq_stops (h : implied.verdict head = .stops) :
    head.tag ∉ implied.closes ∧ head.tag ∈ implied.boundary := by
  unfold verdict at h
  split at h
  · cases h
  · next hc =>
    split at h
    · next hb => exact ⟨by simpa using hc, by simpa using hb⟩
    · cases h

theorem verdict_eq_passes (h : implied.verdict head = .passes) : head.tag ∉ implied.closes := by
  unfold verdict at h
  split at h
  · cases h
  · next hc => simpa using hc

end ImpliedEnd

section

variable {tag : String} {implied : ImpliedEnd}

/-- Behind the element that a start tag ends there is no other in reach. -/
theorem isClear_of_closes (htag : impliedEnd? tag = some implied) (ho : tag ≠ optionGroup)
    {frame below : Frame} {outer : List Frame} (h : Nested frame (below :: outer))
    (hv : implied.verdict frame.head = .closes) : implied.IsClear (tagsFrom below outer) := by
  obtain ⟨hinner, hgroup⟩ := impliedEnd?_of_mem_closes htag ho (ImpliedEnd.verdict_eq_closes hv)
  exact h.1.2 h.1.1 hgroup implied hinner

/-- There is none in reach at all when a start tag ends nothing. -/
theorem isClear_of_closeNearest?_eq_none (htag : impliedEnd? tag = some implied)
    {finish : Frame → Frame} : ∀ {frame : Frame} {outer : List Frame}, Nested frame outer →
      closeNearest? implied.verdict finish frame outer = none →
      implied.IsClear (tagsFrom frame outer)
  | frame, [], h, _ => by
    have hdocument : frame.head.tag ∉ implied.closes := by
      rw [h.1, documentHead_tag]
      exact documentTag_not_mem_closes htag
    exact ImpliedEnd.isClear_cons.2 ⟨hdocument, .inr ImpliedEnd.isClear_nil⟩
  | frame, below :: outer, h, hnone => by
    unfold closeNearest? at hnone
    split at hnone
    · cases hnone
    · next hv =>
      obtain ⟨hc, hb⟩ := ImpliedEnd.verdict_eq_stops hv
      exact ImpliedEnd.isClear_cons.2 ⟨hc, .inl hb⟩
    · next hv =>
      have hrest := isClear_of_closeNearest?_eq_none htag (h.close frame.head.hasEndTag) hnone
      exact ImpliedEnd.isClear_cons.2 ⟨ImpliedEnd.verdict_eq_passes hv, .inr hrest⟩

/-- After the ends that a start tag implies, it ends none of the elements that are still open. -/
theorem endsNothing_endImplied (ho : tag ≠ optionGroup) {building : Building}
    (h : Nested building.current building.outer) :
    EndsNothing tag
      (tagsFrom (building.endImplied tag).current (building.endImplied tag).outer) := by
  intro implied htag
  have hended : building.endImplied tag = building.closeNearest implied.verdict id := by
    simp only [Building.endImplied, htag]
    rfl
  rw [hended, Building.closeNearest]
  split
  · next current rest hfound =>
    obtain ⟨target, below, hu, hv, rfl⟩ := closeNearest?_eq_some hfound
    have hnested : Nested target (below :: rest) :=
      hu.preserves (fun frame _ _ hi => hi.close frame.head.hasEndTag) h
    have hclear := isClear_of_closes htag ho hnested hv
    exact hclear
  · next hnone => exact isClear_of_closeNearest?_eq_none htag h hnone

end

/-! ## Events -/

theorem nested_endImplied {building : Building} (h : Nested building.current building.outer)
    (tag : String) :
    Nested (building.endImplied tag).current (building.endImplied tag).outer :=
  endImplied_preserves (I := Nested) (fun frame _ _ hi => hi.close frame.head.hasEndTag) h tag

theorem nested_endWritten {building : Building} (h : Nested building.current building.outer)
    (name : String) :
    Nested (building.endWritten name).current (building.endWritten name).outer :=
  endWritten_preserves (I := Nested) (fun _ _ _ hasEndTag hi => hi.close hasEndTag) h name

/-- A new element is settled where it is opened, for it has the tag that its start tag names. -/
theorem settled_readHead {building : Building} (h : Nested building.current building.outer)
    {spelling name : String} (hname : name = Text.lower (writtenName spelling))
    (attributes : List (String × Option String)) (selfClosing : Bool) :
    Settled (Building.readHead building.nextId spelling name attributes selfClosing)
      (tagsFrom (building.endImplied name).current (building.endImplied name).outer) := by
  intro _ ho implied htag
  have hsame := tag_readHead hname _ attributes selfClosing (ascii_of_impliedEnd? htag)
  rw [hsame] at ho htag
  exact endsNothing_endImplied ho h implied htag

theorem nested_openElement {building : Building} (h : Nested building.current building.outer)
    {spelling name : String} (hname : name = Text.lower (writtenName spelling))
    (attributes : List (String × Option String)) (selfClosing : Bool) :
    Nested (building.openElement spelling name attributes selfClosing).current
      (building.openElement spelling name attributes selfClosing).outer := by
  have hclosed := nested_endImplied h name
  have hplace := settled_readHead h hname attributes selfClosing
  obtain ⟨-, ⟨hself, houter, hcurrent⟩ | ⟨-, -, houter, hcurrent⟩ | ⟨hself, -, hcurrent, houter⟩⟩ :=
    building.openElement_cases spelling name attributes selfClosing
  · rw [hcurrent, houter]
    refine h.addElement (fun hopen => ?_) Forest.isSettled_nil
    cases hself.symm.trans hopen
  · rw [hcurrent, houter]
    exact hclosed.addElement hplace Forest.isSettled_nil
  · rw [hcurrent, houter]
    exact ⟨⟨hself, hplace⟩, Forest.isSettled_nil, hclosed⟩

theorem nested_add {building : Building} (h : Nested building.current building.outer)
    {event : Event} (hnamed : event.IsNamed) :
    Nested (building.add event).current (building.add event).outer := by
  obtain ⟨leaf, -, -, hadd⟩ | ⟨name, -, hadd⟩ |
    ⟨spelling, name, attributes, selfClosing, rfl, hadd⟩ := building.add_cases event
  · rw [hadd]
    exact h.addLeaf leaf
  · rw [hadd]
    exact nested_endWritten h name
  · rw [hadd]
    exact nested_openElement h hnamed.2 attributes selfClosing

theorem nested_foldl_add : ∀ (events : List Event) {building : Building},
    Nested building.current building.outer → (∀ event ∈ events, event.IsNamed) →
      Nested (events.foldl Building.add building).current
        (events.foldl Building.add building).outer
  | [], _, h, _ => h
  | event :: events, _, h, hnamed =>
    nested_foldl_add events (nested_add h (hnamed event List.mem_cons_self))
      fun other ho => hnamed other (List.mem_cons_of_mem _ ho)

/-! ## Documents -/

/-- Every element of a document that was read is settled. -/
theorem isSettled_of_parse {text : String} {document : Element} (h : parse text = .ok document) :
    document.children.IsSettled [document.head.tag] := by
  obtain ⟨events, hevents, rfl⟩ := map_eq_ok h
  have hstart : Nested Building.start.current Building.start.outer :=
    ⟨rfl, Forest.isSettled_nil⟩
  have hend := nested_foldl_add events hstart (isNamed_of_readEvents hevents)
  obtain ⟨bottom, hu, hdocument⟩ := closeAll_eq (events.foldl Building.add Building.start).current
    (events.foldl Building.add Building.start).outer
  have hbottom : Nested bottom [] :=
    hu.preserves (fun frame _ _ hi => hi.close frame.head.hasEndTag) hend
  rw [ofEvents, Building.finish, hdocument]
  exact hbottom.nodes

/-- In a document that was read no element stands in one that its start tag ends, unless another
that shields it stands between. -/
theorem shielded_of_parse {text : String} {document : Element} (h : parse text = .ok document)
    {head : Head} {around : List String}
    (hplace : (head, around) ∈ document.children.placed [document.head.tag])
    (hself : head.selfClosing = false) {implied : ImpliedEnd}
    (htag : impliedEnd? head.tag = some implied) (ho : head.tag ≠ optionGroup)
    {nearer farther : List String} {ancestor : String}
    (haround : around = nearer ++ ancestor :: farther) (hc : ancestor ∈ implied.closes) :
    ∃ shield ∈ nearer, shield ∈ implied.boundary :=
  isSettled_of_parse h (head, around) hplace hself ho implied htag nearer ancestor farther haround
    hc

/-- Lists in each other, most items left open, and a paragraph that a table ends. -/
def listMarkup : String :=
  "<ul><li>a<li>b<ul><li>c<p>d<table><tr><td>e<td>f</ul><li>g"

theorem shielded_of_parse_list :
    ∃ document head, parse listMarkup = .ok document ∧
      (head, ["ul", "li", "ul", documentTag]) ∈ document.children.placed [document.head.tag] ∧
      head.tag = "li" ∧ ∃ shield ∈ ["ul"], shield ∈ ["ol", "ul", "menu"] ++ paragraphScope := by
  have hrun : ((parse listMarkup).toOption.any fun document =>
      (document.children.placed [document.head.tag]).any fun place =>
        place.1.tag = "li" && !place.1.selfClosing &&
          place.2 = ["ul", "li", "ul", documentTag]) = true := by
    decide +kernel
  cases hparse : parse listMarkup with
  | error e =>
    rw [hparse] at hrun
    cases hrun
  | ok document =>
    rw [hparse] at hrun
    obtain ⟨⟨head, around⟩, hplace, hfound⟩ := List.any_eq_true.1 hrun
    simp only [Bool.and_eq_true, decide_eq_true_eq, Bool.not_eq_true'] at hfound
    obtain ⟨⟨htag, hself⟩, rfl⟩ := hfound
    have hli : impliedEnd? head.tag = some ⟨["li"], ["ol", "ul", "menu"] ++ paragraphScope⟩ := by
      rw [htag]
      decide
    have hshield := shielded_of_parse hparse hplace hself hli (by rw [htag]; decide)
      (show _ = ["ul"] ++ "li" :: ["ul", documentTag] from rfl) (by decide)
    exact ⟨document, head, rfl, hplace, htag, hshield⟩

end PageCompiler.Markup
