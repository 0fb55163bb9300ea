import PageCompiler.Proofs.Markup.Growth
import PageCompiler.Proofs.Markup.Nesting

/-!
# Groups of options

The start tag of a group of options is to end an open option and an open group, but it ends one
element only. What stands open around that element is seen by what stands right before the new
group : `Place` adds to an element the element right before it. Where a group is opened it ends
nothing, or the element that it has ended stands right before it, without an end tag
(`Place.IsGrouped`). This is kept up for what is open and for what is closed (`Grouped`), beside
`Nested` and `Growing`.

A group behind an open group stands where that one does. So groups stand apart from each other and
from options, unless a start tag has ended an option inside a group (`clear_of_grouped`).
-/

namespace PageCompiler.Markup

/-- What the start tag of a group of options is to end. -/
def groupEnd : ImpliedEnd :=
  ⟨["option", optionGroup], ["select"]⟩

theorem impliedEnd?_optionGroup : impliedEnd? optionGroup = some groupEnd := by
  decide

/-! ## Places -/

/-- An element with the element right before it, if one is there, and with the tags around it,
innermost first. -/
structure Place where
  head : Head
  before : Option Head
  around : List String
  deriving Repr, DecidableEq

/-- The places of a forest that stands behind `before`. -/
def Forest.places (before : Option Head) (around : List String) : Forest → List Place
  | nil => []
  | leaf _ next => next.places none around
  | element head children next =>
    ⟨head, before, around⟩ ::
      (children.places none (head.tag :: around) ++ next.places (some head) around)

/-- The element that what follows the forest stands right behind. -/
def Forest.lastHead (before : Option Head) : Forest → Option Head
  | nil => before
  | leaf _ next => next.lastHead none
  | element head _ next => next.lastHead (some head)

/-- An element that may have children and has no end tag. -/
structure Head.IsUnended (head : Head) : Prop where
  not_selfClosing : head.selfClosing = false
  no_endTag : head.hasEndTag = false

/-- The element is a group of options that may have children. -/
structure Head.IsGroup (head : Head) : Prop where
  tag : head.tag = optionGroup
  not_selfClosing : head.selfClosing = false

instance (head : Head) : Decidable head.IsUnended :=
  decidable_of_iff (head.selfClosing = false ∧ head.hasEndTag = false)
    ⟨fun h => ⟨h.1, h.2⟩, fun h => ⟨h.1, h.2⟩⟩

instance (head : Head) : Decidable head.IsGroup :=
  decidable_of_iff (head.tag = optionGroup ∧ head.selfClosing = false)
    ⟨fun h => ⟨h.1, h.2⟩, fun h => ⟨h.1, h.2⟩⟩

/-- The element stands right behind one with such a tag, and that has no end tag. -/
def Place.IsBehind (place : Place) (tags : List String) : Prop :=
  ∃ earlier ∈ place.before, earlier.tag ∈ tags ∧ earlier.IsUnended

instance (place : Place) (tags : List String) : Decidable (place.IsBehind tags) :=
  inferInstanceAs (Decidable (∃ earlier ∈ place.before, earlier.tag ∈ tags ∧ earlier.IsUnended))

/-- A group ends nothing where it stands, or it stands right behind what it has ended. -/
def Place.IsGrouped (place : Place) : Prop :=
  place.head.IsGroup → groupEnd.IsClear place.around ∨ place.IsBehind groupEnd.closes

namespace Forest

variable {before : Option Head} {around : List String}

theorem places_append (around : List String) : ∀ (before : Option Head) (first second : Forest),
    (first.append second).places before around =
      first.places before around ++ second.places (first.lastHead before) around
  | _, nil, _ => rfl
  | _, leaf _ next, second => places_append around none next second
  | _, element head children next, second => by
    rw [append, places, places, lastHead, places_append around (some head) next second,
      List.cons_append, List.append_assoc]

theorem lastHead_append : ∀ (before : Option Head) (first second : Forest),
    (first.append second).lastHead before = second.lastHead (first.lastHead before)
  | _, nil, _ => rfl
  | _, leaf _ next, second => lastHead_append none next second
  | _, element head _ next, second => lastHead_append (some head) next second

theorem places_reverse_leaf (l : Leaf) (nodes : Forest) :
    (leaf l nodes).reverse.places before around = nodes.reverse.places before around := by
  rw [reverse_leaf, places_append]
  exact List.append_nil _

theorem places_reverse_element (head : Head) (children nodes : Forest) :
    (element head children nodes).reverse.places before around =
      nodes.reverse.places before around ++
        ⟨head, nodes.reverse.lastHead before, around⟩ ::
          children.places none (head.tag :: around) := by
  rw [reverse_element, places_append, places, places, List.append_nil]

/-- Without what stands before them the places are those of `placed`. -/
theorem map_places : ∀ (before : Option Head) (around : List String) (forest : Forest),
    (forest.places before around).map (fun place => (place.head, place.around)) =
      forest.placed around
  | _, _, nil => rfl
  | _, around, leaf _ next => map_places none around next
  | _, around, element head children next => by
    rw [places, placed, List.map_cons, List.map_append,
      map_places none (head.tag :: around) children, map_places (some head) around next]

end Forest

/-! ## The open elements -/

/-- Every group on the stack, and in what the frames hold, is grouped. -/
def Grouped : Frame → List Frame → Prop
  | frame, [] => ∀ place ∈ frame.nodes.reverse.places none (tagsFrom frame []), place.IsGrouped
  | frame, below :: outer =>
    (∀ place ∈ frame.nodes.reverse.places none (tagsFrom frame (below :: outer)),
      place.IsGrouped) ∧
    Place.IsGrouped ⟨frame.head, below.nodes.reverse.lastHead none, tagsFrom below outer⟩ ∧
    Grouped below outer

namespace Grouped

variable {frame frame' below : Frame} {outer : List Frame}

theorem nodes : ∀ {frame : Frame} {outer : List Frame}, Grouped frame outer →
    ∀ place ∈ frame.nodes.reverse.places none (tagsFrom frame outer), place.IsGrouped
  | _, [], h => h
  | _, _ :: _, h => h.1

theorem of_nodes (h : Grouped frame outer) (hhead : frame'.head = frame.head)
    (hnodes : ∀ place ∈ frame'.nodes.reverse.places none (tagsFrom frame outer),
      place.IsGrouped) : Grouped frame' outer := by
  cases outer with
  | nil => rwa [Grouped, tagsFrom, List.map_cons, hhead]
  | cons below outer => exact ⟨by rwa [tagsFrom, List.map_cons, hhead], hhead ▸ h.2⟩

theorem addLeaf (h : Grouped frame outer) (leaf : Leaf) : Grouped (frame.addLeaf leaf) outer := by
  refine h.of_nodes (Frame.addLeaf_head frame leaf) ?_
  have hn := h.nodes
  unfold Frame.addLeaf
  split
  · next hnodes =>
    rw [hnodes, Forest.places_reverse_leaf] at hn
    rwa [Forest.places_reverse_leaf]
  · rwa [Forest.places_reverse_leaf]

theorem addElement (h : Grouped frame outer) {element : Element}
    (hplace :
      Place.IsGrouped ⟨element.head, frame.nodes.reverse.lastHead none, tagsFrom frame outer⟩)
    (hchildren : ∀ place ∈
      element.children.places none (element.head.tag :: tagsFrom frame outer), place.IsGrouped) :
    Grouped (frame.addElement element) outer := by
  refine h.of_nodes rfl ?_
  rw [Frame.addElement, Forest.places_reverse_element, List.forall_mem_append,
    List.forall_mem_cons]
  exact ⟨h.nodes, hplace, hchildren⟩

/-- Closing an element leaves it where it stood, with an end tag and without. -/
theorem close (h : Grouped frame (below :: outer)) (hasEndTag : Bool) :
    Grouped (below.addElement ⟨{ frame.head with hasEndTag }, frame.nodes.reverse⟩) outer :=
  h.2.2.addElement (fun hgroup => h.2.1 ⟨hgroup.tag, hgroup.not_selfClosing⟩) h.1

end Grouped

/-! ## Events -/

/-- What is kept up while a tree is built. -/
structure Building.IsGrouped (building : Building) : Prop where
  grouped : Grouped building.current building.outer
  nested : Nested building.current building.outer
  growing : Growing building.current building.outer

/-- A group is grouped where it is opened : the search for what it ends has found nothing, or what
it has found stands there without an end tag. -/
theorem isGrouped_readHead {building : Building} (h : building.IsGrouped) {spelling name : String}
    (hname : name = Text.lower (writtenName spelling))
    (attributes : List (String × Option String)) (selfClosing : Bool) :
    Place.IsGrouped
      ⟨Building.readHead building.nextId spelling name attributes selfClosing,
        (building.endImplied name).current.nodes.reverse.lastHead none,
        tagsFrom (building.endImplied name).current (building.endImplied name).outer⟩ := by
  intro hgroup
  have htable : impliedEnd? (Building.readHead building.nextId spelling name attributes
      selfClosing).tag = some groupEnd := hgroup.tag ▸ impliedEnd?_optionGroup
  have hsame := tag_readHead hname _ attributes selfClosing (ascii_of_impliedEnd? htable)
  rw [hsame] at htable
  have hended : building.endImplied name = building.closeNearest groupEnd.verdict id := by
    simp only [Building.endImplied, htable]
    rfl
  rw [hended, Building.closeNearest]
  split
  · next current rest hfound =>
    obtain ⟨target, below, hu, hv, rfl⟩ := closeNearest?_eq_some hfound
    have hgrowing : Growing target (below :: rest) :=
      hu.preserves (fun frame _ _ hi => hi.close frame.head.hasEndTag) h.growing
    have hopen : target.head.IsGrowing := hgrowing.openHeads _ List.mem_cons_self
    refine .inr ⟨target.head, ?_, ImpliedEnd.verdict_eq_closes hv, hopen.not_selfClosing,
      hopen.no_endTag⟩
    dsimp only [Frame.addElement, Frame.close, id]
    rw [Forest.reverse_element, Forest.lastHead_append]
    rfl
  · next hnone => exact .inl (isClear_of_closeNearest?_eq_none htable h.nested hnone)

theorem grouped_openElement {building : Building} (h : building.IsGrouped)
    {spelling name : String} (hname : name = Text.lower (writtenName spelling))
    (attributes : List (String × Option String)) (selfClosing : Bool) :
    Grouped (building.openElement spelling name attributes selfClosing).current
      (building.openElement spelling name attributes selfClosing).outer := by
  have hclosed : Grouped (building.endImplied name).current (building.endImplied name).outer :=
    endImplied_preserves (fun frame _ _ hi => hi.close frame.head.hasEndTag) h.grouped name
  have hplace := isGrouped_readHead h hname attributes selfClosing
  have hnone : ∀ around, ∀ place ∈ Forest.nil.places none around, place.IsGrouped :=
    fun _ _ hmem => absurd hmem List.not_mem_nil
  obtain ⟨-, ⟨hself, houter, hcurrent⟩ | ⟨-, -, houter, hcurrent⟩ | ⟨-, -, hcurrent, houter⟩⟩ :=
    building.openElement_cases spelling name attributes selfClosing
  · rw [hcurrent, houter]
    refine h.grouped.addElement (fun hgroup => ?_) (hnone _)
    cases hself.symm.trans hgroup.not_selfClosing
  · rw [hcurrent, houter]
    exact hclosed.addElement hplace (hnone _)
  · rw [hcurrent, houter]
    exact ⟨hnone _, hplace, hclosed⟩

theorem Building.IsGrouped.add {building : Building} (h : building.IsGrouped) {event : Event}
    (hnamed : event.IsNamed) : (building.add event).IsGrouped := by
  refine ⟨?_, nested_add h.nested hnamed, growing_add h.growing event⟩
  obtain ⟨leaf, -, -, hadd⟩ | ⟨name, -, hadd⟩ |
    ⟨spelling, name, attributes, selfClosing, rfl, hadd⟩ := building.add_cases event
  · rw [hadd]
    exact h.grouped.addLeaf leaf
  · rw [hadd]
    exact endWritten_preserves (fun _ _ _ hasEndTag hi => hi.close hasEndTag) h.grouped name
  · rw [hadd]
    exact grouped_openElement h hnamed.2 attributes selfClosing

theorem Building.IsGrouped.foldl_add : ∀ (events : List Event) {building : Building},
    building.IsGrouped → (∀ event ∈ events, event.IsNamed) →
      (events.foldl Building.add building).IsGrouped
  | [], _, h, _ => h
  | event :: events, _, h, hnamed =>
    foldl_add events (h.add (hnamed event List.mem_cons_self))
      fun other ho => hnamed other (List.mem_cons_of_mem _ ho)

theorem Building.start_isGrouped : Building.start.IsGrouped where
  grouped := fun _ hmem => absurd hmem List.not_mem_nil
  nested := ⟨rfl, Forest.isSettled_nil⟩
  growing := ⟨rfl, .nil, fun _ hmem => absurd hmem List.not_mem_nil⟩

/-! ## Documents -/

/-- Every group of a document that was read is grouped. -/
theorem isGrouped_of_parse {text : String} {document : Element} (h : parse text = .ok document) :
    ∀ place ∈ document.children.places none [document.head.tag], place.IsGrouped := by
  obtain ⟨events, hevents, rfl⟩ := map_eq_ok h
  have hend := Building.start_isGrouped.foldl_add events (isNamed_of_readEvents hevents)
  obtain ⟨bottom, hu, hdocument⟩ := closeAll_eq (events.foldl Building.add Building.start).current
    (events.foldl Building.add Building.start).outer
  have hbottom : Grouped bottom [] :=
    hu.preserves (fun frame _ _ hi => hi.close frame.head.hasEndTag) hend.grouped
  rw [ofEvents, Building.finish, hdocument]
  exact hbottom.nodes

/-- Groups that follow each other without end tags stand in the same elements. So where the first of
them ends nothing, none of them does. -/
theorem clear_of_grouped : ∀ (forest : Forest) {before : Option Head} {around : List String},
    (∀ earlier ∈ before, earlier.IsGroup → groupEnd.IsClear around) →
    (∀ place ∈ forest.places before around, place.IsGrouped) →
    (∀ place ∈ forest.places before around, place.head.IsGroup → place.IsBehind ["option"] →
      groupEnd.IsClear place.around) →
    ∀ place ∈ forest.places before around, place.head.IsGroup → groupEnd.IsClear place.around
  | .nil, _, _, _, _, _ => fun _ hmem => absurd hmem List.not_mem_nil
  | .leaf _ next, _, _, _, hgrouped, hoption =>
    clear_of_grouped next (by simp) hgrouped hoption
  | .element head children next, before, around, hbefore, hgrouped, hoption => by
    obtain ⟨hg, hgchildren, hgnext⟩ := by
      simpa only [Forest.places, List.forall_mem_cons, List.forall_mem_append] using hgrouped
    obtain ⟨ho, hochildren, honext⟩ := by
      simpa only [Forest.places, List.forall_mem_cons, List.forall_mem_append] using hoption
    have hhead : head.IsGroup → groupEnd.IsClear around := by
      intro hgroup
      obtain hclear | ⟨earlier, hmem, htag, hunended⟩ := hg hgroup
      · exact hclear
      · rcases List.mem_cons.1 htag with htag | htag
        · exact ho hgroup ⟨earlier, hmem, by simp [htag], hunended⟩
        · exact hbefore earlier hmem ⟨List.mem_singleton.1 htag, hunended.not_selfClosing⟩
    have hchildren := clear_of_grouped children (by simp) hgchildren hochildren
    have hnext := clear_of_grouped next (by simpa using hhead) hgnext honext
    simp only [Forest.places, List.forall_mem_cons, List.forall_mem_append]
    exact ⟨hhead, hchildren, hnext⟩

/-- In a document that was read, a group of options that is opened inside another or inside an
option, with no `select` between, stands right behind an option or a group without an end tag. No
group stands so when none that stands right behind such an option does. -/
theorem group_isClear_of_parse {text : String} {document : Element}
    (h : parse text = .ok document) :
    (∀ place ∈ document.children.places none [document.head.tag], place.head.IsGroup →
      groupEnd.IsClear place.around ∨ place.IsBehind groupEnd.closes) ∧
    ((∀ place ∈ document.children.places none [document.head.tag], place.head.IsGroup →
        place.IsBehind ["option"] → groupEnd.IsClear place.around) →
      ∀ place ∈ document.children.placed [document.head.tag], place.1.IsGroup →
        groupEnd.IsClear place.2) := by
  have hgrouped := isGrouped_of_parse h
  refine ⟨hgrouped, fun hoption => ?_⟩
  rw [← Forest.map_places none]
  intro shown hmem hgroup
  obtain ⟨place, hplace, rfl⟩ := List.mem_map.1 hmem
  exact clear_of_grouped document.children (by simp) hgrouped hoption place hplace hgroup

/-- Two groups, the first without an end tag. -/
def groupsMarkup : String :=
  "<select><optgroup label=a><option>x</option><optgroup label=b><option>y</select>"

theorem group_isClear_of_parse_groups :
    ∃ document, parse groupsMarkup = .ok document ∧
      ((document.children.placed [document.head.tag]).filter fun place =>
        place.1.IsGroup).map Prod.snd = [["select", documentTag], ["select", documentTag]] ∧
      ∀ place ∈ document.children.placed [document.head.tag], place.1.IsGroup →
        groupEnd.IsClear place.2 := by
  have hrun : ((parse groupsMarkup).toOption.any fun document =>
      ((document.children.placed [document.head.tag]).filter fun place =>
        place.1.IsGroup).map Prod.snd = [["select", documentTag], ["select", documentTag]] ∧
      ∀ place ∈ document.children.places none [document.head.tag],
        place.head.IsGroup → ¬place.IsBehind ["option"]) = true := by
    decide +kernel
  obtain ⟨document, hparse, hfound⟩ := exists_ok_of_any hrun
  obtain ⟨htwo, hoption⟩ := of_decide_eq_true hfound
  refine ⟨document, hparse, htwo, (group_isClear_of_parse hparse).2 ?_⟩
  exact fun place hplace hgroup hbehind => absurd hbehind (hoption place hplace hgroup)

/-- The first group stays open when the start tag of the second ends the option in it. -/
theorem group_not_clear :
    ∃ document, parse "<select><optgroup><option>x<optgroup><option>y</select>" = .ok document ∧
      ∃ place ∈ document.children.placed [document.head.tag], place.1.IsGroup ∧
        place.2 = [optionGroup, "select", documentTag] ∧ ¬groupEnd.IsClear place.2 := by
  have hrun : ((parse "<select><optgroup><option>x<optgroup><option>y</select>").toOption.any
      fun document => ∃ place ∈ document.children.placed [document.head.tag],
        place.1.IsGroup ∧ place.2 = [optionGroup, "select", documentTag] ∧
          ¬groupEnd.IsClear place.2) = true := by
    decide +kernel
  obtain ⟨document, hparse, hfound⟩ := exists_ok_of_any hrun
  exact ⟨document, hparse, of_decide_eq_true hfound⟩

end PageCompiler.Markup
