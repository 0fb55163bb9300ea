import PageCompiler.Proofs.Markup.DocumentOrder
import PageCompiler.Proofs.Markup.ImpliedEnds
import PageCompiler.Proofs.Markup.OpenNames

/-!
# Fragments inside an element

Tokens that stand inside an element build there what they would build as a document of their own.
The frames of such a fragment lie on those of the page, with the element in place of the document
(`Building.inside`). Nothing that an event says reaches down to the element and what is around it :
an end tag finds its element inside, and a start tag ends no element that holds a page
(`add_inside`). A search that passes the whole fragment closes it, and goes on around it with the
nodes of the document that the fragment describes (`closeNearest?_stackOnto_passes`).
-/

namespace PageCompiler.Markup

/-- Frames on top of others, the lowest of them with another head. -/
def stackOnto (head : Head) (base : List Frame) : Frame → List Frame → Frame × List Frame
  | frame, [] => (⟨head, frame.nodes⟩, base)
  | frame, below :: outer =>
    (frame, (stackOnto head base below outer).1 :: (stackOnto head base below outer).2)

/-- What is built of a fragment, inside an open element with this head and these frames around. -/
def Building.inside (head : Head) (base : List Frame) (fragment : Building) : Building :=
  ⟨(stackOnto head base fragment.current fragment.outer).1,
    (stackOnto head base fragment.current fragment.outer).2, fragment.nextId⟩

section

variable {head : Head} {base : List Frame}

theorem stackOnto_addElement (frame : Frame) (element : Element) (outer : List Frame) :
    stackOnto head base (frame.addElement element) outer =
      ((stackOnto head base frame outer).1.addElement element,
        (stackOnto head base frame outer).2) := by
  cases outer <;> rfl

theorem stackOnto_addLeaf (frame : Frame) (leaf : Leaf) (outer : List Frame) :
    stackOnto head base (frame.addLeaf leaf) outer =
      ((stackOnto head base frame outer).1.addLeaf leaf, (stackOnto head base frame outer).2) := by
  cases outer with
  | nil =>
    simp only [stackOnto, Frame.addLeaf]
    split <;> rfl
  | cons below outer => rfl

/-! ## Searching -/

/-- A search that finds an element of the fragment finds it inside, too. -/
theorem closeNearest?_stackOnto_some {verdict : Head → Verdict} {finish : Frame → Frame} :
    ∀ {frame current : Frame} {outer rest : List Frame},
      closeNearest? verdict finish frame outer = some (current, rest) →
      closeNearest? verdict finish (stackOnto head base frame outer).1
        (stackOnto head base frame outer).2 = some (stackOnto head base current rest)
  | frame, current, below :: outer, rest, h => by
    rw [closeNearest?] at h
    rw [stackOnto, closeNearest?]
    cases hverdict : verdict frame.head with
    | closes =>
      rw [hverdict] at h
      obtain ⟨rfl, rfl⟩ := Prod.mk.inj (Option.some.inj h)
      rw [stackOnto_addElement]
    | stops =>
      rw [hverdict] at h
      cases h
    | passes =>
      rw [hverdict] at h
      have hinside := closeNearest?_stackOnto_some h
      rw [stackOnto_addElement] at hinside
      exact hinside

/-- A search that finds nothing in the fragment finds nothing around it, where there is nothing to
find. -/
theorem closeNearest?_stackOnto_none {verdict : Head → Verdict} {finish : Frame → Frame}
    (hbase : ∀ nodes, closeNearest? verdict finish ⟨head, nodes⟩ base = none) :
    ∀ {frame : Frame} {outer : List Frame}, closeNearest? verdict finish frame outer = none →
      closeNearest? verdict finish (stackOnto head base frame outer).1
        (stackOnto head base frame outer).2 = none
  | frame, [], _ => hbase frame.nodes
  | frame, below :: outer, h => by
    rw [closeNearest?] at h
    rw [stackOnto, closeNearest?]
    cases hverdict : verdict frame.head with
    | closes =>
      rw [hverdict] at h
      cases h
    | stops => rfl
    | passes =>
      rw [hverdict] at h
      have hinside := closeNearest?_stackOnto_none hbase h
      rw [stackOnto_addElement] at hinside
      exact hinside

theorem closeNearest_inside {verdict : Head → Verdict} {finish : Frame → Frame}
    {fragment : Building}
    (h : closeNearest? verdict finish fragment.current fragment.outer = none →
      ∀ nodes, closeNearest? verdict finish ⟨head, nodes⟩ base = none) :
    (fragment.inside head base).closeNearest verdict finish =
      (fragment.closeNearest verdict finish).inside head base := by
  unfold Building.closeNearest
  cases hfound : closeNearest? verdict finish fragment.current fragment.outer with
  | some found =>
    have hinside : closeNearest? verdict finish (fragment.inside head base).current
        (fragment.inside head base).outer = some (stackOnto head base found.1 found.2) :=
      closeNearest?_stackOnto_some hfound
    rw [hinside]
    rfl
  | none =>
    have hinside : closeNearest? verdict finish (fragment.inside head base).current
        (fragment.inside head base).outer = none :=
      closeNearest?_stackOnto_none (h hfound) hfound
    rw [hinside]

/-- A search that passes all of the fragment closes it and goes on around it. -/
theorem closeNearest?_stackOnto_passes {verdict : Head → Verdict} (finish : Frame → Frame) :
    ∀ {frame : Frame} {outer : List Frame},
      (∀ inner ∈ openHeads frame outer, verdict inner = .passes) →
      closeNearest? verdict finish (stackOnto head base frame outer).1
          (stackOnto head base frame outer).2 =
        closeNearest? verdict finish
          ⟨head, (Building.closeAll frame outer).children.reverse⟩ base
  | frame, [], _ => by
    rw [Building.closeAll, Frame.close, Forest.reverse_reverse]
    rfl
  | frame, below :: outer, h => by
    obtain ⟨hframe, houter⟩ := List.forall_mem_cons.1 h
    rw [← openHeads_addElement below frame.close] at houter
    have hinside := closeNearest?_stackOnto_passes finish houter
    rw [stackOnto_addElement] at hinside
    rw [stackOnto, closeNearest?, hframe]
    exact hinside

/-! ## Events -/

/-- No start tag ends this element or one around it. -/
def HoldsPage (head : Head) (base : List Frame) : Prop :=
  ∀ tag nodes, EndsNothing tag ((openHeads ⟨head, nodes⟩ base).map Head.tag)

theorem endImplied_inside (hbase : HoldsPage head base) (fragment : Building) (tag : String) :
    (fragment.inside head base).endImplied tag = (fragment.endImplied tag).inside head base := by
  unfold Building.endImplied
  split
  · rfl
  · next implied himplied =>
    exact closeNearest_inside fun _ nodes =>
      closeNearest?_of_isClear (hbase tag nodes implied himplied)

theorem openElement_inside (hbase : HoldsPage head base) (fragment : Building)
    (spelling name : String) (attributes : List (String × Option String)) (selfClosing : Bool) :
    (fragment.inside head base).openElement spelling name attributes selfClosing =
      (fragment.openElement spelling name attributes selfClosing).inside head base := by
  unfold Building.openElement
  rw [endImplied_inside hbase]
  dsimp only [Building.inside]
  split
  · rw [stackOnto_addElement]
  · split
    · rw [stackOnto_addElement]
    · rfl

/-- An end tag whose element is in the fragment stays inside. -/
theorem endWritten_inside {fragment : Building} {tag : String} {found : Head}
    (h : fragment.nearest? tag = some found) :
    (fragment.inside head base).endWritten tag = (fragment.endWritten tag).inside head base := by
  refine closeNearest_inside fun hnone => ?_
  have hfind := find?_openHeads_of_closeNearest?_eq_none (by intro head; split <;> simp) hnone
  rw [Building.find?_closes, h] at hfind
  cases hfind

theorem addLeaf_inside (fragment : Building) (leaf : Leaf) :
    (fragment.inside head base).addLeaf leaf = (fragment.addLeaf leaf).inside head base := by
  unfold Building.addLeaf Building.inside
  rw [stackOnto_addLeaf]

/-- An event does inside the element what it does to the fragment. -/
theorem add_inside (hbase : HoldsPage head base) {fragment : Building} {event : Event}
    (h : ∀ name, event = .endTag name → ∃ found, fragment.nearest? name = some found) :
    (fragment.inside head base).add event = (fragment.add event).inside head base := by
  obtain ⟨leaf, hleaf, -, -⟩ | ⟨name, rfl, -⟩ |
    ⟨spelling, name, attributes, selfClosing, rfl, -⟩ := fragment.add_cases event
  · rw [Building.add_of_leaf? hleaf, Building.add_of_leaf? hleaf, addLeaf_inside]
  · obtain ⟨found, hfound⟩ := h name rfl
    exact endWritten_inside hfound
  · exact openElement_inside hbase fragment spelling name attributes selfClosing

end

end PageCompiler.Markup
