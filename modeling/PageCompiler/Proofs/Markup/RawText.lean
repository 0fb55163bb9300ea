import PageCompiler.Proofs.Markup.Elements
import PageCompiler.Proofs.Markup.Forest
import PageCompiler.Proofs.Markup.OpenElements
import PageCompiler.Proofs.Markup.WrittenTags

/-!
# What raw text holds

A `script` or `style` element that was read holds no elements (`holdsText_of_parse`). From its start
tag on the reader knows that raw text is open and yields nothing but text until it meets the end tag
of that element (`rawAfter?_readEvents`). So while raw text is open its element is the current one,
all elements around it are others, and the only thing that can be closed is the element itself
(`Within`).
-/

namespace PageCompiler.Markup

/-! ## Events -/

/-- The raw text that is open behind an event, if the event can occur where `raw` is open. -/
def Event.rawAfter? : RawText → Event → Option RawText
  | none, .startTag _ name _ selfClosing =>
    some (if !selfClosing && rawTextTags.contains name then some name else none)
  | none, _ => some none
  | some tag, .text _ => some (some tag)
  | some tag, .endTag name => if name = tag then some none else none
  | some _, _ => none

/-- The raw text that is open behind some events, if they can occur in this order. -/
def rawAfter? (raw : RawText) (events : List Event) : Option RawText :=
  events.foldlM Event.rawAfter? raw

theorem rawAfter?_append {raw between last : RawText} {first second : List Event}
    (h : rawAfter? raw first = some between) (h' : rawAfter? between second = some last) :
    rawAfter? raw (first ++ second) = some last := by
  rw [rawAfter?, List.foldlM_append]
  exact Option.bind_eq_some_iff.2 ⟨between, h, h'⟩

theorem rawAfter?_text (raw : RawText) (data : String) :
    rawAfter? raw [.text data] = some raw := by
  cases raw <;> rfl

/-- The raw text that is open after a step, where `raw` was open before. -/
def Step.rawAfter (raw : RawText) : Step → RawText
  | .next _ opened _ => opened
  | .stop _ _ => raw

theorem rawAfter?_stepReference (final : Bool) (text : List Char) :
    rawAfter? none (stepReference final text).events =
      some ((stepReference final text).rawAfter none) := by
  unfold stepReference
  repeat' split
  all_goals rfl

theorem rawAfter?_readEndTag {raw opened : RawText} {text rest : List Char} {events : List Event}
    (h : readEndTag raw text = some (events, opened, rest)) :
    rawAfter? raw events = some opened := by
  obtain ⟨found, -, hpair⟩ := Option.map_eq_some_iff.1 h
  dsimp only at hpair
  split at hpair
  · next name after _ =>
    split at hpair
    · obtain ⟨rfl, rfl, -⟩ := by simpa using hpair
      exact rawAfter?_text raw _
    · next hends =>
      obtain ⟨rfl, rfl, -⟩ := by simpa using hpair
      cases raw with
      | none => rfl
      | some tag =>
        have hname : tag = Text.lower (String.ofList name) := by simpa using hends
        simp [rawAfter?, Event.rawAfter?, hname]
  · cases raw with
    | some tag =>
      obtain ⟨rfl, rfl, -⟩ := by simpa using hpair
      rfl
    | none =>
      simp only [Option.isSome_none, Bool.false_eq_true, if_false] at hpair
      repeat' split at hpair
      all_goals
        obtain ⟨rfl, rfl, -⟩ := by simpa using hpair
        rfl

/-- A text that begins with the end of raw text begins with `</`. -/
theorem exists_of_splitAt?_rawTextEnd {tag : String} {text after : List Char}
    (h : splitAt? (rawTextEnd tag) text = some ([], after)) :
    ∃ rest, text = '<' :: '/' :: rest := by
  cases text with
  | nil => cases h
  | cons c rest =>
    rw [splitAt?] at h
    split at h
    · next found hfound =>
      unfold rawTextEnd at hfound
      split at hfound
      · exact ⟨_, ‹_›⟩
      · cases hfound
    · obtain ⟨_, -, hpair⟩ := Option.map_eq_some_iff.1 h
      cases hpair

theorem rawAfter?_readDeclaration {text rest : List Char} {event : Event}
    (h : readDeclaration text = .ok (some (event, rest))) :
    rawAfter? none [event] = some none :=
  of_readDeclaration (P := fun event => rawAfter? none [event] = some none) h (fun _ => rfl)
    (fun _ => rfl) (fun _ => rfl) fun _ => rfl

theorem rawAfter?_readConstruct {opened : RawText} {text rest : List Char}
    {events : List Event} (h : readConstruct none text = .ok (some (events, opened, rest))) :
    rawAfter? none events = some opened := by
  unfold readConstruct at h
  split at h
  · split at h
    · split at h
      · cases h
      · cases h
      · obtain ⟨rfl, rfl, -⟩ := by simpa using h
        rfl
      · obtain ⟨rfl, hopened⟩ := Prod.mk.inj (Option.some.inj (Except.ok.inj h))
        obtain ⟨rfl, -⟩ := Prod.mk.inj hopened
        rfl
    · split at h
      · exact rawAfter?_readEndTag (Except.ok.inj h)
      · split at h
        · split at h
          · cases h
          · next reading hread =>
            obtain ⟨⟨event, tail⟩, hfound, hpair⟩ := Option.map_eq_some_iff.1 (Except.ok.inj h)
            obtain ⟨rfl, rfl, -⟩ := by simpa using hpair
            exact rawAfter?_readDeclaration (hfound ▸ hread)
        · obtain ⟨rfl, rfl, -⟩ := by simpa using h
          rfl
  · cases h

/-- Inside raw text only `</` is ever looked at. -/
theorem rawAfter?_stepConstruct {final : Bool} {raw : RawText} {text : List Char} {result : Step}
    (hraw : raw.isSome = true → ∃ rest, text = '<' :: '/' :: rest)
    (h : stepConstruct final raw text = .ok result) :
    rawAfter? raw result.events = some (result.rawAfter raw) := by
  unfold stepConstruct at h
  split at h
  · obtain rfl := Except.ok.inj h
    rfl
  · split at h
    · cases h
    · next events opened rest hread =>
      obtain rfl := Except.ok.inj h
      cases raw with
      | none => exact rawAfter?_readConstruct hread
      | some tag =>
        obtain ⟨more, rfl⟩ := hraw rfl
        exact rawAfter?_readEndTag (Except.ok.inj hread)
    · split at h
      · obtain rfl := Except.ok.inj h
        exact rawAfter?_text raw _
      · obtain rfl := Except.ok.inj h
        rfl

theorem rawAfter?_step {final : Bool} {raw : RawText} {text : List Char} {result : Step}
    (h : step final raw text = .ok result) :
    rawAfter? raw result.events = some (result.rawAfter raw) := by
  unfold step at h
  split at h
  · split at h
    · obtain rfl := Except.ok.inj h
      rfl
    · next hends => exact rawAfter?_stepConstruct (fun _ => exists_of_splitAt?_rawTextEnd hends) h
    · obtain rfl := Except.ok.inj h
      rfl
  · split at h
    · exact rawAfter?_stepConstruct (fun hraw => by cases hraw) h
    · obtain rfl := Except.ok.inj h
      exact rawAfter?_stepReference final _
    · obtain rfl := Except.ok.inj h
      rfl

theorem rawAfter?_readRound {final : Bool} {raw : RawText} {text : List Char} {round : Round}
    (h : readRound final raw text = .ok round) : rawAfter? raw round.events = some round.raw := by
  fun_induction readRound final raw text generalizing round with
  | case1 raw =>
    obtain rfl := Except.ok.inj h
    rfl
  | case2 raw c more e hstep => cases h
  | case3 raw c more events rest hstep =>
    obtain rfl := Except.ok.inj h
    exact rawAfter?_step hstep
  | case4 raw c more events opened rest hstep ih =>
    obtain ⟨later, hlater, rfl⟩ := map_eq_ok h
    exact rawAfter?_append (rawAfter?_step hstep) (ih hlater)

/-- While raw text is open, a text yields nothing but text and the end tag of the element. -/
theorem rawAfter?_readEvents {text : List Char} {events : List Event}
    (h : readEvents text = .ok events) : ∃ last, rawAfter? none events = some last := by
  obtain ⟨first, hfirst, h⟩ := bind_eq_ok h
  obtain ⟨last, hlast, h⟩ := bind_eq_ok h
  obtain rfl := Except.ok.inj h
  have hrounds := rawAfter?_append (rawAfter?_readRound hfirst) (rawAfter?_readRound hlast)
  refine ⟨last.raw, rawAfter?_append hrounds ?_⟩
  split
  · exact rawAfter?_text last.raw _
  · rfl

/-! ## Open elements -/

/-- A raw-text element holds no elements. -/
def Element.HoldsText (element : Element) : Prop :=
  element.head.tag ∈ rawTextTags → element.children.elements = []

/-- A frame whose element may hold elements; the raw-text ones among them hold none. -/
structure Frame.IsOrdinary (frame : Frame) : Prop where
  not_raw : frame.head.tag ∉ rawTextTags
  inside : ∀ element ∈ frame.nodes.reverse.elements, element.HoldsText

/-- All frames are ordinary, but while raw text is open the current one is that of its element and
holds no elements yet. -/
def Within : RawText → Frame → List Frame → Prop
  | none, frame, outer => ∀ f ∈ frame :: outer, f.IsOrdinary
  | some tag, frame, outer =>
    (frame.head.tag = tag ∧ frame.nodes.reverse.elements = []) ∧ outer ≠ [] ∧
      ∀ f ∈ outer, f.IsOrdinary

theorem isVoid_of_mem_rawTextTags {head : Head} (h : head.tag ∈ rawTextTags) :
    head.isVoid = false := by
  rw [Head.isVoid]
  generalize head.tag = tag at h
  simp only [rawTextTags, List.mem_cons, List.not_mem_nil, or_false] at h
  rcases h with rfl | rfl <;> decide

theorem not_mem_rawTextTags_of_isVoid {head : Head} (h : head.isVoid = true) :
    head.tag ∉ rawTextTags := by
  intro hraw
  rw [isVoid_of_mem_rawTextTags hraw] at h
  cases h

theorem rawTextTags_ascii : ∀ tag ∈ rawTextTags, ∀ c ∈ tag.toList, c.toNat < 128 := by
  have hall : ∀ tag ∈ rawTextTags, tag.toList.all fun c => c.toNat < 128 := by decide
  exact fun tag hmem c hc => of_decide_eq_true (List.all_eq_true.1 (hall tag hmem) c hc)

theorem elements_addLeaf (frame : Frame) (leaf : Leaf) :
    (frame.addLeaf leaf).nodes.reverse.elements = frame.nodes.reverse.elements := by
  unfold Frame.addLeaf
  split
  · next hnodes =>
    rw [hnodes]
    simp [Forest.reverse_leaf, Forest.elements_append, Forest.elements]
  · simp [Forest.reverse_leaf, Forest.elements_append, Forest.elements]

namespace Frame.IsOrdinary

variable {frame : Frame}

theorem addLeaf (h : frame.IsOrdinary) (leaf : Leaf) : (frame.addLeaf leaf).IsOrdinary := by
  refine ⟨?_, ?_⟩
  · rw [Frame.addLeaf_head]
    exact h.not_raw
  · rw [elements_addLeaf]
    exact h.inside

theorem addElement (h : frame.IsOrdinary) {element : Element}
    (he : ∀ inner ∈ element.elements, inner.HoldsText) : (frame.addElement element).IsOrdinary := by
  refine ⟨h.not_raw, fun inner hmem => ?_⟩
  rw [Frame.addElement, Forest.reverse_element, Forest.elements_append] at hmem
  rcases List.mem_append.1 hmem with hmem | hmem
  · exact h.inside inner hmem
  · refine he inner ?_
    simpa [Forest.elements, Element.elements] using hmem

end Frame.IsOrdinary

namespace Within

variable {raw opened : RawText} {frame below : Frame} {outer : List Frame}

/-- Closing the current element ends raw text, with an end tag and without. -/
theorem close (h : Within raw frame (below :: outer)) (hasEndTag : Bool) :
    Within none (below.addElement ⟨{ frame.head with hasEndTag }, frame.nodes.reverse⟩) outer := by
  have hinside : (∀ inner ∈ Element.elements ⟨{ frame.head with hasEndTag }, frame.nodes.reverse⟩,
      inner.HoldsText) ∧ ∀ f ∈ below :: outer, f.IsOrdinary := by
    cases raw with
    | none =>
      obtain ⟨hframe, houter⟩ := List.forall_mem_cons.1 h
      refine ⟨List.forall_mem_cons.2 ⟨fun hraw => ?_, hframe.inside⟩, houter⟩
      exact absurd hraw hframe.not_raw
    | some tag =>
      refine ⟨List.forall_mem_cons.2 ⟨fun _ => h.1.2, fun inner hmem => ?_⟩, h.2.2⟩
      rw [h.1.2] at hmem
      cases hmem
  obtain ⟨hbelow, houter⟩ := List.forall_mem_cons.1 hinside.2
  exact List.forall_mem_cons.2 ⟨hbelow.addElement hinside.1, houter⟩

theorem addLeaf (h : Within raw frame outer) (leaf : Leaf) :
    Within raw (frame.addLeaf leaf) outer := by
  cases raw with
  | none =>
    obtain ⟨hframe, houter⟩ := List.forall_mem_cons.1 h
    exact List.forall_mem_cons.2 ⟨hframe.addLeaf leaf, houter⟩
  | some tag => exact ⟨by rw [Frame.addLeaf_head, elements_addLeaf]; exact h.1, h.2⟩

/-- A childless element goes into an ordinary frame. -/
theorem addElement (h : Within none frame outer) (head : Head) :
    Within none (frame.addElement ⟨head, .nil⟩) outer := by
  obtain ⟨hframe, houter⟩ := List.forall_mem_cons.1 h
  refine List.forall_mem_cons.2 ⟨hframe.addElement fun inner hmem => ?_, houter⟩
  obtain rfl := List.mem_singleton.1 hmem
  exact fun _ => rfl

end Within

section

variable {building : Building}

theorem within_addLeaf {raw : RawText} (h : Within raw building.current building.outer)
    (leaf : Leaf) : Within raw (building.addLeaf leaf).current (building.addLeaf leaf).outer :=
  h.addLeaf leaf

/-- A start tag opens raw text just if it opens a raw-text element. -/
theorem within_openElement (h : Within none building.current building.outer)
    {spelling name : String} (hname : name = Text.lower (writtenName spelling))
    (attributes : List (String × Option String)) (selfClosing : Bool) :
    Within (if !selfClosing && rawTextTags.contains name then some name else none)
      (building.openElement spelling name attributes selfClosing).current
      (building.openElement spelling name attributes selfClosing).outer := by
  have hclosed := endImplied_preserves (I := Within none)
    (fun frame _ _ hi => hi.close frame.head.hasEndTag) h name
  have hread := fun hraw : name ∈ rawTextTags =>
    tag_readHead_of_ascii hname (rawTextTags_ascii name hraw) building.nextId attributes selfClosing
  obtain ⟨-, ⟨rfl, houter, hcurrent⟩ | ⟨rfl, hvoid, houter, hcurrent⟩ |
    ⟨rfl, -, hcurrent, houter⟩⟩ :=
    building.openElement_cases spelling name attributes selfClosing
  · rw [hcurrent, houter]
    exact h.addElement _
  · have hother : name ∉ rawTextTags := fun hraw =>
      not_mem_rawTextTags_of_isVoid hvoid ((hread hraw).symm ▸ hraw)
    rw [hcurrent, houter]
    simpa [hother] using hclosed.addElement _
  · rw [hcurrent, houter]
    by_cases hraw : name ∈ rawTextTags
    · simp only [Bool.not_false, Bool.true_and, List.contains_iff_mem, hraw, if_true]
      exact ⟨⟨hread hraw, rfl⟩, List.cons_ne_nil _ _, hclosed⟩
    · simp only [Bool.not_false, Bool.true_and, List.contains_iff_mem, hraw, if_false]
      refine List.forall_mem_cons.2 ⟨⟨fun htag => hraw ?_, fun _ hmem => by cases hmem⟩, hclosed⟩
      rwa [← tag_readHead hname _ attributes false (rawTextTags_ascii _ htag)]

/-- Inside raw text an end tag closes the current element. -/
theorem within_endWritten {tag : String} (h : Within (some tag) building.current building.outer) :
    Within none (building.endWritten tag).current (building.endWritten tag).outer := by
  obtain ⟨current, outer, nextId⟩ := building
  cases outer with
  | nil => exact absurd rfl h.2.1
  | cons below outer =>
    have hclose : Within none (below.addElement current.markEnd.close) outer := Within.close h true
    simpa [Building.endWritten, Building.closeNearest, closeNearest?, h.1.1] using hclose

theorem within_add {raw opened : RawText} (h : Within raw building.current building.outer)
    {event : Event} (hnamed : event.IsNamed) (hraw : event.rawAfter? raw = some opened) :
    Within opened (building.add event).current (building.add event).outer := by
  cases raw with
  | some tag =>
    cases event with
    | text data =>
      obtain rfl := Option.some.inj hraw
      exact within_addLeaf h _
    | endTag name =>
      rw [Event.rawAfter?] at hraw
      split at hraw
      · next hname =>
        obtain rfl := Option.some.inj hraw
        exact within_endWritten (hname ▸ h)
      · cases hraw
    | _ => cases hraw
  | none =>
    cases event with
    | startTag spelling name attributes selfClosing =>
      obtain rfl := Option.some.inj hraw
      exact within_openElement h hnamed.2 attributes selfClosing
    | endTag name =>
      obtain rfl := Option.some.inj hraw
      exact endWritten_preserves (I := Within none) (fun _ _ _ hasEndTag hi => hi.close hasEndTag)
        h name
    | _ =>
      obtain rfl := Option.some.inj hraw
      rw [Building.add]
      exact within_addLeaf h _

end

theorem within_foldl_add : ∀ (events : List Event) {building : Building} {raw last : RawText},
    Within raw building.current building.outer → (∀ event ∈ events, event.IsNamed) →
      rawAfter? raw events = some last →
      Within last (events.foldl Building.add building).current
        (events.foldl Building.add building).outer
  | [], _, _, _, h, _, hraw => Option.some.inj hraw ▸ h
  | event :: events, _, _, _, h, hnamed, hraw => by
    obtain ⟨opened, hopened, hrest⟩ := Option.bind_eq_some_iff.1 hraw
    exact within_foldl_add events (within_add h (hnamed event List.mem_cons_self) hopened)
      (fun other ho => hnamed other (List.mem_cons_of_mem _ ho)) hrest

/-- In a document that was read a raw-text element holds no elements. -/
theorem holdsText_of_parse {text : String} {document : Element} (h : parse text = .ok document) :
    ∀ element ∈ document.children.elements, element.HoldsText := by
  obtain ⟨events, hevents, rfl⟩ := map_eq_ok h
  obtain ⟨last, hlast⟩ := rawAfter?_readEvents hevents
  have hstart : Within none Building.start.current Building.start.outer := by
    intro f hf
    obtain rfl := List.mem_singleton.1 hf
    exact ⟨by decide, fun _ hmem => by cases hmem⟩
  have hend := within_foldl_add events hstart (isNamed_of_readEvents hevents) hlast
  obtain ⟨bottom, hu, hdocument⟩ := closeAll_eq (events.foldl Building.add Building.start).current
    (events.foldl Building.add Building.start).outer
  obtain ⟨raw, hbottom⟩ : ∃ raw, Within raw bottom [] :=
    hu.preserves (I := fun frame outer => ∃ raw, Within raw frame outer)
      (fun frame _ _ hi => ⟨none, hi.choose_spec.close frame.head.hasEndTag⟩) ⟨last, hend⟩
  rw [ofEvents, Building.finish, hdocument]
  cases raw with
  | none => exact (hbottom bottom List.mem_cons_self).inside
  | some tag => exact absurd rfl hbottom.2.1

end PageCompiler.Markup
