import PageCompiler.Markup.Tree

/-!
# The open elements

A building keeps the open elements as a stack of frames. `opened` lists their heads, innermost
first, without the document. Only the end of an element ever takes frames off the stack, and it
takes them off one by one : `Unwinds` is what the frames go through until a search finds the one it
looks for (`closeNearest?_eq_some`), and what a single closing preserves holds after any number of
them (`Unwinds.preserves`). An event adds a leaf, closes elements or adds one
(`Building.add_cases`, `Building.openElement_cases`).

`Sound` says what is true of every stack that events build : the document is at the bottom, and
the elements on it can have children and have no end tag yet.
-/

namespace PageCompiler.Markup

/-- The heads of the open elements, innermost first. The document is not one of them. -/
def openHeads : Frame → List Frame → List Head
  | _, [] => []
  | frame, below :: outer => frame.head :: openHeads below outer

/-- The open elements of a building, innermost first. -/
def Building.opened (building : Building) : List Head :=
  openHeads building.current building.outer

/-- The nearest open element with a tag. -/
def Building.nearest? (building : Building) (tag : String) : Option Head :=
  building.opened.find? fun head => head.tag = tag

/-- What is true of an element as long as it is open. -/
structure Head.IsOpen (head : Head) : Prop where
  not_document : head.tag ≠ documentTag
  not_selfClosing : head.selfClosing = false
  not_void : head.isVoid = false
  no_endTag : head.hasEndTag = false

/-- The document at the bottom and open elements above it. -/
def Sound : Frame → List Frame → Prop
  | frame, [] => frame.head = documentHead
  | frame, below :: outer => frame.head.IsOpen ∧ Sound below outer

/-- The stack of the building is sound. -/
def Building.IsSound (building : Building) : Prop :=
  Sound building.current building.outer

/-- Closing frames that a search passes, up to some frame with the frames around it. -/
inductive Unwinds (verdict : Head → Verdict) : Frame → List Frame → Frame → List Frame → Prop
  | refl (frame : Frame) (outer : List Frame) : Unwinds verdict frame outer frame outer
  | close {frame below target : Frame} {outer rest : List Frame}
      (passes : verdict frame.head = .passes)
      (more : Unwinds verdict (below.addElement frame.close) outer target rest) :
      Unwinds verdict frame (below :: outer) target rest

/-! ## Heads -/

@[simp] theorem documentHead_tag : documentHead.tag = documentTag := by decide

@[simp] theorem openHeads_addElement (frame : Frame) (element : Element) :
    ∀ outer : List Frame, openHeads (frame.addElement element) outer = openHeads frame outer
  | [] => rfl
  | _ :: _ => rfl

theorem Frame.addLeaf_head (frame : Frame) (leaf : Leaf) :
    (frame.addLeaf leaf).head = frame.head := by
  unfold Frame.addLeaf
  split <;> rfl

@[simp] theorem openHeads_addLeaf (frame : Frame) (leaf : Leaf) :
    ∀ outer : List Frame, openHeads (frame.addLeaf leaf) outer = openHeads frame outer
  | [] => rfl
  | _ :: _ => by rw [openHeads, openHeads, Frame.addLeaf_head]

theorem Sound.of_head {frame frame' : Frame} {outer : List Frame} (hs : Sound frame outer)
    (h : frame'.head = frame.head) : Sound frame' outer := by
  cases outer with
  | nil => exact h.trans hs
  | cons below outer => exact ⟨h ▸ hs.1, hs.2⟩

theorem Sound.isOpen : ∀ {frame : Frame} {outer : List Frame}, Sound frame outer →
    ∀ head ∈ openHeads frame outer, head.IsOpen
  | _, [], _, head, hmem => by simp [openHeads] at hmem
  | _, below :: outer, hs, head, hmem => by
    rcases List.mem_cons.1 hmem with rfl | hmem
    · exact hs.1
    · exact Sound.isOpen hs.2 head hmem

theorem Building.start_isSound : Building.start.IsSound :=
  rfl

/-! ## Closing -/

/-- What the closing of one frame preserves, an unwinding preserves. -/
theorem Unwinds.preserves {verdict : Head → Verdict} {I : Frame → List Frame → Prop}
    (hclose : ∀ frame below outer, I frame (below :: outer) →
      I (below.addElement frame.close) outer)
    {frame target : Frame} {outer rest : List Frame}
    (h : Unwinds verdict frame outer target rest) (hi : I frame outer) : I target rest := by
  induction h with
  | refl => exact hi
  | close _ _ ih => exact ih (hclose _ _ _ hi)

theorem Unwinds.sound {verdict : Head → Verdict} {frame target : Frame}
    {outer rest : List Frame} (h : Unwinds verdict frame outer target rest)
    (hs : Sound frame outer) : Sound target rest :=
  h.preserves (fun _ _ _ hi => hi.2.of_head rfl) hs

/-- A search that finds an element closes the frames inside it and then that element. -/
theorem closeNearest?_eq_some {verdict : Head → Verdict} {finish : Frame → Frame} :
    ∀ {frame current : Frame} {outer rest : List Frame},
      closeNearest? verdict finish frame outer = some (current, rest) →
      ∃ target below, Unwinds verdict frame outer target (below :: rest) ∧
        verdict target.head = .closes ∧ current = below.addElement (finish target).close
  | _, _, [], _, h => by simp [closeNearest?] at h
  | frame, current, below :: outer, rest, h => by
    unfold closeNearest? at h
    split at h
    · next hv =>
      simp only [Option.some.injEq, Prod.mk.injEq] at h
      obtain ⟨rfl, rfl⟩ := h
      exact ⟨frame, below, .refl _ _, hv, rfl⟩
    · simp at h
    · next hv =>
      obtain ⟨target, below', hu, hc, rfl⟩ := closeNearest?_eq_some h
      exact ⟨target, below', .close hv hu, hc, rfl⟩

/-- What every closing preserves, a search through the open elements preserves. -/
theorem closeNearest_preserves {verdict : Head → Verdict} {finish : Frame → Frame}
    {I : Frame → List Frame → Prop}
    (hclose : ∀ frame below outer, I frame (below :: outer) →
      I (below.addElement frame.close) outer)
    (hfinish : ∀ frame below outer, I frame (below :: outer) →
      I (below.addElement (finish frame).close) outer)
    {building : Building} (hi : I building.current building.outer) :
    I (building.closeNearest verdict finish).current
      (building.closeNearest verdict finish).outer := by
  unfold Building.closeNearest
  split
  · next current outer h =>
    obtain ⟨target, below, hu, -, rfl⟩ := closeNearest?_eq_some h
    exact hfinish target below outer (hu.preserves hclose hi)
  · exact hi

/-- What every closing preserves, an implied end preserves. -/
theorem endImplied_preserves {I : Frame → List Frame → Prop}
    (hclose : ∀ frame below outer, I frame (below :: outer) →
      I (below.addElement frame.close) outer)
    {building : Building} (hi : I building.current building.outer) (tag : String) :
    I (building.endImplied tag).current (building.endImplied tag).outer := by
  unfold Building.endImplied
  split
  · exact hi
  · exact closeNearest_preserves hclose hclose hi

/-- What every closing preserves, with an end tag and without, an end tag preserves. -/
theorem endWritten_preserves {I : Frame → List Frame → Prop}
    (hclose : ∀ frame below outer hasEndTag, I frame (below :: outer) →
      I (below.addElement ⟨{ frame.head with hasEndTag }, frame.nodes.reverse⟩) outer)
    {building : Building} (hi : I building.current building.outer) (name : String) :
    I (building.endWritten name).current (building.endWritten name).outer :=
  closeNearest_preserves (fun frame below outer => hclose frame below outer frame.head.hasEndTag)
    (show ∀ frame below outer, I frame (below :: outer) →
        I (below.addElement frame.markEnd.close) outer from
      fun frame below outer => hclose frame below outer true) hi

theorem nextId_closeNearest (building : Building) (verdict : Head → Verdict)
    (finish : Frame → Frame) :
    (building.closeNearest verdict finish).nextId = building.nextId := by
  unfold Building.closeNearest
  split <;> rfl

/-- The element that ends an unwinding is the nearest one that the search would close. -/
theorem Unwinds.find?_openHeads {verdict : Head → Verdict} {frame target below : Frame}
    {outer rest : List Frame} (h : Unwinds verdict frame outer target (below :: rest))
    (hc : verdict target.head = .closes) :
    (openHeads frame outer).find? (fun head => verdict head = .closes) = some target.head := by
  generalize hb : below :: rest = inner at h
  induction h with
  | refl => subst hb; simp [openHeads, hc]
  | close hp _ ih => simpa [openHeads, hp] using ih hc hb

/-- A search that finds nothing and never stops meets no element that it would close. -/
theorem find?_openHeads_of_closeNearest?_eq_none {verdict : Head → Verdict}
    {finish : Frame → Frame} (hstop : ∀ head, verdict head ≠ .stops) :
    ∀ {frame : Frame} {outer : List Frame}, closeNearest? verdict finish frame outer = none →
      (openHeads frame outer).find? (fun head => verdict head = .closes) = none
  | _, [], _ => rfl
  | frame, below :: outer, h => by
    unfold closeNearest? at h
    split at h
    · simp at h
    · next hv => exact absurd hv (hstop _)
    · next hv =>
      have ih := find?_openHeads_of_closeNearest?_eq_none hstop h
      simpa [openHeads, hv] using ih

/-- The element that an end tag would close is the nearest one with its tag. -/
theorem Building.find?_closes (building : Building) (tag : String) :
    (openHeads building.current building.outer).find?
        (fun head => (if head.tag = tag then Verdict.closes else .passes) = .closes) =
      building.nearest? tag := by
  have hverdict : ∀ head : Head,
      ((if head.tag = tag then Verdict.closes else .passes) = .closes) ↔ head.tag = tag := by
    intro head
    split <;> simp_all
  simp only [hverdict]
  rfl

/-- At the end of the text the frames are closed down to the document. -/
theorem closeAll_eq : ∀ (frame : Frame) (outer : List Frame),
    ∃ bottom, Unwinds (fun _ => .passes) frame outer bottom [] ∧
      Building.closeAll frame outer = bottom.close
  | frame, [] => ⟨frame, .refl _ _, rfl⟩
  | frame, below :: outer => by
    obtain ⟨bottom, hu, he⟩ := closeAll_eq (below.addElement frame.close) outer
    exact ⟨bottom, .close rfl hu, he⟩

/-! ## Events -/

/-- The leaf that an event adds. -/
def Event.leaf? : Event → Option Leaf
  | .text data => some (.text data)
  | .namedReference name => some (.text ("&" ++ name ++ ";"))
  | .numericReference number => some (.text ("&#" ++ number ++ ";"))
  | .comment data => some (.comment data)
  | .declaration data => some (.markup ("<!" ++ data ++ ">"))
  | .markedSection data => some (.markup ("<![" ++ data ++ "]>"))
  | .instruction data => some (.markup ("<?" ++ data ++ ">"))
  | .startTag .. | .endTag _ => none

/-- The head that an event adds, which gets this number. -/
def Event.head? (id : Nat) : Event → Option Head
  | .startTag spelling name attributes selfClosing =>
    some (Building.readHead id spelling name attributes selfClosing)
  | _ => none

/-- An event adds a leaf, or it is an end tag or a start tag. -/
theorem Building.add_cases (building : Building) (event : Event) :
    (∃ leaf, event.leaf? = some leaf ∧ event.head? building.nextId = none ∧
      building.add event = building.addLeaf leaf) ∨
    (∃ name, event = .endTag name ∧ building.add event = building.endWritten name) ∨
    ∃ spelling name attributes selfClosing,
      event = .startTag spelling name attributes selfClosing ∧
        building.add event = building.openElement spelling name attributes selfClosing := by
  cases event with
  | startTag spelling name attributes selfClosing =>
    exact .inr (.inr ⟨spelling, name, attributes, selfClosing, rfl, rfl⟩)
  | endTag name => exact .inr (.inl ⟨name, rfl, rfl⟩)
  | text data => exact .inl ⟨_, rfl, rfl, rfl⟩
  | namedReference name => exact .inl ⟨_, rfl, rfl, rfl⟩
  | numericReference number => exact .inl ⟨_, rfl, rfl, rfl⟩
  | comment data => exact .inl ⟨_, rfl, rfl, rfl⟩
  | declaration data => exact .inl ⟨_, rfl, rfl, rfl⟩
  | markedSection data => exact .inl ⟨_, rfl, rfl, rfl⟩
  | instruction data => exact .inl ⟨_, rfl, rfl, rfl⟩

/-- A start tag closes what it implies and then adds an element without children, which stays open
if it may have some. A self-closing one closes nothing. -/
theorem Building.openElement_cases (building : Building) (spelling name : String)
    (attributes : List (String × Option String)) (selfClosing : Bool) :
    let head := Building.readHead building.nextId spelling name attributes selfClosing
    let opened := building.openElement spelling name attributes selfClosing
    opened.nextId = building.nextId + 1 ∧
    ((selfClosing = true ∧ opened.outer = building.outer ∧
        opened.current = building.current.addElement ⟨head, .nil⟩) ∨
      (selfClosing = false ∧ head.isVoid = true ∧
        opened.outer = (building.endImplied name).outer ∧
        opened.current = (building.endImplied name).current.addElement ⟨head, .nil⟩) ∨
      (selfClosing = false ∧ head.isVoid = false ∧ opened.current = ⟨head, .nil⟩ ∧
        opened.outer =
          (building.endImplied name).current :: (building.endImplied name).outer)) := by
  dsimp only [Building.openElement]
  split
  · next hself => exact ⟨rfl, .inl ⟨hself, rfl, rfl⟩⟩
  · next hself =>
    have hself := Bool.eq_false_iff.2 hself
    split
    · next hvoid => exact ⟨rfl, .inr (.inl ⟨hself, hvoid, rfl, rfl⟩)⟩
    · next hvoid => exact ⟨rfl, .inr (.inr ⟨hself, Bool.eq_false_iff.2 hvoid, rfl, rfl⟩)⟩

end PageCompiler.Markup
