import PageCompiler.Proofs.Markup.DocumentOrder
import PageCompiler.Proofs.Markup.Nodes

/-!
# The tree while it is built

After any events, those of a malformed text included, the open elements stand in each other down to
the latest node, and the tree is in order (`follows_foldl_add`). `openPath` lists the open elements
as they stand in the tree that the building would finish with : closing a frame puts its element
last among the nodes of the frame below, so each open element is the last child of the one around it
(`isChain_openPath`).

What an event has to keep up is that open elements may have children and have no end tag yet, that
elements which may not have children have none, and that no two texts stand side by side. This is
`Growing`, which a leaf, a new element and a closing preserve (`growing_add`).
-/

namespace PageCompiler.Markup

/-- What is true of the head of an open element. -/
structure Head.IsGrowing (head : Head) : Prop where
  not_selfClosing : head.selfClosing = false
  not_void : head.isVoid = false
  no_endTag : head.hasEndTag = false

/-- An element that may not have children has none, and no two texts in it stand side by side. -/
structure Element.IsProper (element : Element) : Prop where
  childless : element.head.isVoid = true ∨ element.head.selfClosing = true → element.children = .nil
  apart : element.children.Apart

/-- The nodes of a frame are apart, and the elements in it are proper. -/
structure Frame.IsProper (frame : Frame) : Prop where
  apart : frame.nodes.Apart
  inside : ∀ element ∈ frame.nodes.reverse.elements, element.IsProper

/-- The document at the bottom and above it elements that grow. -/
def Growing : Frame → List Frame → Prop
  | frame, [] => frame.head = documentHead ∧ frame.IsProper
  | frame, below :: outer => (frame.head.IsGrowing ∧ frame.IsProper) ∧ Growing below outer

/-! ## Frames -/

namespace Frame.IsProper

variable {frame : Frame}

theorem addLeaf (h : frame.IsProper) (leaf : Leaf) : (frame.addLeaf leaf).IsProper := by
  obtain ⟨hapart, hinside⟩ := h
  obtain ⟨head, nodes⟩ := frame
  unfold Frame.addLeaf
  split
  · next data before earlier hnodes =>
    -- the text that goes on is next to what its beginning was next to
    obtain rfl := hnodes
    refine ⟨List.isChain_cons.2 (List.isChain_cons.1 hapart), fun e he => hinside e ?_⟩
    simpa [Forest.reverse_leaf, Forest.elements_append, Forest.elements] using he
  · next hjoin =>
    refine ⟨List.isChain_cons.2 ⟨fun node hnode hboth => ?_, hapart⟩, fun e he => hinside e ?_⟩
    · obtain ⟨data, rfl⟩ := Node.exists_of_isText_leaf hboth.1
      obtain ⟨before, earlier, rfl⟩ := Forest.exists_of_isText_head? hnode hboth.2
      exact hjoin data before earlier rfl rfl
    · simpa [Forest.reverse_leaf, Forest.elements_append, Forest.elements] using he

theorem addElement (h : frame.IsProper) {element : Element}
    (he : ∀ inner ∈ element.elements, inner.IsProper) : (frame.addElement element).IsProper := by
  refine ⟨List.isChain_cons.2 ⟨fun _ _ hboth => hboth.1, h.apart⟩, fun inner hmem => ?_⟩
  rw [Frame.addElement, Forest.reverse_element, Forest.elements_append] at hmem
  rcases List.mem_append.1 hmem with hmem | hmem
  · exact h.inside inner hmem
  · refine he inner ?_
    simpa [Forest.elements, Element.elements] using hmem

theorem close (h : frame.IsProper) (hself : frame.head.selfClosing = false)
    (hvoid : frame.head.isVoid = false) (hasEndTag : Bool) :
    ∀ inner ∈ Element.elements ⟨{ frame.head with hasEndTag }, frame.nodes.reverse⟩,
      inner.IsProper := by
  intro inner hmem
  rcases List.mem_cons.1 hmem with rfl | hmem
  · refine ⟨fun hno => ?_, Forest.apart_reverse.2 h.apart⟩
    have hneither : frame.head.isVoid = true ∨ frame.head.selfClosing = true := hno
    simp [hself, hvoid] at hneither
  · exact h.inside inner hmem

end Frame.IsProper

/-! ## Open elements -/

namespace Growing

variable {frame frame' below : Frame} {outer : List Frame}

theorem isProper : ∀ {frame : Frame} {outer : List Frame}, Growing frame outer → frame.IsProper
  | _, [], h => h.2
  | _, _ :: _, h => h.1.2

theorem of_frame (h : Growing frame outer) (hhead : frame'.head = frame.head)
    (hproper : frame'.IsProper) : Growing frame' outer := by
  cases outer with
  | nil => exact ⟨hhead.trans h.1, hproper⟩
  | cons below outer => exact ⟨⟨hhead ▸ h.1.1, hproper⟩, h.2⟩

theorem addLeaf (h : Growing frame outer) (leaf : Leaf) : Growing (frame.addLeaf leaf) outer :=
  h.of_frame (Frame.addLeaf_head frame leaf) (h.isProper.addLeaf leaf)

theorem addElement (h : Growing frame outer) {element : Element}
    (he : ∀ inner ∈ element.elements, inner.IsProper) :
    Growing (frame.addElement element) outer :=
  h.of_frame rfl (h.isProper.addElement he)

/-- Closing an element keeps the tree in order, with an end tag and without. -/
theorem close (h : Growing frame (below :: outer)) (hasEndTag : Bool) :
    Growing (below.addElement ⟨{ frame.head with hasEndTag }, frame.nodes.reverse⟩) outer :=
  h.2.addElement (h.1.2.close h.1.1.not_selfClosing h.1.1.not_void hasEndTag)

theorem openHeads : ∀ {frame : Frame} {outer : List Frame}, Growing frame outer →
    ∀ head ∈ openHeads frame outer, head.IsGrowing
  | _, [], _, _, hmem => absurd hmem List.not_mem_nil
  | _, _ :: _, h, head, hmem => by
    rcases List.mem_cons.1 hmem with rfl | hmem
    · exact h.1.1
    · exact h.2.openHeads head hmem

/-- The heads on the stack are those of the open elements and that of the document. -/
theorem map_head : ∀ {frame : Frame} {outer : List Frame}, Growing frame outer →
    (frame :: outer).map Frame.head = Markup.openHeads frame outer ++ [documentHead]
  | _, [], h => congrArg ([·]) h.1
  | _, _ :: _, h => congrArg _ h.2.map_head

end Growing

theorem growing_openElement {building : Building} (h : Growing building.current building.outer)
    (spelling name : String) (attributes : List (String × Option String)) (selfClosing : Bool) :
    Growing (building.openElement spelling name attributes selfClosing).current
      (building.openElement spelling name attributes selfClosing).outer := by
  have hnil : ∀ head : Head, ∀ inner ∈ Element.elements ⟨head, .nil⟩, inner.IsProper := by
    intro head inner hmem
    obtain rfl := List.mem_singleton.1 hmem
    exact ⟨fun _ => rfl, .nil⟩
  have hclosed := endImplied_preserves (I := Growing)
    (fun frame _ _ hi => hi.close frame.head.hasEndTag) h name
  obtain ⟨-, ⟨-, houter, hcurrent⟩ | ⟨-, -, houter, hcurrent⟩ | ⟨hself, hvoid, hcurrent, houter⟩⟩ :=
    building.openElement_cases spelling name attributes selfClosing
  · rw [hcurrent, houter]
    exact h.addElement (hnil _)
  · rw [hcurrent, houter]
    exact hclosed.addElement (hnil _)
  · rw [hcurrent, houter]
    exact ⟨⟨⟨hself, hvoid, rfl⟩, ⟨.nil, fun _ hmem => absurd hmem List.not_mem_nil⟩⟩, hclosed⟩

theorem growing_add {building : Building} (h : Growing building.current building.outer)
    (event : Event) : Growing (building.add event).current (building.add event).outer := by
  obtain ⟨leaf, -, -, hadd⟩ | ⟨name, -, hadd⟩ |
    ⟨spelling, name, attributes, selfClosing, -, hadd⟩ := building.add_cases event
  · rw [hadd]
    exact h.addLeaf leaf
  · rw [hadd]
    exact endWritten_preserves (fun _ _ _ hasEndTag hi => hi.close hasEndTag) h name
  · rw [hadd]
    exact growing_openElement h spelling name attributes selfClosing

theorem growing_foldl_add : ∀ (events : List Event) {building : Building},
    Growing building.current building.outer →
      Growing (events.foldl Building.add building).current
        (events.foldl Building.add building).outer
  | [], _, h => h
  | event :: events, _, h => growing_foldl_add events (growing_add h event)

/-- The document and everything in it is proper at any time. -/
theorem isProper_finish (events : List Event) :
    (events.foldl Building.add Building.start).finish.head = documentHead ∧
      ∀ element ∈ (events.foldl Building.add Building.start).finish.elements,
        element.IsProper := by
  have hstart : Growing Building.start.current Building.start.outer :=
    ⟨rfl, .nil, fun _ hmem => absurd hmem List.not_mem_nil⟩
  obtain ⟨bottom, hu, hdocument⟩ := closeAll_eq (events.foldl Building.add Building.start).current
    (events.foldl Building.add Building.start).outer
  obtain ⟨hhead, hproper⟩ : Growing bottom [] :=
    hu.preserves (fun frame _ _ hi => hi.close frame.head.hasEndTag)
      (growing_foldl_add events hstart)
  rw [Building.finish, hdocument]
  exact ⟨hhead, hproper.close (hhead ▸ rfl) (hhead ▸ by decide) bottom.head.hasEndTag⟩

/-! ## The way to the latest node -/

/-- The open elements and the document as they stand in the tree that is finished, innermost
first. -/
def openPath : Frame → List Frame → List Element
  | frame, [] => [frame.close]
  | frame, below :: outer => frame.close :: openPath (below.addElement frame.close) outer

/-- The latest node of a forest. -/
def Forest.last? (forest : Forest) : Option Node :=
  forest.tops.getLast?

theorem map_head_openPath : ∀ (frame : Frame) (outer : List Frame),
    (openPath frame outer).map Element.head = (frame :: outer).map Frame.head
  | _, [] => rfl
  | frame, below :: outer => by
    rw [openPath, List.map_cons, map_head_openPath (below.addElement frame.close) outer]
    rfl

theorem head?_openPath (frame : Frame) (outer : List Frame) :
    (openPath frame outer).head? = some frame.close := by
  cases outer <;> rfl

theorem getLast?_openPath : ∀ (frame : Frame) (outer : List Frame),
    (openPath frame outer).getLast? = some (Building.closeAll frame outer)
  | _, [] => rfl
  | frame, below :: outer => by
    rw [openPath, List.getLast?_cons, getLast?_openPath (below.addElement frame.close) outer]
    rfl

theorem last?_addElement (frame : Frame) (element : Element) :
    (frame.addElement element).close.children.last? = some (.element element) := by
  rw [Frame.close, Forest.last?, Forest.tops_reverse, List.getLast?_reverse]
  rfl

/-- Each open element is the latest node of the one around it. -/
theorem isChain_openPath : ∀ (frame : Frame) (outer : List Frame),
    (openPath frame outer).IsChain fun inner around => around.children.last? = some (.element inner)
  | _, [] => .singleton _
  | frame, below :: outer => by
    refine List.isChain_cons.2 ⟨fun around haround => ?_, isChain_openPath _ outer⟩
    rw [head?_openPath] at haround
    obtain rfl := Option.some.inj haround
    exact last?_addElement below frame.close

/-- The way leads through elements of the tree. -/
theorem mem_elements_of_mem_openPath : ∀ (frame : Frame) (outer : List Frame),
    ∀ element ∈ openPath frame outer, element ∈ (Building.closeAll frame outer).elements
  | frame, [], element, hmem => by
    obtain rfl := List.mem_singleton.1 hmem
    exact List.mem_cons_self
  | frame, below :: outer, element, hmem => by
    have hpath := mem_elements_of_mem_openPath (below.addElement frame.close) outer
    rcases List.mem_cons.1 hmem with rfl | hmem
    · have haround := hpath _ (List.mem_of_mem_head? (head?_openPath _ outer))
      refine List.mem_cons_of_mem _ (Element.mem_elements_of_mem_children haround ?_)
      exact List.mem_of_mem_getLast? (last?_addElement below frame.close)
    · exact hpath element hmem

/-! ## All of it -/

/-- What is true of a building and of the tree that it would finish with, after some events. -/
structure Building.Follows (building : Building) (events : List Event) : Prop where
  /-- The open elements lie on one way down from the document, as the stack has them. -/
  path_heads : (openPath building.current building.outer).map Element.head =
    building.opened ++ [documentHead]
  path_document : (openPath building.current building.outer).getLast? = some building.finish
  /-- Each of them is the last child of the one around it, which is its parent. -/
  path_chain : (openPath building.current building.outer).IsChain fun inner around =>
    around.children.last? = some (.element inner) ∧
      building.finish.parentOf? inner.head.id = some around.head.id
  opened : ∀ head ∈ building.opened, head.IsGrowing
  /-- The child lists are the nodes, each of them once. -/
  children : (building.finish.elements.flatMap fun e => e.children.tops).Perm
    building.finish.children.nodes
  distinct : (building.finish.elements.map fun e => e.head.id).Nodup
  /-- The parent of an element is the one in whose child list it is. -/
  parents : ∀ parent ∈ building.finish.elements, ∀ e ∈ building.finish.children.elements,
    building.finish.parentOf? e.head.id = some parent.head.id ↔
      .element e ∈ parent.children.tops
  proper : ∀ e ∈ building.finish.elements, e.IsProper
  /-- The elements are those of the start tags in their order, and the text is in order, too. -/
  elements : building.finish.children.elements.map
    (fun e => { e.head with hasEndTag := false }) = headsOf 1 events
  text : building.finish.children.text = String.join (events.map Event.characters)

/-- The numbers are distinct at any time; that of the document is less than all others. -/
theorem nodup_finish (events : List Event) :
    ((events.foldl Building.add Building.start).finish.elements.map fun e => e.head.id).Nodup := by
  rw [Element.map_id_elements, (isProper_finish events).1, ids_finish]
  have hnumbers : documentHead.id :: List.range' 1 (headsOf 1 events).length =
      List.range' 0 ((headsOf 1 events).length + 1) := rfl
  rw [hnumbers]
  exact List.nodup_range'

/-- After any events, the open elements stand in each other as the latest nodes of a tree that shows
the events in their order. -/
theorem follows_foldl_add (events : List Event) :
    (events.foldl Building.add Building.start).Follows events := by
  have hstart : Growing Building.start.current Building.start.outer :=
    ⟨rfl, .nil, fun _ hmem => absurd hmem List.not_mem_nil⟩
  have hgrowing := growing_foldl_add events hstart
  have hdistinct := nodup_finish events
  refine
    { path_heads := (map_head_openPath _ _).trans hgrowing.map_head
      path_document := getLast?_openPath _ _
      path_chain := ?_
      opened := hgrowing.openHeads
      children := Element.childLists_perm _
      distinct := hdistinct
      parents := fun parent hparent e he => Element.parentOf?_eq_some_iff hdistinct hparent he
      proper := (isProper_finish events).2
      elements := ?_
      text := text_finish events }
  · refine (isChain_openPath _ _).imp_of_mem_imp fun inner around _ haround hlast => ⟨hlast, ?_⟩
    exact Element.parentOf?_of_mem_children hdistinct (mem_elements_of_mem_openPath _ _ _ haround)
      (List.mem_of_mem_getLast? hlast)
  · rw [← heads_finish, ← Forest.map_head_elements, List.map_map]
    rfl

end PageCompiler.Markup
