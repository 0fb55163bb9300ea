import PageCompiler.Proofs.Markup.Elements
import PageCompiler.Proofs.Markup.Forest
import PageCompiler.Proofs.Markup.OpenElements

/-!
# Document order

What a document shows comes in the order in which its events show it. A `Listing` says what is read
off a leaf and off the head of an element; listing a document goes through its nodes in document
order. Every event adds what it shows at the end (`openList_add`) : what is open is on the way to
the latest node, and closing an element leaves its nodes where they stand. So listing a document is
listing its events (`list_finish`).

Two things are read off in this way : the elements as their start tags describe them, and the
characters of the text.
-/

namespace PageCompiler.Markup

/-! ## What events add -/

/-- The characters that an event adds to the text. -/
def Event.characters (event : Event) : String :=
  (event.leaf?.map Leaf.characters).getD ""

/-- The heads that events add, numbered from some number on. -/
def headsOf (nextId : Nat) : List Event → List Head
  | [] => []
  | event :: events =>
    match event.head? nextId with
    | some head => head :: headsOf (nextId + 1) events
    | none => headsOf nextId events

/-! ## Listings -/

/-- What is read off the nodes of a document. Text that goes on is read as one, and the end tag of
an element is not seen. -/
structure Listing (α : Type) where
  ofLeaf : Leaf → List α
  ofHead : Head → List α
  ofLeaf_text : ∀ before data : String,
    ofLeaf (.text (before ++ data)) = ofLeaf (.text before) ++ ofLeaf (.text data)
  ofHead_endTag : ∀ (head : Head) (hasEndTag : Bool),
    ofHead { head with hasEndTag } = ofHead head

namespace Listing

variable {α : Type} (listing : Listing α)

/-- What is read off a forest, in document order. -/
def list : Forest → List α
  | .nil => []
  | .leaf l next => listing.ofLeaf l ++ list next
  | .element head children next => listing.ofHead head ++ (list children ++ list next)

/-- What is read off the nodes that open elements have so far, and off the heads of those. -/
def openList : Frame → List Frame → List α
  | frame, [] => listing.list frame.nodes.reverse
  | frame, below :: outer =>
    openList below outer ++ (listing.ofHead frame.head ++ listing.list frame.nodes.reverse)

/-- What an event shows, where the next element gets this number. -/
def ofEvent (nextId : Nat) (event : Event) : List α :=
  (event.leaf?.map listing.ofLeaf).getD [] ++ ((event.head? nextId).map listing.ofHead).getD []

/-- What events show. -/
def ofEvents (nextId : Nat) : List Event → List α
  | [] => []
  | event :: events =>
    listing.ofEvent nextId event ++
      ofEvents (if (event.head? nextId).isSome then nextId + 1 else nextId) events

theorem list_append : ∀ first second : Forest,
    listing.list (first.append second) = listing.list first ++ listing.list second
  | .nil, _ => rfl
  | .leaf l next, second => by
    rw [Forest.append, list, list, list_append next second, List.append_assoc]
  | .element head children next, second => by
    rw [Forest.append, list, list, list_append next second, List.append_assoc, List.append_assoc]

theorem list_reverse_leaf (l : Leaf) (nodes : Forest) :
    listing.list (Forest.leaf l nodes).reverse =
      listing.list nodes.reverse ++ listing.ofLeaf l := by
  rw [Forest.reverse_leaf, list_append, list, list, List.append_nil]

theorem list_reverse_element (head : Head) (children nodes : Forest) :
    listing.list (Forest.element head children nodes).reverse =
      listing.list nodes.reverse ++ (listing.ofHead head ++ listing.list children) := by
  rw [Forest.reverse_element, list_append, list, list, List.append_nil]

/-! ## Events -/

theorem list_addLeaf (frame : Frame) (leaf : Leaf) :
    listing.list (frame.addLeaf leaf).nodes.reverse =
      listing.list frame.nodes.reverse ++ listing.ofLeaf leaf := by
  unfold Frame.addLeaf
  split
  · next hnodes =>
    rw [hnodes, list_reverse_leaf, list_reverse_leaf, listing.ofLeaf_text, List.append_assoc]
  · exact listing.list_reverse_leaf _ _

theorem openList_addLeaf (frame : Frame) (leaf : Leaf) : ∀ outer : List Frame,
    listing.openList (frame.addLeaf leaf) outer =
      listing.openList frame outer ++ listing.ofLeaf leaf
  | [] => listing.list_addLeaf frame leaf
  | below :: outer => by
    rw [openList, openList, list_addLeaf, Frame.addLeaf_head, List.append_assoc,
      List.append_assoc]

theorem openList_addElement (frame : Frame) (element : Element) : ∀ outer : List Frame,
    listing.openList (frame.addElement element) outer =
      listing.openList frame outer ++
        (listing.ofHead element.head ++ listing.list element.children)
  | [] => listing.list_reverse_element _ _ _
  | below :: outer => by
    rw [openList, openList, Frame.addElement, list_reverse_element, List.append_assoc,
      List.append_assoc]

/-- Closing an element leaves the listing as it is, with an end tag and without. -/
theorem openList_close (frame below : Frame) (outer : List Frame) (hasEndTag : Bool) :
    listing.openList (below.addElement ⟨{ frame.head with hasEndTag }, frame.nodes.reverse⟩) outer =
      listing.openList frame (below :: outer) := by
  rw [openList_addElement, listing.ofHead_endTag]
  rfl

/-- A start tag adds what its head shows. -/
theorem openList_openElement (building : Building) (spelling name : String)
    (attributes : List (String × Option String)) (selfClosing : Bool) :
    listing.openList (building.openElement spelling name attributes selfClosing).current
        (building.openElement spelling name attributes selfClosing).outer =
      listing.openList building.current building.outer ++ listing.ofHead
        (Building.readHead building.nextId spelling name attributes selfClosing) := by
  have hclosed := endImplied_preserves
    (I := fun f o => listing.openList f o = listing.openList building.current building.outer)
    (fun frame below outer hi =>
      (listing.openList_close frame below outer frame.head.hasEndTag).trans hi) rfl name
  obtain ⟨-, ⟨-, houter, hcurrent⟩ | ⟨-, -, houter, hcurrent⟩ | ⟨-, -, hcurrent, houter⟩⟩ :=
    building.openElement_cases spelling name attributes selfClosing
  · rw [hcurrent, houter, openList_addElement]
    exact congrArg _ (List.append_nil _)
  · rw [hcurrent, houter, openList_addElement, hclosed]
    exact congrArg _ (List.append_nil _)
  · rw [hcurrent, houter, ← hclosed]
    exact congrArg _ (List.append_nil _)

/-- An event adds what it shows at the end. -/
theorem openList_add (building : Building) (event : Event) :
    listing.openList (building.add event).current (building.add event).outer =
        listing.openList building.current building.outer ++
          listing.ofEvent building.nextId event ∧
      (building.add event).nextId =
        if (event.head? building.nextId).isSome then building.nextId + 1
        else building.nextId := by
  obtain ⟨leaf, hleaf, hhead, hadd⟩ | ⟨name, rfl, hadd⟩ |
    ⟨spelling, name, attributes, selfClosing, rfl, hadd⟩ := building.add_cases event
  · rw [hadd, ofEvent, hleaf, hhead]
    refine ⟨(listing.openList_addLeaf _ _ _).trans ?_, rfl⟩
    exact congrArg _ (List.append_nil _).symm
  · rw [hadd]
    have hclosed := endWritten_preserves
      (I := fun f o => listing.openList f o = listing.openList building.current building.outer)
      (fun frame below outer hasEndTag hi =>
        (listing.openList_close frame below outer hasEndTag).trans hi) rfl name
    exact ⟨hclosed.trans (List.append_nil _).symm, nextId_closeNearest _ _ _⟩
  · rw [hadd]
    exact ⟨listing.openList_openElement building spelling name attributes selfClosing,
      (building.openElement_cases spelling name attributes selfClosing).1⟩

theorem openList_foldl_add : ∀ (events : List Event) (building : Building),
    listing.openList (events.foldl Building.add building).current
        (events.foldl Building.add building).outer =
      listing.openList building.current building.outer ++
        listing.ofEvents building.nextId events
  | [], _ => (List.append_nil _).symm
  | event :: events, building => by
    obtain ⟨hlist, hnext⟩ := listing.openList_add building event
    rw [List.foldl_cons, openList_foldl_add events, hlist, hnext, ofEvents, List.append_assoc]

theorem list_closeAll : ∀ (frame : Frame) (outer : List Frame),
    listing.list (Building.closeAll frame outer).children = listing.openList frame outer
  | _, [] => rfl
  | frame, below :: outer =>
    (list_closeAll (below.addElement frame.close) outer).trans
      (listing.openList_close frame below outer frame.head.hasEndTag)

/-- What is read off a document is what its events show. -/
theorem list_finish (events : List Event) :
    listing.list (events.foldl Building.add Building.start).finish.children =
      listing.ofEvents 1 events :=
  (listing.list_closeAll _ _).trans (listing.openList_foldl_add events Building.start)

end Listing

/-! ## Elements and text -/

/-- The elements, without regard to their end tags. -/
def headListing : Listing Head where
  ofLeaf := fun _ => []
  ofHead := fun head => [{ head with hasEndTag := false }]
  ofLeaf_text := fun _ _ => rfl
  ofHead_endTag := fun _ _ => rfl

/-- The characters of the text. -/
def textListing : Listing Char where
  ofLeaf := fun leaf => leaf.characters.toList
  ofHead := fun _ => []
  ofLeaf_text := fun _ _ => String.toList_append
  ofHead_endTag := fun _ _ => rfl

theorem headListing_list : ∀ forest : Forest,
    headListing.list forest = forest.heads.map fun head => { head with hasEndTag := false }
  | .nil => rfl
  | .leaf _ next => headListing_list next
  | .element head children next => by
    rw [Listing.list, headListing_list children, headListing_list next, Forest.heads,
      List.map_cons, List.map_append]
    rfl

theorem textListing_list : ∀ forest : Forest, textListing.list forest = forest.text.toList
  | .nil => rfl
  | .leaf l next => by
    rw [Listing.list, textListing_list next, Forest.text, String.toList_append]
    rfl
  | .element head children next => by
    rw [Listing.list, textListing_list children, textListing_list next, Forest.text,
      String.toList_append]
    rfl

theorem headListing_ofEvents : ∀ (nextId : Nat) (events : List Event),
    headListing.ofEvents nextId events = headsOf nextId events
  | _, [] => rfl
  | nextId, event :: events => by
    have hleaf : (event.leaf?.map headListing.ofLeaf).getD [] = [] := by
      cases event.leaf? <;> rfl
    rw [Listing.ofEvents, Listing.ofEvent, hleaf, headListing_ofEvents, headsOf]
    cases event with
    | startTag spelling name attributes selfClosing => rfl
    | _ => rfl

theorem textListing_ofEvents : ∀ (nextId : Nat) (events : List Event),
    textListing.ofEvents nextId events = (String.join (events.map Event.characters)).toList
  | _, [] => rfl
  | nextId, event :: events => by
    have hshown : textListing.ofEvent nextId event = event.characters.toList := by
      rw [Listing.ofEvent, Event.characters]
      cases event <;> simp [Event.leaf?, Event.head?, textListing]
    rw [Listing.ofEvents, hshown, textListing_ofEvents, List.map_cons]
    rw [String.join_cons, String.toList_append]

/-- The elements of a document are those of its start tags, in their order, each with what its start
tag says and the next number. -/
theorem heads_finish (events : List Event) :
    (events.foldl Building.add Building.start).finish.children.heads.map
        (fun head => { head with hasEndTag := false }) = headsOf 1 events := by
  rw [← headListing_list, headListing.list_finish, headListing_ofEvents]

/-- The text of a document is the text of its events, one behind the other. -/
theorem text_finish (events : List Event) :
    (events.foldl Building.add Building.start).finish.children.text =
      String.join (events.map Event.characters) := by
  rw [← String.toList_inj, ← textListing_list, textListing.list_finish, textListing_ofEvents]

/-- Start tags are numbered one after the other. -/
theorem map_id_headsOf : ∀ (nextId : Nat) (events : List Event),
    (headsOf nextId events).map Head.id = List.range' nextId (headsOf nextId events).length
  | _, [] => rfl
  | nextId, event :: events => by
    cases hhead : event.head? nextId with
    | none =>
      simp only [headsOf, hhead]
      exact map_id_headsOf nextId events
    | some head =>
      have hid : head.id = nextId := by
        cases event <;> cases hhead
        rfl
      simp only [headsOf, hhead, List.map_cons, List.length_cons, List.range'_succ, hid]
      rw [map_id_headsOf (nextId + 1) events]

/-- The elements of a document are numbered from one. -/
theorem ids_finish (events : List Event) :
    (events.foldl Building.add Building.start).finish.children.ids =
      List.range' 1 (headsOf 1 events).length := by
  rw [← map_id_headsOf, ← heads_finish, List.map_map]
  rfl

end PageCompiler.Markup
