import PageCompiler.Markup.Events
import PageCompiler.Markup.Forest
import PageCompiler.Markup.Nesting

/-!
# From events to a tree

While events come in, some elements are open: a stack of frames, the innermost in front and the
document at the bottom. A frame holds the head of its element and the nodes it has so far, the
latest first. Closing a frame makes an element of it and hands that to the frame below.

A start tag first closes what it implies (`Nesting`) and then opens a frame, unless its element can
have no children. An end tag closes up to the nearest open element with its tag and is dropped when
there is none. Text next to text joins it. At the end everything still open is closed without an end
tag.

Elements are numbered in the order of their start tags, from one; the document has number zero.
-/

namespace PageCompiler.Markup

/-- An open element with its nodes so far, latest first. -/
structure Frame where
  head : Head
  nodes : Forest
  deriving Repr, DecidableEq

/-- The open elements and the number for the next one. -/
structure Building where
  current : Frame
  /-- The open elements around the current one, innermost first, the document last. -/
  outer : List Frame
  nextId : Nat
  deriving Repr, DecidableEq

/-- The head of the document. -/
def documentHead : Head :=
  ⟨0, documentTag, [], none, false, true⟩

namespace Frame

/-- One more leaf. Text goes on with the text before it. -/
def addLeaf (frame : Frame) (leaf : Leaf) : Frame :=
  match leaf, frame.nodes with
  | .text data, .leaf (.text before) earlier =>
    { frame with nodes := .leaf (.text (before ++ data)) earlier }
  | leaf, nodes => { frame with nodes := .leaf leaf nodes }

/-- One more element. -/
def addElement (frame : Frame) (element : Element) : Frame :=
  { frame with nodes := .element element.head element.children frame.nodes }

/-- The element of a frame that is closed. -/
def close (frame : Frame) : Element :=
  ⟨frame.head, frame.nodes.reverse⟩

/-- The frame with its end tag read. -/
def markEnd (frame : Frame) : Frame :=
  { frame with head := { frame.head with hasEndTag := true } }

end Frame

/-- What a search through the open elements makes of one of them. -/
inductive Verdict
  | closes
  | stops
  | passes
  deriving Repr, DecidableEq

/-- Close the frames up to the nearest one with verdict `closes`, which `finish` completes; `none`
when the search stops or reaches the document. -/
def closeNearest? (verdict : Head → Verdict) (finish : Frame → Frame) :
    Frame → List Frame → Option (Frame × List Frame)
  | _, [] => none
  | frame, below :: outer =>
    match verdict frame.head with
    | .closes => some (below.addElement (finish frame).close, outer)
    | .stops => none
    | .passes => closeNearest? verdict finish (below.addElement frame.close) outer

namespace Building

/-- Nothing read yet. -/
def start : Building :=
  ⟨⟨documentHead, .nil⟩, [], 1⟩

/-- Close the nearest open element that the search finds, if it finds one. -/
def closeNearest (building : Building) (verdict : Head → Verdict) (finish : Frame → Frame) :
    Building :=
  match closeNearest? verdict finish building.current building.outer with
  | some (current, outer) => { building with current, outer }
  | none => building

/-- Close the element whose end a start tag implies. -/
def endImplied (building : Building) (tag : String) : Building :=
  match impliedEnd? tag with
  | none => building
  | some implied =>
    building.closeNearest
      (fun head =>
        if implied.closes.contains head.tag then .closes
        else if implied.boundary.contains head.tag then .stops
        else .passes)
      id

/-- Close the nearest open element with the tag of an end tag. -/
def endWritten (building : Building) (tag : String) : Building :=
  building.closeNearest (fun head => if head.tag = tag then .closes else .passes) Frame.markEnd

/-- One more leaf in the current element. -/
def addLeaf (building : Building) (leaf : Leaf) : Building :=
  { building with current := building.current.addLeaf leaf }

/-- The head of an element that is read. The written tag is as long as the tag in small letters. -/
def readHead (id : Nat) (spelling name : String) (attributes : List (String × Option String))
    (selfClosing : Bool) : Head :=
  { id
    sourceTag := String.ofList ((spelling.toList.drop 1).take name.length)
    attributes := Keyed.ofPairs attributes
    written := some spelling
    selfClosing
    hasEndTag := false }

/-- A start tag: implied ends first, then a new element. -/
def openElement (building : Building) (spelling name : String)
    (attributes : List (String × Option String)) (selfClosing : Bool) : Building :=
  let head := readHead building.nextId spelling name attributes selfClosing
  let nextId := building.nextId + 1
  if selfClosing then
    { building with current := building.current.addElement ⟨head, .nil⟩, nextId }
  else
    let closed := building.endImplied name
    if head.isVoid then
      { closed with current := closed.current.addElement ⟨head, .nil⟩, nextId }
    else ⟨⟨head, .nil⟩, closed.current :: closed.outer, nextId⟩

/-- Take in one event. -/
def add (building : Building) : Event → Building
  | .startTag spelling name attributes selfClosing =>
    building.openElement spelling name attributes selfClosing
  | .endTag name => building.endWritten name
  | .text data => building.addLeaf (.text data)
  | .namedReference name => building.addLeaf (.text ("&" ++ name ++ ";"))
  | .numericReference number => building.addLeaf (.text ("&#" ++ number ++ ";"))
  | .comment data => building.addLeaf (.comment data)
  | .declaration data => building.addLeaf (.markup ("<!" ++ data ++ ">"))
  | .markedSection data => building.addLeaf (.markup ("<![" ++ data ++ "]>"))
  | .instruction data => building.addLeaf (.markup ("<?" ++ data ++ ">"))

/-- Close everything that is open. -/
def closeAll : Frame → List Frame → Element
  | frame, [] => frame.close
  | frame, below :: outer => closeAll (below.addElement frame.close) outer

/-- The document, all elements closed. -/
def finish (building : Building) : Element :=
  closeAll building.current building.outer

end Building

/-- The document that events describe. -/
def ofEvents (events : List Event) : Element :=
  (events.foldl Building.add Building.start).finish

/-- The document that a text spells. -/
def parse (text : String) : Except Error Element :=
  ofEvents <$> readEvents text.toList

end PageCompiler.Markup
