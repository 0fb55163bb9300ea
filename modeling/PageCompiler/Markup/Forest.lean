import PageCompiler.Markup.StartTag

/-!
# Elements and forests

A forest is a sequence of nodes: leaves, which hold characters, and elements, which hold a forest of
their own. It is written with the first node in front, so that a single structural recursion goes
through the children and the siblings alike.

The head of an element is everything but its children. An element that was read keeps the start tag
as it was written and whether an end tag was; serialisation repeats that spelling until an attribute
changes. Every element carries a number, by which the operations of a page name it.
-/

namespace PageCompiler.Markup

/-- A node without children. Text keeps its references, and other markup its delimiters. -/
inductive Leaf
  | text (data : String)
  | comment (data : String)
  | markup (spelling : String)
  deriving Repr, DecidableEq

/-- An element without its children. -/
structure Head where
  id : Nat
  /-- The name of the tag as it was written. -/
  sourceTag : String
  attributes : Attributes
  /-- The start tag as it was written, as long as no attribute has changed. -/
  written : Option String
  selfClosing : Bool
  /-- An end tag is written behind the children. -/
  hasEndTag : Bool
  deriving Repr, DecidableEq

/-- A sequence of nodes. -/
inductive Forest
  | nil
  | leaf (leaf : Leaf) (next : Forest)
  | element (head : Head) (children next : Forest)
  deriving Repr, DecidableEq

/-- An element with its children. -/
structure Element where
  head : Head
  children : Forest
  deriving Repr, DecidableEq

/-- The elements that never have children. -/
def voidTags : List String :=
  ["area", "base", "br", "col", "embed", "hr", "img", "input", "link", "meta", "param", "source",
   "track", "wbr"]

/-- The tag of the element that stands for the whole document. -/
def documentTag : String := "#document"

/-! ## Heads -/

namespace Head

/-- The tag in small letters, which tells elements apart. -/
def tag (head : Head) : String :=
  Text.lower head.sourceTag

/-- The tag in capitals, which messages show. -/
def shownTag (head : Head) : String :=
  Text.upper head.tag

/-- The element may not have children. -/
def isVoid (head : Head) : Bool :=
  voidTags.contains head.tag

/-- The attribute is present, with or without a value. -/
def has (head : Head) (name : String) : Bool :=
  Keyed.has head.attributes name

/-- The value of an attribute; one without a value reads as the empty text. -/
def get? (head : Head) (name : String) : Option String :=
  (Keyed.get? head.attributes name).map fun value => value.getD ""

/-- Set an attribute. The start tag is no longer the one that was written. -/
def set (head : Head) (name : String) (value : Option String) : Head :=
  { head with attributes := Keyed.put head.attributes name value, written := none }

/-- Drop an attribute. Nothing changes when it is absent. -/
def drop (head : Head) (name : String) : Head :=
  if head.has name then
    { head with attributes := Keyed.without head.attributes name, written := none }
  else head

/-- The words of the `class` attribute. -/
def classes (head : Head) : List String :=
  Text.words ((head.get? "class").getD "")

/-- An attribute value as it stands between double quotes: `&` and `"` are written as references. -/
def escapeValue (value : String) : String :=
  String.ofList (value.toList.flatMap fun c =>
    if c = '&' then "&amp;".toList else if c = '"' then "&quot;".toList else [c])

/-- An attribute behind the name of a tag. -/
def spellAttribute (entry : String × Option String) : String :=
  match entry.2 with
  | none => " " ++ entry.1
  | some value => " " ++ entry.1 ++ "=\"" ++ escapeValue value ++ "\""

/-- The start tag: as it was written, or else from the attributes. -/
def startTag (head : Head) : String :=
  match head.written with
  | some spelling => spelling
  | none =>
    "<" ++ head.sourceTag ++ String.join (head.attributes.map spellAttribute) ++
      (if head.selfClosing then "/>" else ">")

/-- The end tag, if it is written. -/
def endTag (head : Head) : String :=
  if head.hasEndTag then "</" ++ head.sourceTag ++ ">" else ""

/-- The markup of an element around the markup of its children. -/
def html (head : Head) (inner : String) : String :=
  if head.tag = documentTag then inner
  else if head.selfClosing || head.isVoid then head.startTag
  else head.startTag ++ inner ++ head.endTag

end Head

/-- The markup of a leaf. -/
def Leaf.html : Leaf → String
  | .text data => data
  | .comment data => "<!--" ++ data ++ "-->"
  | .markup spelling => spelling

/-- The characters of a leaf that count as text. -/
def Leaf.characters : Leaf → String
  | .text data => data
  | _ => ""

/-! ## Forests -/

namespace Forest

/-- The markup of the nodes, one behind the other. -/
def html : Forest → String
  | nil => ""
  | leaf l next => l.html ++ next.html
  | element head children next => head.html children.html ++ next.html

/-- The text of the nodes, at any depth. -/
def text : Forest → String
  | nil => ""
  | leaf l next => l.characters ++ next.text
  | element _ children next => children.text ++ next.text

/-- The elements at any depth, in document order: each before its children. -/
def elements : Forest → List Element
  | nil => []
  | leaf _ next => next.elements
  | element head children next => ⟨head, children⟩ :: (children.elements ++ next.elements)

/-- Another forest behind this one. -/
def append : Forest → Forest → Forest
  | nil, other => other
  | leaf l next, other => leaf l (next.append other)
  | element head children next, other => element head children (next.append other)

/-- The nodes in reverse order, before another forest; the children keep their order. -/
def reverseOnto : Forest → Forest → Forest
  | nil, done => done
  | leaf l next, done => next.reverseOnto (leaf l done)
  | element head children next, done => next.reverseOnto (element head children done)

/-- The nodes in reverse order; the children keep theirs. -/
def reverse (forest : Forest) : Forest :=
  forest.reverseOnto nil

/-- The first element with this number. -/
def find? (id : Nat) : Forest → Option Element
  | nil => none
  | leaf _ next => next.find? id
  | element head children next =>
    if head.id = id then some ⟨head, children⟩
    else (children.find? id).orElse fun _ => next.find? id

/-- The number of the element that has the element `id` as a child, where `owner` has the nodes of
this forest. -/
def parentOf? (id owner : Nat) : Forest → Option Nat
  | nil => none
  | leaf _ next => next.parentOf? id owner
  | element head children next =>
    if head.id = id then some owner
    else (children.parentOf? id head.id).orElse fun _ => next.parentOf? id owner

/-- Change the elements with this number, wherever they are, children first. -/
def modify (id : Nat) (change : Element → Element) : Forest → Forest
  | nil => nil
  | leaf l next => leaf l (next.modify id change)
  | element head children next =>
    let changed : Element :=
      if head.id = id then change ⟨head, children.modify id change⟩
      else ⟨head, children.modify id change⟩
    element changed.head changed.children (next.modify id change)

/-- Without the first of the nodes that is the element `id`. -/
def eraseNode (id : Nat) : Forest → Forest
  | nil => nil
  | leaf l next => leaf l (next.eraseNode id)
  | element head children next =>
    if head.id = id then next else element head children (next.eraseNode id)

end Forest

namespace Element

/-- The markup of the element. -/
def html (element : Element) : String :=
  element.head.html element.children.html

/-- The element and all elements in it, in document order. -/
def elements (element : Element) : List Element :=
  element :: element.children.elements

/-- The elements inside, apart from the element itself. -/
def descendants (element : Element) : List Element :=
  element.children.elements.filter fun inner => inner.head.id ≠ element.head.id

/-- The elements inside that have a tag; the tag may be given in any case. -/
def withTag (element : Element) (tag : String) : List Element :=
  element.descendants.filter fun inner => inner.head.tag = Text.lower tag

/-- The elements inside whose class attribute holds a word. -/
def withClass (element : Element) (word : String) : List Element :=
  element.descendants.filter fun inner => inner.head.classes.contains word

/-- Change the elements with a number, in this element or inside it. -/
def modify (id : Nat) (change : Element → Element) (element : Element) : Element :=
  let inner : Element := ⟨element.head, element.children.modify id change⟩
  if element.head.id = id then change inner else inner

/-- The element with a number, here or inside. -/
def find? (id : Nat) (element : Element) : Option Element :=
  if element.head.id = id then some element else element.children.find? id

/-- The number of the element that has the element `id` as a child, here or inside. -/
def parentOf? (id : Nat) (element : Element) : Option Nat :=
  element.children.parentOf? id element.head.id

end Element

end PageCompiler.Markup
