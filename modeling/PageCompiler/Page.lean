import PageCompiler.Markup.Tree

/-!
# Pages

A page is a document that can be changed. Its operations name an element by its number. Elements
that are in no document, because they are new or were removed, are kept beside it, so that they can
still be looked at, changed and put to use.

An element has one parent, but appending it elsewhere does not take it out of the old place: it may
stand in the page several times. All its occurrences are one element, so a change reaches every one
of them. `adopted` remembers the parent of an element that was appended somewhere; any other has the
parent under which it stands.
-/

namespace PageCompiler

open Markup

/-- A document that can be changed, with the elements outside it. -/
structure Page where
  root : Element
  /-- New and removed elements. -/
  loose : List Element
  /-- The parents of elements that were appended, latest first. -/
  adopted : List (Nat × Option Nat)
  /-- The number for the next new element. -/
  nextId : Nat
  deriving Repr, DecidableEq

namespace Page

/-- The page of a document that was just read. -/
def ofDocument (root : Element) : Page :=
  ⟨root, [], [], root.children.elements.length + 1⟩

/-- The page that a text spells. -/
def ofMarkup (text : String) : Except Markup.Error Page :=
  ofDocument <$> parse text

/-- The markup of the document. -/
def html (page : Page) : String :=
  page.root.html

/-- The first `body` of the document, or the whole document when it has none. -/
def body (page : Page) : Element :=
  (page.root.elements.find? fun element => element.head.tag = "body").getD page.root

/-- The element with a number. -/
def element? (page : Page) (id : Nat) : Option Element :=
  (page.root.find? id).orElse fun _ => page.loose.findSome? (Element.find? id)

/-- The parent of an element, by number. -/
def parentOf? (page : Page) (id : Nat) : Option Nat :=
  match page.adopted.lookup id with
  | some parent => parent
  | none =>
    (page.root.parentOf? id).orElse fun _ => page.loose.findSome? (Element.parentOf? id)

/-- Change an element wherever it stands. -/
def modify (page : Page) (id : Nat) (change : Element → Element) : Page :=
  { page with
    root := page.root.modify id change
    loose := page.loose.map (Element.modify id change) }

/-- Set an attribute of an element. -/
def setAttribute (page : Page) (id : Nat) (name : String) (value : Option String) : Page :=
  page.modify id fun element => { element with head := element.head.set name value }

/-- Drop an attribute of an element. -/
def dropAttribute (page : Page) (id : Nat) (name : String) : Page :=
  page.modify id fun element => { element with head := element.head.drop name }

/-- Take an element out of its parent. Nothing happens to one without a parent. -/
def remove (page : Page) (id : Nat) : Page :=
  match page.parentOf? id, page.element? id with
  | some parent, some element =>
    let rest := page.modify parent fun owner =>
      { owner with children := owner.children.eraseNode id }
    { rest with
      loose := element :: rest.loose
      adopted := if (rest.adopted.lookup id).isSome then (id, none) :: rest.adopted
        else rest.adopted }
  | _, _ => page

/-- Put a node behind the children of an element. -/
def appendLeaf (page : Page) (id : Nat) (leaf : Leaf) : Page :=
  page.modify id fun owner =>
    { owner with children := owner.children.append (.leaf leaf .nil) }

/-- Put an element behind the children of another, which becomes its parent. -/
def appendElement (page : Page) (parent child : Nat) : Page :=
  match page.element? child with
  | none => page
  | some element =>
    let rest := page.modify parent fun owner =>
      { owner with children := owner.children.append (.element element.head element.children .nil) }
    { rest with adopted := (child, some parent) :: rest.adopted }

/-- A new element outside the document, and the page that knows it. -/
def create (page : Page) (tag : String) (attributes : List (String × Option String)) :
    Nat × Page :=
  let head : Head := ⟨page.nextId, tag, Keyed.ofPairs attributes, none, false, true⟩
  (page.nextId, { page with loose := ⟨head, .nil⟩ :: page.loose, nextId := page.nextId + 1 })

end Page

end PageCompiler
