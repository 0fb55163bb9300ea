import PageCompiler.Build.Facts
import PageCompiler.Page

/-!
# Scripts that declare components

A `script` element declares components by listing their names in an attribute. Its other `data-`
attributes configure every component it declares. Afterwards a script that neither loads nor holds
anything leaves the page; any other only loses the declaring attribute.
-/

namespace PageCompiler.Build

open Markup

/-- How the name of a configuring attribute begins. -/
def dataStart : String := "data-"

/-- The attribute that lists the declared components. -/
def useAttribute : String := "data-slp-use"

/-- The attribute configures the components of its element. -/
def configures (name : String) : Bool :=
  dataStart.toList.isPrefixOf name.toList && name != useAttribute

/-- The configuring attributes of an element; one without a value counts as empty. -/
def configuration (head : Head) : Keyed String :=
  (head.attributes.filter fun entry => configures entry.1).map fun entry =>
    (entry.1, entry.2.getD "")

/-- The components that an element declares. -/
def declaredNames (head : Head) : List String :=
  Text.words ((head.get? useAttribute).getD "")

/-- Declare one component of an element. -/
def Facts.declareAt (head : Head) (facts : Facts) (name : String) : Facts :=
  let said :=
    if facts.components.has name then
      facts.say .debug ("Component " ++ name ++ " redeclared, replacing its attributes")
    else facts
  said.declare name (configuration head) head.startTag

/-- The script does nothing once its declarations are read. -/
def isSpent (script : Element) : Bool :=
  (script.head.get? "src").getD "" == "" && Text.isBlankText script.children.text

/-- Read the declarations of one script and clean it up. -/
def readScript (state : Page × Facts) (id : Nat) : Page × Facts :=
  match state.1.element? id with
  | none => state
  | some script =>
    (if isSpent script then state.1.remove id else state.1.dropAttribute id useAttribute,
      (declaredNames script.head).foldl (Facts.declareAt script.head) state.2)

/-- Read the declarations of the page, in document order. -/
def readDeclarations (page : Page) (facts : Facts) : Page × Facts :=
  ((page.root.withTag "script").map fun element => element.head.id).foldl readScript (page, facts)

end PageCompiler.Build
