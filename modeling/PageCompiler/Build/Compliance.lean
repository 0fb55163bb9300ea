import PageCompiler.Build.Facts
import PageCompiler.Component.Registry
import PageCompiler.Page

/-!
# Compliance with component rules

Every declared component must have a known type. A visual one is checked on each element it attaches
to, a service once against the attributes of its declaration. The first violation, in the order of
declarations, rules, elements and attributes, is the one reported.

A component attaches to the elements whose class holds its class tag, and then to those whose class
holds its full name.
-/

namespace PageCompiler.Build

open Markup Component

/-- What can be wrong with a declared component. -/
inductive Violation
  | unknownType (name : String)
  | elementLacks (component attributeName tag : String)
  | declarationLacks (component attributeName site : String)
  | wrongTag (component tag : String) (allowed : List String)
  deriving Repr, DecidableEq

/-- The violation in words. -/
def Violation.message : Violation → String
  | .unknownType name => name ++ " component type not found on build classpath"
  | .elementLacks component attributeName tag =>
    attributeName ++ " attribute is required on <" ++ tag ++ "> element for component " ++ component
  | .declarationLacks component attributeName site =>
    attributeName ++ " attribute is required on the declaration of component " ++ component ++
      ": " ++ site
  | .wrongTag component tag allowed =>
    "<" ++ tag ++ "> tag is not allowed for component " ++ component ++ " (allowed: " ++
      ", ".intercalate allowed ++ ")"

/-- No value, or one of blanks only. -/
def isMissing (value : Option String) : Bool :=
  Text.isBlankText (value.getD "")

/-- The elements of a page that a component attaches to, given its class tag. -/
def attachedTo (page : Page) (name tag : String) : List Element :=
  let tagged := page.root.withClass tag
  if name = tag then tagged
  else
    tagged ++ (page.root.withClass name).filter fun element =>
      !(tagged.any fun other => other.head.id == element.head.id)

/-- The elements that a component attaches to; this settles its class tag. -/
def matching (page : Page) (facts : Facts) (name : String) : List Element × Facts :=
  let settled := facts.classTag name
  (attachedTo page name settled.1, settled.2)

/-- The first violation of a rule on the elements of a visual component. -/
def elementViolation? (component : String) (elements : List Element) : Rule → Option Violation
  | .requiresAttributes names =>
    elements.findSome? fun element =>
      names.findSome? fun name =>
        if isMissing (element.head.get? name) then
          some (.elementLacks component name element.head.shownTag)
        else none
  | .allowedTags names =>
    elements.findSome? fun element =>
      if (names.map Text.upper).contains element.head.shownTag then none
      else some (.wrongTag component element.head.shownTag names)

/-- The first violation of a rule by the declaration of a service. Tags mean nothing to it. -/
def declarationViolation? (component : String) (declaration : Declaration) :
    Rule → Option Violation
  | .requiresAttributes names =>
    names.findSome? fun name =>
      if isMissing (declaration.attributes.get? name) then
        some (.declarationLacks component name declaration.site)
      else none
  | .allowedTags _ => none

/-- Check a component whose type is known. -/
def examineComponent (page : Page) (facts : Facts) (descriptor : Descriptor)
    (declaration : Declaration) : Facts × Option Violation :=
  if descriptor.isVisual then
    let found := matching page facts descriptor.name
    let said := found.2.say .debug
      ("Visual component " ++ descriptor.name ++ " matches " ++ toString found.1.length ++
        " element(s)")
    (said, descriptor.rules.findSome? (elementViolation? descriptor.name found.1))
  else (facts, descriptor.rules.findSome? (declarationViolation? descriptor.name declaration))

/-- Check components in order, up to the first violation. -/
def examineAll (page : Page) (registry : Registry) :
    Facts → List (String × Declaration) → Facts × Option Violation
  | facts, [] => (facts, none)
  | facts, (name, declaration) :: rest =>
    match registry.resolve name with
    | none => (facts, some (.unknownType name))
    | some descriptor =>
      let known := { facts with descriptors := facts.descriptors.put name descriptor }
      match examineComponent page known descriptor declaration with
      | (checked, some violation) => (checked, some violation)
      | (checked, none) => examineAll page registry checked rest

/-- Check every declared component. What was found out before a violation stays. -/
def examine (page : Page) (registry : Registry) (facts : Facts) :
    Facts × Option Violation :=
  examineAll page registry facts facts.components

end PageCompiler.Build
