import PageCompiler.Build.Facts
import PageCompiler.Page

/-!
# Directives

A `meta` element with a name is a directive. It sets a compile-time flag, or asks for an exposed
name, or gives the application a runtime parameter. Only parameters stay in the page.
-/

namespace PageCompiler.Build

open Markup

/-- The flags that the content `true` sets. -/
def reservedFlags : List String :=
  [noAutoStart, embedHtml, disableFastInit]

/-- The content that makes a flag of any name. -/
def flagContent : String := "compile-flag"

/-- The name of the directive that asks for an exposed name. -/
def exposedNameKey : String := "jsExposedName"

/-- What a `meta` element means to the build. -/
inductive Directive
  | flag (name : String)
  /-- The exposed name, if one is given that is not blank. -/
  | exposedName (name : Option String)
  | parameter (name value : String)
  deriving Repr, DecidableEq

/-- What a `meta` element means for a target; nothing when it has no name. -/
def directive? (target : Target) (head : Head) : Option Directive :=
  match head.get? "name" with
  | none => none
  | some name =>
    let content := head.get? "content"
    if (reservedFlags.contains name && content == some "true") || content == some flagContent then
      some (.flag name)
    else if target.isJs && name == exposedNameKey then
      let given := Text.strip (content.getD "")
      some (.exposedName (if given = "" then none else some given))
    else some (.parameter name (content.getD ""))

/-- The directive stays in the page. -/
def Directive.stays : Directive → Bool
  | .parameter .. => true
  | _ => false

/-- Record a directive. -/
def Facts.follow (facts : Facts) : Directive → Facts
  | .flag name => (facts.say .debug ("Compile-time flag: " ++ name)).setFlag name
  | .exposedName (some name) => { facts with exposedNameOverride := some name }
  | .exposedName none =>
    facts.warn ("Invalid " ++ exposedNameKey ++ " value, the default exposed name is kept")
  | .parameter name value => { facts with parameters := facts.parameters.put name value }

/-- Follow the directive of one element and take it out of the page unless it stays. -/
def followElement (state : Page × Facts) (id : Nat) : Page × Facts :=
  match state.1.element? id with
  | none => state
  | some element =>
    match directive? state.2.target element.head with
    | none => state
    | some directive =>
      (if directive.stays then state.1 else state.1.remove id, state.2.follow directive)

/-- Follow every directive of the page, in document order. -/
def followDirectives (page : Page) (facts : Facts) : Page × Facts :=
  ((page.root.withTag "meta").map fun element => element.head.id).foldl followElement (page, facts)

end PageCompiler.Build
