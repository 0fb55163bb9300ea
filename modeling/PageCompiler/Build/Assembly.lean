import PageCompiler.Build.Facts
import PageCompiler.Page
import PageCompiler.Program.Basic

/-!
# Assembling the program

The program has three parts, in this order: each declared component is made available and
registered, the markup of the page is embedded, and the application is launched. Each part is an
operation of its own on an assembly, which also counts the variables it has used.

Only a visual component hands the attributes of its declaration on, in a variable if there are any,
and is registered with the class tag by which it found its elements.
-/

namespace PageCompiler.Build

/-- The actions so far and the number of the next variable. -/
structure Assembly where
  actions : List Action
  nextVariable : Nat
  deriving Repr, DecidableEq

namespace Assembly

/-- No actions yet. -/
def empty : Assembly :=
  ⟨[], 0⟩

/-- More actions at the end. -/
def push (assembly : Assembly) (actions : List Action) : Assembly :=
  { assembly with actions := assembly.actions ++ actions }

/-- The variable with a number. -/
def variableName (number : Nat) : String :=
  "args" ++ toString number

/-- Make one component available and register it. -/
def registerOne (state : Assembly × Facts) (entry : String × Declaration) :
    Assembly × Facts :=
  let (assembly, facts) := state
  let (name, declaration) := entry
  let visual := (facts.descriptors.get? name).any fun descriptor => descriptor.isVisual
  if !visual then (assembly.push [.use name, .register name none none], facts)
  else
    let settled := facts.classTag name
    if declaration.attributes.isEmpty then
      (assembly.push [.use name, .register name none (some settled.1)], settled.2)
    else
      let held := variableName assembly.nextVariable
      ({ assembly.push
            [.use name, .holdArguments held declaration.attributes,
             .register name (some held) (some settled.1)] with
          nextVariable := assembly.nextVariable + 1 },
        settled.2)

/-- Make every declared component available and register it. -/
def registerAll (assembly : Assembly) (facts : Facts) : Assembly × Facts :=
  facts.components.foldl registerOne (assembly, facts)

/-- Embed the markup of the page's body, if the build embeds markup. -/
def embedMarkup (page : Page) (assembly : Assembly) (facts : Facts) : Assembly × Facts :=
  if facts.embeds then
    let literal := Json.compactText page.body.children.html
    (assembly.push [.embed Action.defaultTarget literal],
      facts.say .debug ("Embedding " ++ toString literal.length ++ " characters of markup"))
  else (assembly, facts)

/-- Launch the application: a script whose markup stays in the page waits until that has loaded. -/
def wireLaunch (assembly : Assembly) (facts : Facts) : Assembly :=
  let launched := assembly.push
    [if facts.target.isJs && !facts.embeds then .launchOnLoad else .launch]
  if facts.hasFlag noAutoStart then launched else launched.push [.startInit]

/-- The program of the actions so far. -/
def program (assembly : Assembly) (facts : Facts) : Program :=
  ⟨assembly.actions, facts.parameters, facts.exposedName⟩

end Assembly

/-- Assemble the whole program. -/
def assemble (page : Page) (facts : Facts) : Program × Facts :=
  let components := Assembly.empty.registerAll facts
  let embedded := Assembly.embedMarkup page components.1 components.2
  ((embedded.1.wireLaunch embedded.2).program embedded.2, embedded.2)

end PageCompiler.Build
