import PageCompiler.Component.ClassTag
import PageCompiler.Component.Descriptor
import PageCompiler.Log

/-!
# What a build finds out

The phases of a build share one record: flags, runtime parameters, declared components and their
types, class tags, the exposed name, and the warnings. Every phase only adds to it. A name that was
declared keeps its place when it is declared again, and a class tag is settled the first time it is
asked for.
-/

namespace PageCompiler.Build

open Component (Descriptor)

/-- What a build produces: a script, or the program as JSON. -/
inductive Target
  | js
  | native
  deriving Repr, DecidableEq

/-- The target is a script. -/
def Target.isJs (target : Target) : Bool :=
  target = .js

/-- Compile-time flags with a meaning to the build. -/
def noAutoStart : String := "noAutoStart"

/-- The flag that embeds the page's markup in a script. -/
def embedHtml : String := "embedHtml"

/-- The flag that asks for the slow way of initializing. -/
def disableFastInit : String := "disableFastInit"

/-- The flag that every script is built with. -/
def jsModern : String := "js_modern"

/-- A component that the page declares: its attributes, and the tag that declares it as written. -/
structure Declaration where
  name : String
  attributes : Keyed String
  site : String
  deriving Repr, DecidableEq

/-- Everything that one build has found out so far. -/
structure Facts where
  target : Target
  /-- The compile-time flags, each once. -/
  flags : List String
  parameters : Keyed String
  components : Keyed Declaration
  descriptors : Keyed Descriptor
  classTags : Keyed String
  /-- The exposed name that the page asks for. -/
  exposedNameOverride : Option String
  exposedName : Option String
  warnings : List String
  log : Log
  deriving Repr, DecidableEq

namespace Facts

/-- Nothing found out but the target and the flags given from outside. -/
def start (target : Target) (flags : List String) : Facts :=
  { target
    flags := flags.eraseDups
    parameters := []
    components := []
    descriptors := []
    classTags := []
    exposedNameOverride := none
    exposedName := none
    warnings := []
    log := [] }

/-- Say something. -/
def say (facts : Facts) (level : Level) (message : String) : Facts :=
  { facts with log := facts.log ++ [⟨level, message⟩] }

/-- Record a warning and say it. -/
def warn (facts : Facts) (message : String) : Facts :=
  { facts.say .warning message with warnings := facts.warnings ++ [message] }

/-- The flag is set. -/
def hasFlag (facts : Facts) (name : String) : Bool :=
  facts.flags.contains name

/-- Set a flag. -/
def setFlag (facts : Facts) (name : String) : Facts :=
  if facts.hasFlag name then facts else { facts with flags := facts.flags ++ [name] }

/-- The page's markup goes into the program: always, except in a script that does not ask for it. -/
def embeds (facts : Facts) : Bool :=
  !facts.target.isJs || facts.hasFlag embedHtml

/-- Declare a component. A later declaration replaces the attributes of an earlier one. -/
def declare (facts : Facts) (name : String) (attributes : Keyed String) (site : String) : Facts :=
  { facts with components := facts.components.put name ⟨name, attributes, site⟩ }

/-- The class tag of a component, settled now if it was not before. -/
def classTag (facts : Facts) (name : String) : String × Facts :=
  match facts.classTags.get? name with
  | some tag => (tag, facts)
  | none =>
    let tag := Component.classTag name facts.components.keys
    (tag, { facts with classTags := facts.classTags.put name tag })

end Facts

end PageCompiler.Build
