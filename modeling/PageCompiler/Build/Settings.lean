import PageCompiler.Build.Facts
import PageCompiler.EnvironmentFile
import PageCompiler.Json.Schema
import PageCompiler.Path

/-!
# Build settings

The settings of one build: what to read, what to make, and where to put it. They come from the
environment and are overridden, field by field, by what is given explicitly; a variable that is set
to nothing counts as not set.
-/

namespace PageCompiler.Build

open Json

/-- The settings of one build. -/
structure Settings where
  source : Path
  target : Target
  output : Option String
  /-- The exposed name given from outside, which wins over the page's. -/
  exposedName : Option String
  /-- The compile-time flags given from outside, each once. -/
  defines : List String
  /-- The component manifest. -/
  registry : Option Path
  deriving Repr, DecidableEq

/-- The name of a target. -/
def Target.name : Target → String
  | .js => "js"
  | .native => "native"

/-- A target by its name. -/
def Target.ofJson : Json → Checked Target
  | .text "js" => .ok .js
  | .text "native" => .ok .native
  | _ => Checked.fail .choice

/-- Where the program goes unless the settings say otherwise. -/
def Target.defaultOutput : Target → String
  | .js => "bin/index.js"
  | .native => "bin/index.json"

namespace Settings

/-- The page that is built unless the settings say otherwise. -/
def defaultSource : String := "index.html"

/-- Where the program goes. -/
def outputPath (settings : Settings) : String :=
  match settings.output with
  | some output => if output = "" then settings.target.defaultOutput else output
  | none => settings.target.defaultOutput

/-- A path given as a text. -/
def asPath : Json → Checked Path
  | .text value => .ok (.ofText value)
  | _ => Checked.fail .path

/-- A path or null. -/
def asPath? : Json → Checked (Option Path)
  | .null => .ok none
  | value => some <$> asPath value

/-- A list of texts of which each counts once. -/
def asSet : Json → Checked (List String)
  | .list values => List.eraseDups <$> Checked.items asText 0 values
  | _ => Checked.fail .set

/-- The name of the settings as a model, which reports of issues show. -/
def model : String := "BuildConfig"

/-- The settings that some fields describe. -/
def ofFields (fields : Keyed Json) : Checked Settings :=
  ((optional "source" (.ofText defaultSource) asPath fields).both
    ((optional "target" .js Target.ofJson fields).both
      ((optional "output" none asText? fields).both
        ((optional "exposed_name" none asText? fields).both
          ((optional "defines" [] asSet fields).both
            (optional "registry" none asPath? fields)))))).map
    fun (source, target, output, exposedName, defines, registry) =>
      { source, target, output, exposedName, defines, registry }

/-- The variables that set a field, with the field. -/
def fieldVariables : List (String × String) :=
  [("SLPC_TARGET", "target"), ("SLPC_OUTPUT", "output"), ("SLPC_EXPOSED_NAME", "exposed_name"),
   ("SLPC_REGISTRY", "registry")]

/-- The fields that the environment sets. -/
def fieldsOfEnvironment (environment : Environment) : Keyed Json :=
  fieldVariables.filterMap fun (variableName, field) =>
    match environment.get? variableName with
    | none => none
    | some value => if value = "" then none else some (field, .text value)

/-- The fields that the environment sets, overridden by the given ones that are not null. -/
def layered (environment : Environment) (given : Keyed Json) : Keyed Json :=
  given.foldl
    (fun fields entry =>
      match entry.2 with
      | .null => fields
      | value => fields.put entry.1 value)
    (fieldsOfEnvironment environment)

end Settings

end PageCompiler.Build
