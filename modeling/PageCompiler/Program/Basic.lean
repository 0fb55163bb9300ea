import PageCompiler.Json.Printer
import PageCompiler.Json.Reader
import PageCompiler.Json.Schema

/-!
# Initialization programs

The result of a build is a program that sets the application up: an ordered list of actions, the
runtime parameters of the page, and the name under which the application is exposed. A program has a
JSON form with every field written out; reading it back takes the fields in any order, fills in what
was left out, and lists all issues of a text that is no program.
-/

namespace PageCompiler

/-- One step of an initialization program. -/
inductive Action
  /-- Make a component type available. -/
  | use (name : String)
  /-- Hold arguments in a variable. -/
  | holdArguments (variableName : String) (entries : Keyed String)
  /-- Register a component with the application; a visual one with its class tag. -/
  | register (name : String) (argumentsVariable classTag : Option String)
  /-- Put markup, a JSON text, into an element of the page. -/
  | embed (target literal : String)
  /-- Launch the application once the page has loaded. -/
  | launchOnLoad
  /-- Launch the application during initialization. -/
  | launch
  /-- Initialize when the script runs. -/
  | startInit
  deriving Repr, DecidableEq

/-- An initialization program. -/
structure Program where
  actions : List Action
  parameters : Keyed String
  exposedName : Option String
  deriving Repr, DecidableEq

namespace Action

open Json

/-- The kind of an action, as its JSON form names it. -/
def kind : Action → String
  | use .. => "import"
  | holdArguments .. => "build_args_map"
  | register .. => "register_component"
  | embed .. => "assign_embedded_html"
  | launchOnLoad => "set_onload_launch"
  | launch => "append_launch_call"
  | startInit => "append_main_init_call"

/-- The fields of an action beside its kind. -/
def fields : Action → List (String × Json)
  | use name => [("name", .text name)]
  | holdArguments variableName entries =>
    [("var_name", .text variableName), ("entries", .ofTexts entries)]
  | register name argumentsVariable classTag =>
    [("name", .text name), ("args_var", .ofText? argumentsVariable),
     ("class_tag", .ofText? classTag)]
  | embed target literal => [("target", .text target), ("literal", .text literal)]
  | launchOnLoad => []
  | launch => []
  | startInit => []

/-- The JSON form of an action. -/
def toJson (action : Action) : Json :=
  .record (("type", .text action.kind) :: action.fields)

/-- Where embedded markup goes unless the action says otherwise. -/
def defaultTarget : String := "body"

/-- The action that a JSON value describes. -/
def ofJson : Json → Checked Action :=
  asKind .text "type"
    [("import", fun fields => use <$> required "name" asText fields),
     ("build_args_map", fun fields =>
        ((required "var_name" asText fields).both
          (optional "entries" [] asTexts fields)).map fun (name, entries) =>
            holdArguments name entries),
     ("register_component", fun fields =>
        ((required "name" asText fields).both
          ((optional "args_var" none asText? fields).both
            (optional "class_tag" none asText? fields))).map fun (name, arguments, tag) =>
              register name arguments tag),
     ("assign_embedded_html", fun fields =>
        ((optional "target" defaultTarget asText fields).both
          (required "literal" asText fields)).map fun (target, literal) => embed target literal),
     ("set_onload_launch", fun _ => .ok launchOnLoad),
     ("append_launch_call", fun _ => .ok launch),
     ("append_main_init_call", fun _ => .ok startInit)]

end Action

namespace Program

open Json

/-- The JSON form of a program. -/
def toJson (program : Program) : Json :=
  .record
    [("actions", .list (program.actions.map Action.toJson)),
     ("meta_parameters", .ofTexts program.parameters),
     ("exposed_name", .ofText? program.exposedName)]

/-- The JSON text of a program, indented by so many blanks at each level. -/
def toText (program : Program) (indent : Nat) : String :=
  program.toJson.indented indent

/-- How far the JSON text of a program is indented unless asked otherwise. -/
def defaultIndent : Nat := 2

/-- The name of a program as a model, which reports of issues show. -/
def model : String := "InitializationProgram"

/-- The program that a JSON value describes. -/
def ofJson : Json → Checked Program :=
  asModel fun fields =>
    ((optional "actions" [] (asList Action.ofJson) fields).both
      ((optional "meta_parameters" [] asTexts fields).both
        (optional "exposed_name" none asText? fields))).map
      fun (actions, parameters, exposedName) => ⟨actions, parameters, exposedName⟩

/-- How deep lists and records may be nested in the text of a program. -/
def maxDepth : Nat := 200

/-- The program that a text spells. -/
def ofText (text : String) : Checked Program :=
  match Json.read maxDepth text with
  | .error _ => Checked.fail .json
  | .ok value => ofJson value

/-- The texts of embedded markup, in program order. -/
def literals (program : Program) : List String :=
  program.actions.filterMap fun action =>
    match action with
    | .embed _ literal => some literal
    | _ => none

end Program

end PageCompiler
