import PageCompiler.Program.Basic

/-!
# Scripts

A program as a JavaScript text that runs on its own. It expects the component runtime as the global
`slp`. All texts of the program stand in the script in compact JSON form, so each of them stays on
its line and within ASCII; variables and embedded markup stand as they are.
-/

namespace PageCompiler.Program

open Json (compactText compactTexts)

/-- The arguments with which a component is registered. A class tag stands in the third place, so
null holds the second one if there are no arguments. -/
def registrationArguments (name : String) (argumentsVariable classTag : Option String) :
    List String :=
  let held := (argumentsVariable.getD "")
  let tag := (classTag.getD "")
  compactText name ::
    ((if held = "" then [] else [held]) ++
      (if tag = "" then [] else (if held = "" then ["null"] else []) ++ [compactText tag]))

/-- The statements of an action outside of `main`. -/
def statements : Action → List String
  | .use name => ["slp.use(" ++ compactText name ++ ");"]
  | .holdArguments name entries => ["var " ++ name ++ " = " ++ compactTexts entries ++ ";"]
  | .register name argumentsVariable classTag =>
    ["application.registerComponent(" ++
      ", ".intercalate (registrationArguments name argumentsVariable classTag) ++ ");"]
  | .embed target literal =>
    ["var htmlContent = " ++ literal ++ ";",
     "initCalls.push(function () \x7b root.document." ++ target ++
       ".innerHTML = htmlContent; \x7d);"]
  | .launchOnLoad => ["root.onload = function (e) \x7b application.launch(); \x7d;"]
  | .launch => ["initCalls.push(function () \x7b application.launch(); \x7d);"]
  | .startInit => []

/-- The statements of an action inside of `main`. -/
def mainStatements : Action → List String
  | .startInit => ["init();"]
  | _ => []

/-- The statement that exposes the application, if it has a name. -/
def exposure (exposedName : Option String) : List String :=
  match exposedName with
  | none => []
  | some name =>
    if name = "" then []
    else ["  root[" ++ compactText name ++ "] = \x7b application: application, init: init \x7d;"]

/-- The lines of a script. -/
def scriptLines (program : Program) : List String :=
  ["// Generated by slpc. Do not edit.",
   "(function (root) \x7b",
   "  \"use strict\";",
   "  var slp = root.slp;",
   "  var application = new slp.Application(" ++ compactTexts program.parameters ++ ");",
   "  var initCalls = [];"] ++
  ((program.actions.flatMap statements).map fun line => "  " ++ line) ++
  ["",
   "  function init() \x7b",
   "    for (var i = 0; i < initCalls.length; i++) \x7b initCalls[i](); \x7d",
   "  \x7d",
   "  function main() \x7b"] ++
  ((program.actions.flatMap mainStatements).map fun line => "    " ++ line) ++
  ["  \x7d"] ++
  exposure program.exposedName ++
  ["  main();",
   "\x7d)(this);"]

/-- The script of a program, each line ended by a line feed. -/
def script (program : Program) : String :=
  String.join (program.scriptLines.map fun line => line ++ "\n")

end PageCompiler.Program
