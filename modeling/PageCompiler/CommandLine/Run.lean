import PageCompiler.Build.Run
import PageCompiler.CommandLine.Arguments

/-!
# Running the program

What the program does with its arguments on a disk in an environment: the status it ends with, what
it prints, what it says on the side, and the disk it leaves. A build error is printed and ends the
program with status one; any other failure ends it so too, but as it is.
-/

namespace PageCompiler.CommandLine

open Build (Failure Product)
open Component (Registry)

/-- A failure that nothing was prepared for. -/
inductive Mishap
  | failure (failure : Failure)
  /-- A flag that is to be set is no text. -/
  | flagNotText

/-- The mishap in words. -/
def Mishap.message : Mishap → String
  | .failure e => e.message
  | .flagNotText => "unhashable type: 'list'"

/-- How the program ended. -/
structure Ending where
  status : Nat
  printed : String
  said : String
  disk : Disk
  mishap : Option Mishap
  product : Option Product

/-- How the program ends after a build; only what is said at least as loud as `least` is heard. -/
def endingOf (least : Level) (building : Build.Building) : Ending :=
  let said := Log.shown building.log least
  match building.result with
  | .ok product => ⟨0, "", said, building.disk, none, some product⟩
  | .error (.build error) =>
    ⟨1, "ERROR : " ++ error.message ++ "\n", said, building.disk, none, none⟩
  | .error failure => ⟨1, "", said, building.disk, some (.failure failure), none⟩

/-- Build quietly: only warnings are heard. -/
def buildQuietly (disk : Disk) (environment : Environment) (given : Keyed Json)
    (registry : Option Registry) : Ending :=
  endingOf .warning (Build.buildFrom disk environment given registry)

/-- What is printed about a build that succeeds. -/
def report (product : Product) : String :=
  String.join (product.artifacts.map fun path => "✅ Wrote " ++ path.text ++ "\n") ++
    (if product.warnings.isEmpty then ""
     else "   " ++ toString product.warnings.length ++ " warning(s)\n")

/-- Build with the options of a command line and report. -/
def runBuild (disk : Disk) (environment : Environment) (options : Options) : Ending :=
  let least := if options.verbose then Level.debug else Level.info
  let ending := endingOf least (Build.buildFrom disk environment options.fields none)
  match ending.product with
  | none => ending
  | some product => { ending with printed := report product }

/-- Run the program. -/
def run (disk : Disk) (environment : Environment) (arguments : List String) : Ending :=
  match parse arguments with
  | .error .helpWanted => ⟨0, helpText, "", disk, none, none⟩
  | .error (.error error) => ⟨2, "", usageReport error, disk, none, none⟩
  | .ok options =>
    if options.definesTexts then runBuild disk environment options
    else ⟨1, "", "", disk, some .flagNotText, none⟩

end PageCompiler.CommandLine
