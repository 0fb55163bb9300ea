import PageCompiler.Build.Compliance
import PageCompiler.Build.Settings
import PageCompiler.Component.Manifest
import PageCompiler.Disk
import PageCompiler.EnvironmentFile
import PageCompiler.Json.Schema
import PageCompiler.Markup.Error

/-!
# Why a build fails

A *build error* is a failure that a build reports: the settings, the manifest, the page or an output
file is not as it should be. Other failures are not foreseen by the build and end it as they are: a
text that is no markup, bytes that are no text where the build expects text, a path that is none.
-/

namespace PageCompiler.Build

open Json (Issue summary)

/-- A failure that a build reports. -/
inductive BuildError
  | invalidSettings (issues : List Issue)
  | unreadableManifest (shown : String) (path : Path) (fault : DiskFault)
  | invalidManifest (shown : String) (issues : List Issue)
  | cyclicManifest (shown : String) (names : List String)
  | sourceNotFound (shown : String)
  | sourceNotText (shown : String) (error : Text.Utf8Error)
  | unwritableArtifact (path : Path) (fault : DiskFault)
  | violation (found : Violation)
  deriving Repr, DecidableEq

/-- A failure of any kind. -/
inductive Failure
  | build (error : BuildError)
  | markup (error : Markup.Error)
  /-- A manifest or an environment file is not UTF-8. -/
  | notText (error : Text.Utf8Error)
  /-- A path holds the character NUL. -/
  | nulInPath
  /-- The source cannot be looked at. -/
  | unreachableSource (path : Path) (fault : DiskFault)
  | environment (refusal : EnvironmentFile.Refusal)
  deriving Repr, DecidableEq

/-- Why a source cannot be read as text. -/
def sourceReason (error : Text.Utf8Error) : String :=
  "not valid UTF-8 (" ++ error.fault.reason ++ " at byte " ++ toString error.position ++ ")"

/-- The error in words. -/
def BuildError.message : BuildError → String
  | .invalidSettings issues => "invalid build configuration: " ++ summary Settings.model issues
  | .unreadableManifest shown path fault =>
    "cannot read component manifest " ++ shown ++ ": " ++ fault.message path
  | .invalidManifest shown issues =>
    "invalid component manifest " ++ shown ++ ": " ++ summary Component.Manifest.model issues
  | .cyclicManifest shown names =>
    "cyclic extends in component manifest " ++ shown ++ ": " ++ ", ".intercalate names
  | .sourceNotFound shown => "source file not found: " ++ shown
  | .sourceNotText shown error =>
    "cannot read source file " ++ shown ++ ": " ++ sourceReason error
  | .unwritableArtifact path fault =>
    "cannot write artifact " ++ path.text ++ ": " ++ fault.text
  | .violation found => found.message

/-- The failure in words. -/
def Failure.message : Failure → String
  | .build error => error.message
  | .markup error => error.message
  | .notText error => error.message
  | .nulInPath => "embedded null byte"
  | .unreachableSource path fault => fault.message path
  | .environment refusal => refusal.message

end PageCompiler.Build
