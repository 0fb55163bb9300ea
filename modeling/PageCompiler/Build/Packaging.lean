import PageCompiler.Build.Failure
import PageCompiler.Page

/-!
# Packaging

The last decisions of a build and its files. A script is always built with one more flag and has an
exposed name: the one given from outside, or else the page's, or else the name of the output file.
Beside a script that does not embed the markup goes the page itself.

Files are written in order. When one cannot be written, those written before it are deleted again.
-/

namespace PageCompiler.Build

/-- Settle flag and exposed name of a script. Other targets have neither. -/
def package (settings : Settings) (facts : Facts) : Facts :=
  if !facts.target.isJs then facts
  else
    let flagged := facts.setFlag jsModern
    let named :=
      if settings.exposedName.getD "" ≠ "" then
        let name := settings.exposedName.getD ""
        { flagged.warn ("Exposed name already set to " ++ name ++ ", keeping it") with
          exposedName := some name }
      else if facts.exposedNameOverride.getD "" ≠ "" then
        { flagged with exposedName := facts.exposedNameOverride }
      else { flagged with exposedName := some (directoryAndBase settings.outputPath).2 }
    named.say .debug ("Exposed name: " ++ named.exposedName.getD "")

/-- A file to write. -/
structure Artifact where
  path : Path
  content : String
  deriving Repr, DecidableEq

/-- The page beside a script, unless the script embeds it. -/
def pageArtifact? (page : Page) (facts : Facts) (settings : Settings) : Option Artifact :=
  if facts.target.isJs && !facts.embeds then
    some ⟨pageBeside settings.outputPath, page.html⟩
  else none

/-- What writing leaves: the disk, the paths written or the failure, and what was said. -/
structure Writing where
  disk : Disk
  result : Except Failure (List Path)
  log : Log

/-- Write files in order; `done` are the paths already written, first to last. -/
def writeAfter (done : List Path) (disk : Disk) : List Artifact → Writing
  | [] => ⟨disk, .ok done, []⟩
  | artifact :: rest =>
    match disk.writeText artifact.path artifact.content with
    | (disk, .error (.fault fault)) =>
      ⟨done.foldl Disk.removeFile disk,
        .error (.build (.unwritableArtifact artifact.path fault)), []⟩
    | (disk, .error .nulInPath) => ⟨disk, .error .nulInPath, []⟩
    | (disk, .ok ()) =>
      let later := writeAfter (done ++ [artifact.path]) disk rest
      { later with log := ⟨.info, "Wrote " ++ artifact.path.text⟩ :: later.log }

/-- Write every file, or delete those that were written. -/
def writeAll (disk : Disk) (artifacts : List Artifact) : Writing :=
  writeAfter [] disk artifacts

end PageCompiler.Build
