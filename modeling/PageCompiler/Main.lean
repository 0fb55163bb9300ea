import PageCompiler.CommandLine.Run

/-!
# The program

The command line on a real disk. A disk that is a value is made first: it holds what the real one
has at the places that matter, which are those of environment files and of the paths that the
settings name, with the directories above them. The program runs on that disk, and at the end what
it has changed is changed on the real one.
-/

namespace PageCompiler.CommandLine

open Build (Settings)

/-- What the real disk has at a place. -/
def actualEntry? (place : Place) : IO (Option DiskEntry) := do
  let path := (← IO.currentDir) / ("/" ++ "/".intercalate place)
  if ← path.isDir then return some .directory
  if ← path.pathExists then return some (.file (← IO.FS.readBinFile path).data.toList)
  return none

/-- The disk with what the real one has at a place. -/
def look (disk : Disk) (place : Place) : IO Disk := do
  match ← actualEntry? place with
  | some entry => return disk.put place entry
  | none => return disk

/-- The disk with what the real one has on the way from a directory down. -/
def survey (disk : Disk) (directory : Place) : List String → IO Disk
  | [] => return disk
  | name :: rest =>
    match Disk.child directory name with
    | .error _ => return disk
    | .ok place => do survey (← look disk place) place rest

/-- The disk with the environment files in a directory and above it. -/
def surveyEnvironmentFiles (disk : Disk) (directory : Place) : IO Disk :=
  (List.range (directory.length + 1)).foldlM (fun disk depth =>
    look disk (directory.take depth ++ [EnvironmentFile.fileName])) disk

/-- The variables that decide about a build, on a disk with its environment files. -/
def surveyVariables (disk : Disk) : IO Environment := do
  let text := ((Build.environmentFile? disk disk.current).bind fun bytes =>
    (Text.readText bytes).toOption).getD ""
  let mentioned := EnvironmentFile.mentionedNames (EnvironmentFile.readBindings text).1
  let names :=
    EnvironmentFile.disablingVariable :: Settings.fieldVariables.map Prod.fst ++ mentioned
  let found ← (names.eraseDups.filter (· ≠ "")).mapM fun name => do
    return (← IO.getEnv name).map fun value => (name, value)
  return found.filterMap id

/-- The paths that some settings name. -/
def pathsOf (settings : Settings) : List Path :=
  [settings.source, .ofText settings.outputPath, pageBeside settings.outputPath] ++
    settings.registry.toList

/-- The disk with the paths that a command line and an environment name. -/
def surveyPaths (disk : Disk) (environment : Environment) (arguments : List String) : IO Disk :=
  match parse arguments with
  | .error _ => return disk
  | .ok options =>
    match (Build.loadSettings disk environment options.fields).result with
    | .error _ => return disk
    | .ok settings =>
      (pathsOf settings).foldlM (fun disk path =>
        survey disk (if path.root = "" then disk.current else []) path.names) disk

/-- Change the real disk as one that is a value was changed. -/
def change (before after : Disk) : IO Unit := do
  let here ← IO.currentDir
  for (place, entry) in after.entries.reverse do
    if before.at? place ≠ some entry then
      let path := here / ("/" ++ "/".intercalate place)
      match entry with
      | .directory => IO.FS.createDirAll path
      | .file bytes => IO.FS.writeBinFile path (ByteArray.mk bytes.toArray)
  for (place, _) in before.entries do
    if after.at? place = none then
      IO.FS.removeFile (here / ("/" ++ "/".intercalate place))

/-- Run on the real disk, in the environment of the process. -/
def execute (arguments : List String) : IO UInt32 := do
  let current := (← IO.currentDir).components.filter (· ≠ "")
  let disk ← surveyEnvironmentFiles ⟨[], current⟩ current
  let environment ← surveyVariables disk
  let disk ← surveyPaths disk environment arguments
  let ending := run disk environment arguments
  change disk ending.disk
  IO.print ending.printed
  IO.eprint ending.said
  match ending.mishap with
  | some mishap => IO.eprintln mishap.message
  | none => pure ()
  return ending.status.toUInt32

end PageCompiler.CommandLine

/-- The program. -/
def main (arguments : List String) : IO UInt32 :=
  PageCompiler.CommandLine.execute arguments
