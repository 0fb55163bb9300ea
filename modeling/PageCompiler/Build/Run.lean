import PageCompiler.Build.Assembly
import PageCompiler.Build.Compliance
import PageCompiler.Build.ComponentScripts
import PageCompiler.Build.Directives
import PageCompiler.Build.Packaging
import PageCompiler.Component.Manifest
import PageCompiler.Program.Script

/-!
# A whole build

`build` goes through the phases in order: read the page, follow its directives, read its
declarations, check the components, assemble the program, package it and write the files. Everything
is settled before the first file is written, so a failure before that leaves the disk as it was.

`loadRegistry` and `loadSettings` read what comes from the disk beside the page.
-/

namespace PageCompiler.Build

open Component (Registry Manifest)

/-- What a step with access to the disk leaves: a result or a failure, and what was said. -/
structure Said (α : Type) where
  result : Except Failure α
  log : Log

namespace Said

variable {α β : Type}

/-- A result and nothing said. -/
def ok (value : α) : Said α := ⟨.ok value, []⟩

/-- A failure and nothing said. -/
def fail (failure : Failure) : Said α := ⟨.error failure, []⟩

/-- Another step after a first one. -/
def andThen (first : Said α) (next : α → Said β) : Said β :=
  match first.result with
  | .error failure => ⟨.error failure, first.log⟩
  | .ok value =>
    let second := next value
    { second with log := first.log ++ second.log }

end Said

/-! ## Reading -/

/-- The page at a path, which messages show as it was given. -/
def loadPage (disk : Disk) (path : Path) (shown : String) : Except Failure Page :=
  match disk.isFile path with
  | .error fault => .error (.unreachableSource path fault)
  | .ok false => .error (.build (.sourceNotFound shown))
  | .ok true =>
    match disk.read path with
    | .error _ => .error (.build (.sourceNotFound shown))
    | .ok bytes =>
      match Text.readText bytes with
      | .error e => .error (.build (.sourceNotText shown e))
      | .ok text => (Page.ofMarkup text).mapError .markup

/-- The registry that a manifest on the disk describes. -/
def loadRegistry (disk : Disk) (path : Path) (shown : String) : Said Registry :=
  match disk.read path with
  | .error .nulInPath => .fail .nulInPath
  | .error (.fault fault) => .fail (.build (.unreadableManifest shown path fault))
  | .ok bytes =>
    match Text.readText bytes with
    | .error e => .fail (.notText e)
    | .ok text =>
      match Manifest.ofText text with
      | .error issues => .fail (.build (.invalidManifest shown issues))
      | .ok manifest =>
        match manifest.registry with
        | (.error names, log) => ⟨.error (.build (.cyclicManifest shown names)), log⟩
        | (.ok registry, log) =>
          ⟨.ok registry,
            log ++ [⟨.debug, "Loaded " ++ toString manifest.length ++ " component types from " ++
              shown⟩]⟩

/-- The environment file nearest to a directory, upwards. -/
def environmentFile? (disk : Disk) (directory : Place) : Option (List UInt8) :=
  match disk.at? (directory ++ [EnvironmentFile.fileName]) with
  | some (.file bytes) => some bytes
  | _ =>
    if _h : directory = [] then none else environmentFile? disk directory.dropLast
termination_by directory.length
decreasing_by
  have := List.length_pos_iff.2 _h
  simp only [List.length_dropLast]
  omega

/-- The environment with the variables of the nearest environment file. -/
def loadEnvironment (disk : Disk) (environment : Environment) : Said Environment :=
  if EnvironmentFile.isDisabled environment then
    ⟨.ok environment, [⟨.debug, EnvironmentFile.disabledMessage⟩]⟩
  else
    match environmentFile? disk disk.current with
    | none => .ok environment
    | some bytes =>
      match Text.readText bytes with
      | .error e => .fail (.notText e)
      | .ok text =>
        let bindings := EnvironmentFile.readBindings text
        let values := EnvironmentFile.resolve environment [] bindings.1
        ⟨(EnvironmentFile.load environment values).mapError .environment, bindings.2⟩

/-- The settings that the environment and some given fields describe. -/
def loadSettings (disk : Disk) (environment : Environment) (given : Keyed Json) : Said Settings :=
  (loadEnvironment disk environment).andThen fun environment =>
    match Settings.ofFields (Settings.layered environment given) with
    | .error issues => .fail (.build (.invalidSettings issues))
    | .ok settings => .ok settings

/-! ## Building -/

/-- What a build that succeeds has made. -/
structure Product where
  program : Program
  page : Page
  flags : List String
  exposedName : Option String
  warnings : List String
  artifacts : List Path

/-- What a build leaves: the disk, its product or a failure, and what was said. -/
structure Building where
  disk : Disk
  result : Except Failure Product
  log : Log

/-- The files of a build: the program, and the page if it goes beside it. -/
def artifacts (page : Page) (facts : Facts) (settings : Settings) (program : Program) :
    List Artifact :=
  let content := if facts.target.isJs then program.script else program.toText Program.defaultIndent
  ⟨.ofText settings.outputPath, content⟩ :: (pageArtifact? page facts settings).toList

/-- What the phases before the first file settle. -/
structure Plan where
  program : Program
  page : Page
  facts : Facts

/-- Everything up to the first file: the plan or the first violation, and what was said. -/
def plan (settings : Settings) (registry : Registry) (page : Page) :
    Except Violation Plan × Log :=
  let directed := followDirectives page (.start settings.target settings.defines)
  let scanned := readDeclarations directed.1 directed.2
  let declared := scanned.2.components.keys
  let told := scanned.2.say .info ("Declared components: " ++
    (if declared.isEmpty then "none" else ", ".intercalate declared))
  match examine scanned.1 registry told with
  | (checked, some violation) => (.error violation, checked.log)
  | (checked, none) =>
    let assembled := assemble scanned.1 checked
    let packaged := package settings assembled.2
    let program := { assembled.1 with exposedName := packaged.exposedName }
    (.ok ⟨program, scanned.1, packaged⟩, packaged.log)

/-- Build a page that was read already; write the files if asked to. -/
def buildPage (disk : Disk) (settings : Settings) (registry : Registry) (page : Page)
    (write : Bool) : Building :=
  match plan settings registry page with
  | (.error violation, log) => ⟨disk, .error (.build (.violation violation)), log⟩
  | (.ok planned, log) =>
    let product (written : List Path) : Product :=
      ⟨planned.program, planned.page, planned.facts.flags, planned.facts.exposedName,
        planned.facts.warnings, written⟩
    if write then
      let writing := writeAll disk
        (artifacts planned.page planned.facts settings planned.program)
      ⟨writing.disk, writing.result.map product, log ++ writing.log⟩
    else ⟨disk, .ok (product []), log⟩

/-- Build the page that the settings name. -/
def build (disk : Disk) (settings : Settings) (registry : Registry) (write : Bool) : Building :=
  let opening : LogRecord := ⟨.info, "Loading " ++ settings.source.text⟩
  match loadPage disk settings.source settings.source.text with
  | .error failure => ⟨disk, .error failure, [opening]⟩
  | .ok page =>
    let built := buildPage disk settings registry page write
    { built with log := opening :: built.log }

/-- Load settings and registry, unless one is given, and build. -/
def buildFrom (disk : Disk) (environment : Environment) (given : Keyed Json)
    (registry : Option Registry) : Building :=
  let prepared := (loadSettings disk environment given).andThen fun settings =>
    match registry, settings.registry with
    | some registry, _ => .ok (settings, registry)
    | none, none => .ok (settings, Registry.base)
    | none, some path =>
      (loadRegistry disk path path.text).andThen fun registry => .ok (settings, registry)
  match prepared.result with
  | .error failure => ⟨disk, .error failure, prepared.log⟩
  | .ok (settings, registry) =>
    let built := build disk settings registry true
    { built with log := prepared.log ++ built.log }

end PageCompiler.Build
