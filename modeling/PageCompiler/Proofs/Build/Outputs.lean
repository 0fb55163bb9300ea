import PageCompiler.Proofs.Build.ProgramParts
import PageCompiler.Proofs.Build.Writing
import PageCompiler.Proofs.OutputPath

/-!
# What a build leaves on the disk

A build writes its output and then, for a script that does not embed the markup, the page beside it.
When it returns, the page is at its path, and so is the output unless its path ends in `.html` and
the page is written over it (`outputs_of_run`).

The source is a file like any other to this. It is as it was unless one of the two paths leads to
its place; then it holds what was written there last, or is deleted when the page cannot be written
(`source_of_build`).
-/

namespace PageCompiler.Build

open Disk

/-! ## Written files -/

namespace Wrote

variable {disk after : Disk}

/-- A file holds its content, unless a later one goes to the same place. -/
theorem read (before : List Artifact) {later : List Artifact} {artifact : Artifact}
    (h : Wrote disk (before ++ artifact :: later) after)
    (hno : ∀ other ∈ later, ¬after.SamePlace artifact.path other.path) :
    after.read artifact.path = .ok (encode artifact.content) := by
  obtain ⟨place, hplace⟩ := h.namesAll artifact.path
    (List.mem_map_of_mem (List.mem_append_right _ List.mem_cons_self))
  refine read_eq_ok_iff.2 ⟨place, hplace, h.holds hplace ?_⟩
  rintro ⟨path, hpath, hnamed⟩
  obtain ⟨other, hother, rfl⟩ := List.mem_map.1 hpath
  exact hno other hother ⟨place, hplace, hnamed⟩

/-- A file to whose place none of the paths leads is not touched. -/
theorem read_other {written : List Artifact} (h : Wrote disk written after) {path : Path}
    {bytes : List UInt8} (hread : disk.read path = .ok bytes)
    (hno : ∀ artifact ∈ written, ¬after.SamePlace path artifact.path) :
    after.read path = .ok bytes := by
  obtain ⟨place, hplace, hbytes⟩ := read_eq_ok_iff.1 hread
  have hstays := h.grows.locate hplace
  refine read_eq_ok_iff.2 ⟨place, hstays, (h.files ?_).trans hbytes⟩
  rintro ⟨other, hother, hnamed⟩
  obtain ⟨artifact, hartifact, rfl⟩ := List.mem_map.1 hother
  exact hno artifact hartifact ⟨place, hstays, hnamed⟩

theorem nul_not_mem {written : List Artifact} (h : Wrote disk written after) {artifact : Artifact}
    (hmem : artifact ∈ written) : '\x00' ∉ artifact.path.text.toList := by
  obtain ⟨place, hplace⟩ := h.namesAll artifact.path (List.mem_map_of_mem hmem)
  exact (locate_eq_ok hplace).2

/-- When the only file that was written is deleted, it is missing, also under other paths to its
place, and any other file is as it was. -/
theorem read_deleted {main : Artifact} {left : Disk} (h : Wrote disk [main] after)
    (hadds : AddsDirectories after left) {path : Path} {bytes : List UInt8}
    (hread : disk.read path = .ok bytes) :
    (left.SamePlace path main.path → (left.removeFile main.path).SamePlace path main.path ∧
      (left.removeFile main.path).read path = .error (.fault .missing)) ∧
    (¬left.SamePlace path main.path → (left.removeFile main.path).read path = .ok bytes) := by
  have hnamed := hadds.toGrows.namesAll h.namesAll main.path
    (List.mem_map_of_mem List.mem_cons_self)
  constructor
  · intro hsame
    have hwritten : left.read path = .ok (encode main.content) := by
      rw [hsame.read]
      exact hadds.read (h.read [] fun _ ho => absurd ho List.not_mem_nil)
    exact ⟨(grows_removeFile left main.path).samePlace hsame,
      read_removeFile_of_samePlace hsame hwritten⟩
  · intro hother
    have hkept : after.read path = .ok bytes := by
      refine h.read_other hread fun artifact hartifact hthere => hother ?_
      obtain rfl := List.mem_singleton.1 hartifact
      exact hadds.toGrows.samePlace hthere
    exact read_removeFile_of_not_samePlace hnamed hother (hadds.read hkept)

end Wrote

/-- Where no path holds a NUL, writing fails for faults of the disk only. -/
theorem writeAfter_ne_nul : ∀ (done : List Path) (disk : Disk) {artifacts : List Artifact},
    (∀ artifact ∈ artifacts, '\x00' ∉ artifact.path.text.toList) →
      (writeAfter done disk artifacts).result ≠ .error .nulInPath
  | _, _, [], _ => by simp [writeAfter]
  | done, disk, artifact :: rest, h => by
    rw [writeAfter]
    split
    · simp
    · next hwrite =>
      have hne := writeText_ne_nul disk (h artifact List.mem_cons_self) artifact.content
      rw [hwrite] at hne
      exact absurd rfl hne
    · exact writeAfter_ne_nul _ _ fun other ho => h other (List.mem_cons_of_mem _ ho)

/-! ## The files of a build -/

/-- What the output of a build holds. -/
def rendered (target : Target) (program : Program) : String :=
  if target.isJs then program.script else program.toText Program.defaultIndent

/-- The page of the product goes into a file of its own. -/
def Product.HasPage (product : Product) (settings : Settings) : Prop :=
  settings.target = .js ∧ embedHtml ∉ product.flags

instance (product : Product) (settings : Settings) : Decidable (product.HasPage settings) :=
  inferInstanceAs (Decidable (_ ∧ _))

/-- The file of the output. -/
def outputFile (settings : Settings) (product : Product) : Artifact :=
  ⟨.ofText settings.outputPath, rendered settings.target product.program⟩

/-- The file of the page. -/
def pageFile (settings : Settings) (product : Product) : Artifact :=
  ⟨pageBeside settings.outputPath, product.page.html⟩

theorem path_outputFile (settings : Settings) (product : Product) :
    (outputFile settings product).path = .ofText settings.outputPath :=
  rfl

theorem content_outputFile (settings : Settings) (product : Product) :
    (outputFile settings product).content = rendered settings.target product.program := by
  rw [outputFile]

theorem path_pageFile (settings : Settings) (product : Product) :
    (pageFile settings product).path = pageBeside settings.outputPath :=
  rfl

theorem content_pageFile (settings : Settings) (product : Product) :
    (pageFile settings product).content = product.page.html := by
  rw [pageFile]

/-- The file of the page, if it gets one. -/
def pageFile? (settings : Settings) (product : Product) : Option Artifact :=
  if product.HasPage settings then some (pageFile settings product) else none

/-- The files of a build that returns, in the order in which they are written. -/
def files (settings : Settings) (product : Product) : List Artifact :=
  outputFile settings product :: (pageFile? settings product).toList

theorem mem_pageFile? {settings : Settings} {product : Product} {beside : Artifact}
    (h : beside ∈ (pageFile? settings product).toList) :
    product.HasPage settings ∧ beside = pageFile settings product := by
  unfold pageFile? at h
  split at h
  · next hpage => exact ⟨hpage, List.mem_singleton.1 h⟩
  · cases h

/-- A file with another before it is the page, and the output is before it. -/
theorem page_of_files {settings : Settings} {product : Product} {first file : Artifact}
    {others rest : List Artifact} (h : files settings product = first :: others ++ file :: rest) :
    product.HasPage settings ∧ first = outputFile settings product ∧ others = [] ∧
      file = pageFile settings product := by
  obtain ⟨hfirst, hrest⟩ := List.cons.inj h
  unfold pageFile? at hrest
  split at hrest
  · next hpage =>
    cases others with
    | nil => exact ⟨hpage, hfirst.symm, rfl, (List.cons.inj hrest).1.symm⟩
    | cons second others => exact absurd (List.cons.inj hrest).2 (by simp)
  · exact absurd hrest (by simp)

/-- When the path of the output holds no NUL, that of the page does not, either. -/
theorem nul_not_mem_files {settings : Settings} {product : Product}
    (h : '\x00' ∉ (outputFile settings product).path.text.toList) :
    ∀ artifact ∈ files settings product, '\x00' ∉ artifact.path.text.toList := by
  intro artifact hartifact
  rcases List.mem_cons.1 hartifact with rfl | hartifact
  · exact h
  · rw [path_outputFile] at h
    rw [(mem_pageFile? hartifact).2, path_pageFile]
    exact nul_not_mem_pageBeside h

/-- When writing the files fails, one that was there is as it was, unless the output was written
over it and deleted with it because the page could not be written. -/
theorem read_of_fails {disk : Disk} {settings : Settings} {product : Product} {failure : Failure}
    (h : (writeAll disk (files settings product)).result = .error failure) {path : Path}
    {bytes : List UInt8} (hread : disk.read path = .ok bytes) :
    (writeAll disk (files settings product)).disk.read path = .ok bytes ∨
      settings.target = .js ∧
        (writeAll disk (files settings product)).disk.SamePlace path
          (.ofText settings.outputPath) ∧
        (writeAll disk (files settings product)).disk.read path = .error (.fault .missing) ∧
        ∃ fault, failure = .build (.unwritableArtifact (pageBeside settings.outputPath) fault) := by
  rw [writeAll] at h ⊢
  obtain ⟨written, failing, rest, reached, left, e, hsplit, hwrote, hfails, hstops⟩ :=
    writeAfter_error [] h
  have hadds := writeText_error hfails
  generalize (writeAfter [] disk (files settings product)).disk = after at hstops ⊢
  cases written with
  | nil =>
    cases hwrote
    have hafter : after = left := by cases hstops <;> rfl
    rw [hafter]
    exact .inl (hadds.read hread)
  | cons first others =>
    -- the output was written, and it is the page that cannot be
    obtain ⟨hpage, rfl, rfl, rfl⟩ := page_of_files hsplit
    have hfree := nul_not_mem_files (hwrote.nul_not_mem List.mem_cons_self)
    cases hstops with
    | nul => exact absurd h (writeAfter_ne_nul [] disk hfree)
    | fault fault =>
      obtain ⟨hgone, hkept⟩ := hwrote.read_deleted hadds hread
      rw [path_outputFile] at hgone hkept
      rw [List.nil_append, List.map_singleton, List.foldl_cons, List.foldl_nil, path_outputFile,
        path_pageFile]
      by_cases hsame : left.SamePlace path (.ofText settings.outputPath)
      · obtain ⟨hthere, hmissing⟩ := hgone hsame
        exact .inr ⟨hpage.1, hthere, hmissing, fault, rfl⟩
      · exact .inl (hkept hsame)

/-! ## Builds -/

theorem artifacts_of_plan {settings : Settings} {registry : Component.Registry} {page : Page}
    {planned : Plan} {log : Log} (h : plan settings registry page = (.ok planned, log))
    {written : List Path} : artifacts planned.page planned.facts settings planned.program =
      files settings ⟨planned.program, planned.page, planned.facts.flags, planned.facts.exposedName,
        planned.facts.warnings, written⟩ := by
  have htarget := target_of_plan h
  have hpage : (settings.target.isJs && !planned.facts.embeds) = true ↔
      settings.target = .js ∧ embedHtml ∉ planned.facts.flags := by
    rw [← htarget, waits_iff, embeds_eq_false]
  unfold artifacts files outputFile rendered pageArtifact? pageFile?
  rw [htarget]
  refine congrArg (_ :: Option.toList ·) ?_
  split
  · next hwaits => exact (if_pos (hpage.1 hwaits)).symm
  · next hwaits => exact (if_neg (mt hpage.2 hwaits)).symm

/-- A build of a given page stops before the first file and leaves the disk alone, or it writes its
files, and then it returns just if they could be written. -/
theorem buildPage_cases (disk : Disk) (settings : Settings) (registry : Component.Registry)
    (page : Page) :
    (∃ failure, (buildPage disk settings registry page true).disk = disk ∧
      (buildPage disk settings registry page true).result = .error failure) ∨
    ∃ product, (buildPage disk settings registry page true).disk =
        (writeAll disk (files settings product)).disk ∧
      (buildPage disk settings registry page true).result =
        (writeAll disk (files settings product)).result.map fun written =>
          { product with artifacts := written } := by
  unfold buildPage
  split
  · exact .inl ⟨_, rfl, rfl⟩
  · next planned log hplan =>
    refine .inr ⟨⟨planned.program, planned.page, planned.facts.flags, planned.facts.exposedName,
        planned.facts.warnings, []⟩, ?_⟩
    rw [← artifacts_of_plan hplan]
    exact ⟨rfl, rfl⟩

/-- Build a page that is given, or else the one that the settings name, and write the files. -/
def run (disk : Disk) (settings : Settings) (registry : Component.Registry) :
    Option Page → Building
  | some page => buildPage disk settings registry page true
  | none => build disk settings registry true

/-- A build stops before the first file and leaves the disk alone, or it writes its files, and then
it returns just if they could be written. -/
theorem run_cases (disk : Disk) (settings : Settings) (registry : Component.Registry)
    (page? : Option Page) :
    (∃ failure, (run disk settings registry page?).disk = disk ∧
      (run disk settings registry page?).result = .error failure) ∨
    ∃ product, (run disk settings registry page?).disk =
        (writeAll disk (files settings product)).disk ∧
      (run disk settings registry page?).result =
        (writeAll disk (files settings product)).result.map fun written =>
          { product with artifacts := written } := by
  have hgiven : ∀ page, _ := buildPage_cases disk settings registry
  cases page? with
  | some page => exact hgiven page
  | none =>
    rw [run, build]
    split
    · exact .inl ⟨_, rfl, rfl⟩
    · next page _ =>
      dsimp only
      exact hgiven page

/-! ## What is left -/

section

variable {disk : Disk} {settings : Settings} {registry : Component.Registry} {page? : Option Page}

/-- A build that returns has written its files. -/
theorem wrote_of_run {product : Product}
    (h : (run disk settings registry page?).result = .ok product) :
    Wrote disk (files settings product) (run disk settings registry page?).disk := by
  obtain ⟨failure, -, hfails⟩ | ⟨made, hdisk, hresult⟩ := run_cases disk settings registry page?
  · rw [h] at hfails
    cases hfails
  · rw [h] at hresult
    obtain ⟨written, hwritten, rfl⟩ := map_eq_ok hresult.symm
    rw [hdisk]
    exact wrote_of_writeAfter [] hwritten

/-- The page is written last, so it is at its path. -/
theorem read_page_of_run {product : Product}
    (h : (run disk settings registry page?).result = .ok product)
    (hpage : product.HasPage settings) :
    (run disk settings registry page?).disk.read (pageBeside settings.outputPath) =
      .ok (encode product.page.html) := by
  have hwrote := wrote_of_run h
  rw [files, pageFile?, if_pos hpage] at hwrote
  have hread := Wrote.read [outputFile settings product] hwrote
    fun _ ho => absurd ho List.not_mem_nil
  rwa [path_pageFile, content_pageFile] at hread

/-- The output is at its path, unless the page was written over it. -/
theorem read_output_of_run {product : Product}
    (h : (run disk settings registry page?).result = .ok product)
    (hapart : ¬(product.HasPage settings ∧ (run disk settings registry page?).disk.SamePlace
      (.ofText settings.outputPath) (pageBeside settings.outputPath))) :
    (run disk settings registry page?).disk.read (.ofText settings.outputPath) =
      .ok (encode (rendered settings.target product.program)) := by
  have hwrote := wrote_of_run h
  rw [files, ← List.nil_append (_ :: _)] at hwrote
  have hread := hwrote.read [] fun beside hbeside hover => by
    obtain ⟨hpage, rfl⟩ := mem_pageFile? hbeside
    rw [path_outputFile, path_pageFile] at hover
    exact hapart ⟨hpage, hover⟩
  rwa [path_outputFile, content_outputFile] at hread

/-- What a build makes of a file that was there. -/
structure Building.MakesOf (built : Building) (settings : Settings) (path : Path)
    (bytes : List UInt8) : Prop where
  page : ∀ product, built.result = .ok product → product.HasPage settings →
    built.disk.SamePlace path (pageBeside settings.outputPath) →
    built.disk.read path = .ok (encode product.page.html)
  output : ∀ product, built.result = .ok product →
    ¬(product.HasPage settings ∧ built.disk.SamePlace path (pageBeside settings.outputPath)) →
    built.disk.SamePlace path (.ofText settings.outputPath) →
    built.disk.read path = .ok (encode (rendered settings.target product.program))
  kept : ∀ product, built.result = .ok product →
    ¬(product.HasPage settings ∧ built.disk.SamePlace path (pageBeside settings.outputPath)) →
    ¬built.disk.SamePlace path (.ofText settings.outputPath) → built.disk.read path = .ok bytes
  failed : ∀ failure, built.result = .error failure →
    built.disk.read path = .ok bytes ∨
      settings.target = .js ∧ built.disk.SamePlace path (.ofText settings.outputPath) ∧
        built.disk.read path = .error (.fault .missing) ∧
        ∃ fault, failure = .build (.unwritableArtifact (pageBeside settings.outputPath) fault)

theorem makesOf_run (page? : Option Page) {path : Path} {bytes : List UInt8}
    (hread : disk.read path = .ok bytes) :
    (run disk settings registry page?).MakesOf settings path bytes where
  page := fun product h hpage hsame => by
    rw [hsame.read]
    exact read_page_of_run h hpage
  output := fun product h hno hsame => by
    rw [hsame.read]
    exact read_output_of_run h fun hover => hno ⟨hover.1, hsame.trans hover.2⟩
  kept := fun product h hno hother => by
    refine (wrote_of_run h).read_other hread fun artifact hartifact hsame => ?_
    rcases List.mem_cons.1 hartifact with rfl | hartifact
    · exact hother hsame
    · obtain ⟨hpage, rfl⟩ := mem_pageFile? hartifact
      exact hno ⟨hpage, hsame⟩
  failed := fun failure h => by
    obtain ⟨earlier, hdisk, -⟩ | ⟨made, hdisk, hresult⟩ :=
      run_cases disk settings registry page?
    · exact .inl (hdisk.symm ▸ hread)
    · rw [h] at hresult
      rw [hdisk]
      exact read_of_fails (map_eq_error hresult.symm) hread

end

/-- When a build returns, the page is at its path if it goes into a file of its own. The output is
at its path, unless this is the page's and the page was written over it. -/
theorem outputs_of_run {disk : Disk} {settings : Settings} {registry : Component.Registry}
    {page? : Option Page} {product : Product}
    (h : (run disk settings registry page?).result = .ok product) :
    (product.HasPage settings → (run disk settings registry page?).disk.read
      (pageBeside settings.outputPath) = .ok (encode product.page.html)) ∧
    (run disk settings registry page?).disk.read (.ofText settings.outputPath) = .ok (encode
      (if product.HasPage settings ∧ pageExtension <:+ settings.outputPath.toList
        then product.page.html else rendered settings.target product.program)) := by
  obtain ⟨place, hplace⟩ := (wrote_of_run h).namesAll (.ofText settings.outputPath)
    (List.mem_map_of_mem List.mem_cons_self)
  refine ⟨read_page_of_run h, ?_⟩
  split
  · next hover =>
    rw [← pageBeside_of_suffix hover.2]
    exact read_page_of_run h hover.1
  · next hapart =>
    exact read_output_of_run h fun hover =>
      hapart ⟨hover.1, (samePlace_pageBeside_iff hplace).1 hover.2⟩

/-- The markup of a page that sets a flag. -/
def flaggedMarkup : String :=
  "<meta name=a content=compile-flag>x"

/-- A disk with the page on it. -/
def flaggedDisk : Disk :=
  ⟨[(["index.html"], .file (encode flaggedMarkup))], []⟩

/-- The settings of a build of the page into a script. -/
def scriptSettings (output : String) : Settings :=
  ⟨.ofText "index.html", .js, some output, none, [], none⟩

theorem outputs_of_run_script :
    ∃ product, (run flaggedDisk (scriptSettings "bin/app.js") .base none).result = .ok product ∧
      product.HasPage (scriptSettings "bin/app.js") ∧
      (run flaggedDisk (scriptSettings "bin/app.js") .base none).disk.read
        (.ofText "bin/app.html") = .ok (encode product.page.html) ∧
      (run flaggedDisk (scriptSettings "bin/app.js") .base none).disk.read
        (.ofText "bin/app.js") = .ok (encode product.program.script) := by
  have hrun : ((run flaggedDisk (scriptSettings "bin/app.js") .base none).result.toOption.any
      fun product => product.HasPage (scriptSettings "bin/app.js")) = true := by
    decide +kernel
  obtain ⟨product, hproduct, hpage⟩ := exists_ok_of_any hrun
  have hpage := of_decide_eq_true hpage
  obtain ⟨hbeside, houtput⟩ := outputs_of_run hproduct
  have hbesidePath : pageBeside (scriptSettings "bin/app.js").outputPath =
      .ofText "bin/app.html" := by decide +kernel
  rw [hbesidePath] at hbeside
  rw [if_neg fun h => absurd h.2 (by decide)] at houtput
  exact ⟨product, hproduct, hpage, hbeside hpage, houtput⟩

/-- The page is written over an output with its extension. -/
theorem output_lost : ¬∀ (disk : Disk) (settings : Settings) (registry : Component.Registry)
    (page? : Option Page) (product : Product),
    (run disk settings registry page?).result = .ok product →
      (run disk settings registry page?).disk.read (.ofText settings.outputPath) =
        .ok (encode (rendered settings.target product.program)) := by
  intro hkept
  have hrun : ((run flaggedDisk (scriptSettings "app.html") .base none).result.toOption.any
      fun product => (run flaggedDisk (scriptSettings "app.html") .base none).disk.read
        (.ofText "app.html") ≠ .ok (encode (rendered .js product.program))) = true := by
    decide +kernel
  obtain ⟨product, hproduct, hlost⟩ := exists_ok_of_any hrun
  exact of_decide_eq_true hlost (hkept _ _ _ _ product hproduct)

/-- The source is as it was, unless the output or the page beside it goes to its place. -/
theorem source_of_build {disk : Disk} {settings : Settings} {bytes : List UInt8}
    (hsource : disk.read settings.source = .ok bytes) (registry : Component.Registry) :
    (build disk settings registry true).MakesOf settings settings.source bytes :=
  makesOf_run none hsource

/-- The page is replaced by a build into a script of the same name beside it. -/
theorem source_of_build_script :
    flaggedDisk.read (scriptSettings "index.js").source = .ok (encode flaggedMarkup) ∧
    ∃ product, (build flaggedDisk (scriptSettings "index.js") .base true).result = .ok product ∧
      (build flaggedDisk (scriptSettings "index.js") .base true).disk.read (.ofText "index.html") =
        .ok (encode product.page.html) := by
  have hsource : flaggedDisk.read (scriptSettings "index.js").source =
      .ok (encode flaggedMarkup) := by decide +kernel
  have hrun : ((build flaggedDisk (scriptSettings "index.js") .base true).result.toOption.any
      fun product => product.HasPage (scriptSettings "index.js")) = true := by
    decide +kernel
  obtain ⟨product, hproduct, hpage⟩ := exists_ok_of_any hrun
  have hplace : (build flaggedDisk (scriptSettings "index.js") .base true).disk.locate
      (.ofText "index.html") = .ok ["index.html"] := by decide +kernel
  have hbeside : pageBeside (scriptSettings "index.js").outputPath = .ofText "index.html" := by
    decide +kernel
  have hmakes := source_of_build hsource .base
  exact ⟨hsource, product, hproduct, hmakes.page product hproduct (of_decide_eq_true hpage)
    ⟨["index.html"], hplace, hbeside ▸ hplace⟩⟩

/-- A build can change its own source. -/
theorem source_replaced : ¬∀ (disk : Disk) (settings : Settings) (registry : Component.Registry)
    (bytes : List UInt8), disk.read settings.source = .ok bytes →
      (build disk settings registry true).disk.read settings.source = .ok bytes := by
  intro hkept
  have hsource : flaggedDisk.read (scriptSettings "index.js").source =
      .ok (encode flaggedMarkup) := by decide +kernel
  exact absurd (hkept _ (scriptSettings "index.js") .base _ hsource) (by decide +kernel)

end PageCompiler.Build
