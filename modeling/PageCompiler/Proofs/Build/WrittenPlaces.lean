import PageCompiler.Proofs.Build.Outputs

/-!
# The places that files are written to

A path none of whose names means "up" leads to the place that its names spell, or to none, whatever
is on the disk (`locate_eq_ok_of_down`). So it is known beforehand which files go to one place : of
these the last is what the place holds when writing returns, and when a file cannot be written, all
places of the files before it are empty (`files_of_writeAll`). Every other file is as it was.

A relative path and one from the root can spell one place, and so can roots of one and of two
slashes; files are told apart by their places here, not by their paths.
-/

namespace PageCompiler

namespace Disk

/-! ## Places that are spelled -/

/-- The place that the names of a path spell, if each of them leads further down. -/
def spelled (disk : Disk) (path : Path) : Place :=
  (if path.root = "" then disk.current else []) ++ path.names

theorem walk_eq_ok_of_down {disk : Disk} : ∀ {names : List String} {directory place : Place},
    Path.up ∉ names → disk.walk directory names = .ok place → place = directory ++ names
  | [], directory, place, _, h => by
    rw [List.append_nil]
    exact (Except.ok.inj h).symm
  | first :: rest, directory, place, hup, h => by
    obtain ⟨below, hfirst, -, hrest⟩ := walk_cons_iff.1 h
    have hne : first ≠ Path.up := fun he => hup (he ▸ List.mem_cons_self)
    rw [walk_eq_ok_of_down (List.not_mem_of_not_mem_cons hup) hrest, child_eq_ok_of_ne hne hfirst,
      List.append_assoc, List.singleton_append]

/-- A path that leads down names the place that it spells, if it names any. -/
theorem locate_eq_ok_of_down {disk : Disk} {path : Path} {place : Place}
    (hup : Path.up ∉ path.names) (h : disk.locate path = .ok place) : place = disk.spelled path :=
  walk_eq_ok_of_down hup (locate_eq_ok h).1

theorem Grows.spelled {disk later : Disk} (h : Grows disk later) (path : Path) :
    later.spelled path = disk.spelled path := by
  rw [Disk.spelled, Disk.spelled, h.current]

theorem Grows.spelled_of_locate {disk later : Disk} (h : Grows disk later) {path : Path}
    {place : Place} (hup : Path.up ∉ path.names) (hlocate : later.locate path = .ok place) :
    disk.spelled path = place :=
  (h.spelled path).symm.trans (locate_eq_ok_of_down hup hlocate).symm

/-! ## Deleted files -/

/-- Whatever is there after a deletion was there before. -/
theorem at?_of_removeFile {disk : Disk} {path : Path} {place : Place} {entry : DiskEntry}
    (h : (disk.removeFile path).at? place = some entry) : disk.at? place = some entry := by
  unfold removeFile at h
  split at h
  · exact h
  · next found _ =>
    split at h
    · next hfile =>
      have hno : disk.at? found ≠ some .directory := by simp [hfile]
      rw [at?_erase disk (ne_root_of_at? hno)] at h
      split at h
      · cases h
      · exact h
    · exact h

theorem at?_of_foldl_removeFile {place : Place} {entry : DiskEntry} :
    ∀ {paths : List Path} {disk : Disk},
      (paths.foldl removeFile disk).at? place = some entry → disk.at? place = some entry
  | [], _, h => h
  | _ :: _, _, h => at?_of_removeFile (at?_of_foldl_removeFile h)

theorem find_of_at? {disk : Disk} {path : Path} {place : Place}
    (hlocate : disk.locate path = .ok place) (hat : disk.at? place = none) :
    disk.find path = .error (.fault .missing) := by
  rw [find, hlocate]
  dsimp only
  rw [hat]

end Disk

namespace Build

open Disk

/-! ## Every ending of a writing -/

/-- However writing ends, no directory is gone. -/
theorem grows_writeAfter : ∀ (done : List Path) (disk : Disk) (artifacts : List Artifact),
    Grows disk (writeAfter done disk artifacts).disk
  | _, disk, [] => .refl disk
  | done, disk, artifact :: rest => by
    rw [writeAfter]
    split
    · next hwrite => exact (writeText_error hwrite).toGrows.trans (grows_foldl_removeFile done _)
    · next hwrite => exact (writeText_error hwrite).toGrows
    · next hwrite => exact (writeText_ok hwrite).1.trans (grows_writeAfter _ _ rest)

section

variable {disk after left : Disk} {written : List Artifact}

/-- A file that was written is there, or a later one is in its place. -/
theorem Wrote.exists_file (h : Wrote disk written after) : ∀ artifact ∈ written,
    ∃ place bytes, after.locate artifact.path = .ok place ∧ after.fileAt? place = some bytes := by
  induction h with
  | nil => exact fun _ hmem => absurd hmem List.not_mem_nil
  | @cons disk next last artifact rest first others ih =>
    intro found hmem
    rcases List.mem_cons.1 hmem with rfl | hmem
    · obtain ⟨-, place, hplace, hfiles⟩ := writeText_ok first
      have hstays := others.grows.locate hplace
      by_cases hlater : last.Names (rest.map Artifact.path) place
      · obtain ⟨path, hpath, hnamed⟩ := hlater
        obtain ⟨other, hother, rfl⟩ := List.mem_map.1 hpath
        obtain ⟨place', bytes, hplace', hbytes⟩ := ih other hother
        obtain rfl := Except.ok.inj (hnamed.symm.trans hplace')
        exact ⟨place, bytes, hstays, hbytes⟩
      · refine ⟨place, encode found.content, hstays, ?_⟩
        rw [others.files hlater, hfiles, if_pos rfl]
    · exact ih found hmem

/-- Files that are deleted after they were written are missing. -/
theorem Wrote.find_deleted (h : Wrote disk written after) (hadds : AddsDirectories after left)
    {artifact : Artifact} (hmem : artifact ∈ written) :
    ((written.map Artifact.path).foldl removeFile left).find artifact.path =
      .error (.fault .missing) := by
  obtain ⟨place, bytes, hplace, hbytes⟩ := h.exists_file artifact hmem
  have hleft := hadds.toGrows.locate hplace
  have hlocate := (grows_foldl_removeFile (written.map Artifact.path) left).locate hleft
  have hgone := (h.files_deleted hadds rfl place).1 ⟨_, List.mem_map_of_mem hmem, hlocate⟩
  refine find_of_at? hlocate ?_
  cases hat : ((written.map Artifact.path).foldl removeFile left).at? place with
  | none => rfl
  | some entry =>
    -- it was there before the deletion, so it is the file, and the file is gone
    have hfile := fileAt?_eq_some_iff.1 ((hadds.files place).trans hbytes)
    obtain rfl := Option.some.inj ((at?_of_foldl_removeFile hat).symm.trans hfile)
    rw [fileAt?_eq_some_iff.2 hat] at hgone
    cases hgone

/-- A place that no path spells is named by none. -/
theorem not_names_of_spelled (hgrows : Grows disk after) {artifacts : List Artifact}
    (hup : ∀ artifact ∈ artifacts, Path.up ∉ artifact.path.names) {place : Place}
    (hno : ∀ artifact ∈ artifacts, disk.spelled artifact.path ≠ place) :
    ¬after.Names (artifacts.map Artifact.path) place := by
  rintro ⟨path, hpath, hlocate⟩
  obtain ⟨artifact, hartifact, rfl⟩ := List.mem_map.1 hpath
  exact hno artifact hartifact (hgrows.spelled_of_locate (hup artifact hartifact) hlocate)

end

/-- What writing leaves. When it returns, it returns the paths in order, every path holds the content
of the last file that goes to its place, and a file where none goes is as it was. When a fault of the
disk ends it at some file, none of the paths before that one exists, and every file at another place
than theirs is as it was. No directory is gone, however it ends. -/
theorem files_of_writeAll {disk : Disk} {artifacts : List Artifact}
    (hup : ∀ artifact ∈ artifacts, Path.up ∉ artifact.path.names) :
    (∀ paths, (writeAll disk artifacts).result = .ok paths →
      paths = artifacts.map Artifact.path ∧
      (∀ before artifact later, artifacts = before ++ artifact :: later →
        (∀ other ∈ later, disk.spelled other.path ≠ disk.spelled artifact.path) →
          (writeAll disk artifacts).disk.read artifact.path = .ok (encode artifact.content)) ∧
      ∀ place, (∀ artifact ∈ artifacts, disk.spelled artifact.path ≠ place) →
        (writeAll disk artifacts).disk.fileAt? place = disk.fileAt? place) ∧
    (∀ path fault, (writeAll disk artifacts).result =
        .error (.build (.unwritableArtifact path fault)) →
      ∃ written failing rest, artifacts = written ++ failing :: rest ∧ failing.path = path ∧
        (∀ artifact ∈ written,
          (writeAll disk artifacts).disk.find artifact.path = .error (.fault .missing)) ∧
        ∀ place, (∀ artifact ∈ written, disk.spelled artifact.path ≠ place) →
          (writeAll disk artifacts).disk.fileAt? place = disk.fileAt? place) ∧
    ∀ place, disk.at? place = some .directory →
      (writeAll disk artifacts).disk.at? place = some .directory := by
  have hgrows : Grows disk (writeAll disk artifacts).disk := grows_writeAfter [] disk artifacts
  refine ⟨fun paths hreturns => ?_, fun path fault hfails => ?_, hgrows.directories⟩
  · have hwrote : Wrote disk artifacts (writeAll disk artifacts).disk :=
      wrote_of_writeAfter [] hreturns
    have hpaths := Except.ok.inj (hreturns.symm.trans (hwrote.writeAfter []).2)
    refine ⟨hpaths, fun before artifact later hsplit hlast => ?_, fun place hno =>
      hwrote.files (not_names_of_spelled hgrows hup hno)⟩
    have hmem : ∀ other ∈ artifact :: later, Path.up ∉ other.path.names := fun other ho =>
      hup other (hsplit ▸ List.mem_append_right before ho)
    have hcut : Wrote disk (before ++ artifact :: later) (writeAll disk artifacts).disk :=
      hsplit ▸ hwrote
    refine Wrote.read before hcut fun other ho hsame => hlast other ho ?_
    obtain ⟨place, hplace, hother⟩ := hsame
    rw [hgrows.spelled_of_locate (hmem artifact List.mem_cons_self) hplace,
      hgrows.spelled_of_locate (hmem other (List.mem_cons_of_mem _ ho)) hother]
  · obtain ⟨written, failing, rest, reached, left, e, hsplit, hwrote, hwrite, hstops⟩ :=
      writeAfter_error [] hfails
    have hadds := writeText_error hwrite
    have hup' : ∀ artifact ∈ written, Path.up ∉ artifact.path.names := fun artifact hmem =>
      hup artifact (hsplit ▸ List.mem_append_left _ hmem)
    rw [writeAll] at hgrows ⊢
    generalize (writeAfter [] disk artifacts).disk = after at hstops hgrows
    rw [List.nil_append] at hstops
    cases hstops
    exact ⟨written, failing, rest, hsplit, rfl, fun artifact hmem => hwrote.find_deleted hadds hmem,
      fun place hno => (hwrote.files_deleted hadds rfl place).2
        (not_names_of_spelled hgrows hup' hno)⟩

/-- A file, a directory, and another file. -/
def shelfDisk : Disk :=
  ⟨[(["b"], .file (encode "old")), (["d"], .directory), (["c"], .file (encode "kept"))], []⟩

/-- Three files, two of them for one place in a directory that is missing. -/
def shelfArtifacts : List Artifact :=
  [⟨.ofText "e/a.js", "1"⟩, ⟨.ofText "b", "2"⟩, ⟨.ofText "/e/a.js", "3"⟩]

/-- The files can be written, but not a further one in the place of the directory. -/
theorem files_of_writeAll_shelf :
    (writeAll shelfDisk shelfArtifacts).disk.read (.ofText "/e/a.js") = .ok (encode "3") ∧
      (writeAll shelfDisk shelfArtifacts).disk.fileAt? ["c"] = some (encode "kept") ∧
      (∀ artifact ∈ shelfArtifacts,
        (writeAll shelfDisk (shelfArtifacts ++ [⟨.ofText "d", "4"⟩])).disk.find artifact.path =
          .error (.fault .missing)) ∧
      (writeAll shelfDisk (shelfArtifacts ++ [⟨.ofText "d", "4"⟩])).disk.fileAt? ["c"] =
        some (encode "kept") := by
  have hreturns : (writeAll shelfDisk shelfArtifacts).result =
      .ok (shelfArtifacts.map Artifact.path) := by decide +kernel
  have hfails : (writeAll shelfDisk (shelfArtifacts ++ [⟨.ofText "d", "4"⟩])).result =
      .error (.build (.unwritableArtifact (.ofText "d") .isDirectory)) := by decide +kernel
  obtain ⟨-, hread, hkept⟩ := (files_of_writeAll (by decide +kernel)).1 _ hreturns
  obtain ⟨written, failing, rest, hsplit, hpath, hgone, hkept'⟩ :=
    (files_of_writeAll (by decide +kernel)).2.1 _ _ hfails
  have hnot : ∀ artifact ∈ shelfArtifacts, artifact.path ≠ .ofText "d" := by decide +kernel
  have hwritten : written = shelfArtifacts := by
    rcases List.append_eq_append_iff.1 hsplit with ⟨more, rfl, hmore⟩ | ⟨more, hall, hmore⟩
    · cases more <;> simp_all
    · cases more with
      | nil => rw [hall, List.append_nil]
      | cons first more =>
        obtain ⟨rfl, -⟩ := List.cons.inj hmore
        exact absurd hpath (hnot _ (hall ▸ by simp))
  subst hwritten
  exact ⟨hread (shelfArtifacts.take 2) ⟨.ofText "/e/a.js", "3"⟩ [] rfl (by simp),
    (hkept ["c"] (by decide +kernel)).trans (by decide +kernel), hgone,
    (hkept' ["c"] (by decide +kernel)).trans (by decide +kernel)⟩

end Build

end PageCompiler
