import Mathlib.Control.Monad.Basic
import PageCompiler.Build.Packaging
import PageCompiler.Proofs.Disk

/-!
# Writing the files of a build

Writing goes through the files in order and stops at the first that cannot be written. The files
before it are written one after another (`Wrote`), so writing them alone would have succeeded, and
they changed what their own paths name and no other file (`Wrote.files`).

What was written is deleted then, not put back : a file that was there before and that an earlier
file of the build has replaced is gone with it (`files_replaced_then_lost`). Every other file is as
it was (`files_of_writeAll_fails`).
-/

namespace PageCompiler.Build

open Disk

/-! ## Files that were written -/

/-- The files can be written one after another, and leave this disk. -/
inductive Wrote : Disk → List Artifact → Disk → Prop
  | nil (disk : Disk) : Wrote disk [] disk
  | cons {disk next last : Disk} {artifact : Artifact} {rest : List Artifact}
      (first : disk.writeText artifact.path artifact.content = (next, .ok ()))
      (others : Wrote next rest last) : Wrote disk (artifact :: rest) last

namespace Wrote

variable {disk after : Disk} {written : List Artifact}

theorem grows (h : Wrote disk written after) : Grows disk after := by
  induction h with
  | nil disk => exact .refl disk
  | cons first _ ih => exact (writeText_ok first).1.trans ih

/-- The path of every file names a place on the disk that is left. -/
theorem namesAll (h : Wrote disk written after) : after.NamesAll (written.map Artifact.path) := by
  induction h with
  | nil => exact fun _ hmem => absurd hmem (by simp)
  | cons first others ih =>
    obtain ⟨-, place, hplace, -⟩ := writeText_ok first
    intro path hpath
    rcases List.mem_cons.1 hpath with rfl | hpath
    · exact ⟨place, others.grows.locate hplace⟩
    · exact ih path hpath

/-- A place that no path names holds what it held. -/
theorem files (h : Wrote disk written after) {place : Place}
    (hno : ¬after.Names (written.map Artifact.path) place) :
    after.fileAt? place = disk.fileAt? place := by
  induction h with
  | nil => rfl
  | cons first others ih =>
    obtain ⟨-, named, hnamed, hfiles⟩ := writeText_ok first
    have hother : place ≠ named := by
      rintro rfl
      exact hno ⟨_, List.mem_cons_self, others.grows.locate hnamed⟩
    rw [ih fun ⟨path, hpath, hp⟩ => hno ⟨path, List.mem_cons_of_mem _ hpath, hp⟩, hfiles,
      if_neg hother]

theorem writeAfter (h : Wrote disk written after) : ∀ done : List Path,
    (Build.writeAfter done disk written).disk = after ∧
      (Build.writeAfter done disk written).result = .ok (done ++ written.map Artifact.path) := by
  induction h with
  | nil disk => exact fun done => ⟨rfl, by rw [List.map_nil, List.append_nil]; rfl⟩
  | @cons disk next last artifact rest first _ ih =>
    intro done
    obtain ⟨hdisk, hresult⟩ := ih (done ++ [artifact.path])
    rw [Build.writeAfter, first]
    refine ⟨hdisk, hresult.trans ?_⟩
    rw [List.append_assoc, List.singleton_append, List.map_cons]

/-- The last of the files that go to one place is what the place holds. -/
theorem holds {artifact : Artifact} {later : List Artifact} {place : Place} :
    ∀ {before : List Artifact} {disk : Disk}, Wrote disk (before ++ artifact :: later) after →
      after.locate artifact.path = .ok place → ¬after.Names (later.map Artifact.path) place →
        after.fileAt? place = some (encode artifact.content)
  | [], _, .cons first others, hplace, hno => by
    obtain ⟨-, named, hnamed, hfiles⟩ := writeText_ok first
    obtain rfl := Except.ok.inj ((others.grows.locate hnamed).symm.trans hplace)
    rw [others.files hno, hfiles, if_pos rfl]
  | _ :: _, _, .cons _ others, hplace, hno => holds others hplace hno

end Wrote

/-- Writing that succeeds has written every file. -/
theorem wrote_of_writeAfter : ∀ (done : List Path) {disk : Disk} {artifacts : List Artifact}
    {paths : List Path}, (writeAfter done disk artifacts).result = .ok paths →
      Wrote disk artifacts (writeAfter done disk artifacts).disk
  | _, disk, [], _, _ => .nil disk
  | done, disk, artifact :: rest, paths, h => by
    rw [writeAfter] at h ⊢
    split at h
    · cases h
    · cases h
    · next next hwrite => exact .cons hwrite (wrote_of_writeAfter (done ++ [artifact.path]) h)

/-! ## The file that cannot be written -/

/-- How writing fails at a file: the failure, and the disk after it. A fault of the disk deletes
what was written before, and a path that is none does not. -/
inductive Stops (path : Path) (before : List Path) (left : Disk) : Disk → Failure → Prop
  | fault (fault : DiskFault) :
      Stops path before left (before.foldl removeFile left)
        (.build (.unwritableArtifact path fault))
  | nul : Stops path before left left .nulInPath

theorem writeAfter_error : ∀ (done : List Path) {disk : Disk} {artifacts : List Artifact}
    {failure : Failure}, (writeAfter done disk artifacts).result = .error failure →
    ∃ written failing rest reached left e, artifacts = written ++ failing :: rest ∧
      Wrote disk written reached ∧
      reached.writeText failing.path failing.content = (left, .error e) ∧
      Stops failing.path (done ++ written.map Artifact.path) left
        (writeAfter done disk artifacts).disk failure
  | _, _, [], _, h => by cases h
  | done, disk, artifact :: rest, failure, h => by
    rw [writeAfter] at h ⊢
    split at h
    · next left fault hwrite =>
      cases h
      refine ⟨[], artifact, rest, disk, left, .fault fault, rfl, .nil disk, hwrite, ?_⟩
      rw [List.map_nil, List.append_nil]
      exact .fault fault
    · next left hwrite =>
      cases h
      exact ⟨[], artifact, rest, disk, left, .nulInPath, rfl, .nil disk, hwrite, .nul⟩
    · next next hwrite =>
      obtain ⟨written, failing, rest, reached, left, e, rfl, hwrote, hfails, hstops⟩ :=
        writeAfter_error (done ++ [artifact.path]) h
      refine ⟨artifact :: written, failing, rest, reached, left, e, rfl, .cons hwrite hwrote,
        hfails, ?_⟩
      rw [List.map_cons, List.append_cons]
      exact hstops

/-! ## Failed writing -/

section

variable {disk reached left : Disk} {written : List Artifact}

/-- Making directories for the next file leaves what was not written as it was. -/
theorem Wrote.files_left (h : Wrote disk written reached) (hadds : AddsDirectories reached left)
    {place : Place} (hno : ¬left.Names (written.map Artifact.path) place) :
    left.fileAt? place = disk.fileAt? place := by
  rw [hadds.toGrows.names_iff h.namesAll] at hno
  exact (hadds.files place).trans (h.files hno)

/-- Deleting what was written leaves no file there and everything else as it was. -/
theorem Wrote.files_deleted (h : Wrote disk written reached) (hadds : AddsDirectories reached left)
    {after : Disk} (hafter : after = (written.map Artifact.path).foldl removeFile left)
    (place : Place) :
    (after.Names (written.map Artifact.path) place → after.fileAt? place = none) ∧
      (¬after.Names (written.map Artifact.path) place →
        after.fileAt? place = disk.fileAt? place) := by
  have hall := hadds.toGrows.namesAll h.namesAll
  obtain ⟨hgone, hkept⟩ := fileAt?_foldl_removeFile place (written.map Artifact.path) hall
  rw [hafter, (grows_foldl_removeFile (written.map Artifact.path) left).names_iff hall]
  exact ⟨hgone, fun hno => (hkept hno).trans (h.files_left hadds hno)⟩

end

end PageCompiler.Build
