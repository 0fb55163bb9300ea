import PageCompiler.Disk

/-!
# Files and directories of a disk

What each operation does to the files of a disk, told place by place (`Disk.fileAt?`). Making
directories changes no file (`addsDirectories_makeDirectories`), writing a text changes the one that
its path names (`writeText_ok`), and so does deleting (`fileAt?_removeFile`).

No operation takes a directory away (`Grows`). So what a path names once it names ever after,
whatever is written or deleted in between (`Grows.locate`), and deleting the files of many paths one
by one deletes what they named at the start (`fileAt?_foldl_removeFile`). What is read is the file
at the place that the path names (`read_eq_ok_iff`), whatever the path.
-/

namespace PageCompiler

/-- The bytes of a file. -/
def DiskEntry.bytes? : DiskEntry → Option (List UInt8)
  | .directory => none
  | .file bytes => some bytes

namespace Disk

/-- The bytes of the file at a place. -/
def fileAt? (disk : Disk) (place : Place) : Option (List UInt8) :=
  (disk.at? place).bind DiskEntry.bytes?

/-! ## Places -/

theorem lookup_filter_ne (place other : Place) : ∀ entries : List (Place × DiskEntry),
    (entries.filter fun entry => entry.1 ≠ place).lookup other =
      if other = place then none else entries.lookup other
  | [] => by simp
  | (held, entry) :: rest => by
    have ih := lookup_filter_ne place other rest
    rw [List.filter_cons]
    by_cases hp : held = place
    · rw [if_neg (by simpa using hp), ih]
      split
      · rfl
      · next ho => rw [List.lookup_cons, beq_false_of_ne (hp ▸ ho)]
    · rw [if_pos (by simpa using hp), List.lookup_cons, List.lookup_cons, ih]
      by_cases ho : other = held
      · have hne : other ≠ place := fun he => hp (ho.symm.trans he)
        rw [if_neg hne, if_neg hne]
      · rw [beq_false_of_ne ho]

theorem at?_root (disk : Disk) : disk.at? [] = some .directory :=
  if_pos rfl

section

variable (disk : Disk) {place : Place} (hroot : place ≠ []) (other : Place)
include hroot

theorem at?_put (entry : DiskEntry) : (disk.put place entry).at? other =
    if other = place then some entry else disk.at? other := by
  unfold at? put
  by_cases ho : other = place
  · rw [if_neg (ho ▸ hroot), if_pos ho, List.lookup_cons, beq_iff_eq.2 ho]
  · rw [if_neg ho, List.lookup_cons, beq_false_of_ne ho, lookup_filter_ne, if_neg ho]

theorem at?_erase : (disk.erase place).at? other =
    if other = place then none else disk.at? other := by
  unfold at? erase
  by_cases ho : other = place
  · rw [if_neg (ho ▸ hroot), if_pos ho, lookup_filter_ne, if_pos ho]
  · rw [if_neg ho, lookup_filter_ne, if_neg ho]

theorem fileAt?_put (entry : DiskEntry) : (disk.put place entry).fileAt? other =
    if other = place then entry.bytes? else disk.fileAt? other := by
  unfold fileAt?
  rw [at?_put disk hroot]
  split <;> rfl

theorem fileAt?_erase : (disk.erase place).fileAt? other =
    if other = place then none else disk.fileAt? other := by
  unfold fileAt?
  rw [at?_erase disk hroot]
  split <;> rfl

end

theorem ne_root_of_at? {disk : Disk} {place : Place} (h : disk.at? place ≠ some .directory) :
    place ≠ [] :=
  fun hroot => h (hroot ▸ at?_root disk)

/-! ## Directories stay -/

/-- Some of the paths names the place. -/
def Names (disk : Disk) (paths : List Path) (place : Place) : Prop :=
  ∃ path ∈ paths, disk.locate path = .ok place

/-- Each of the paths names a place. -/
def NamesAll (disk : Disk) (paths : List Path) : Prop :=
  ∀ path ∈ paths, ∃ place, disk.locate path = .ok place

/-- A later state of a disk: relative paths start where they did, and no directory is gone. -/
structure Grows (disk later : Disk) : Prop where
  current : later.current = disk.current
  directories : ∀ place, disk.at? place = some .directory → later.at? place = some .directory

namespace Grows

variable {disk later last : Disk}

theorem refl (disk : Disk) : Grows disk disk :=
  ⟨rfl, fun _ h => h⟩

theorem trans (h : Grows disk later) (hl : Grows later last) : Grows disk last :=
  ⟨hl.current.trans h.current, fun place hp => hl.directories place (h.directories place hp)⟩

theorem put {place : Place} (h : disk.at? place ≠ some .directory) (entry : DiskEntry) :
    Grows disk (disk.put place entry) := by
  refine ⟨rfl, fun other ho => ?_⟩
  rw [at?_put disk (ne_root_of_at? h), if_neg, ho]
  rintro rfl
  exact h ho

theorem erase {place : Place} (h : disk.at? place ≠ some .directory) :
    Grows disk (disk.erase place) := by
  refine ⟨rfl, fun other ho => ?_⟩
  rw [at?_erase disk (ne_root_of_at? h), if_neg, ho]
  rintro rfl
  exact h ho

theorem walk (h : Grows disk later) : ∀ (directory : Place) (names : List String) {place : Place},
    disk.walk directory names = .ok place → later.walk directory names = .ok place
  | _, [], _, hw => hw
  | _, [_], _, hw => hw
  | directory, name :: next :: rest, place, hw => by
    rw [Disk.walk] at hw ⊢
    · split at hw
      · cases hw
      · next below _ =>
        -- the walk went on, so what stands below is a directory and still is
        split at hw
        · cases hw
        · cases hw
        · next hb =>
          rw [h.directories below hb]
          exact walk h below (next :: rest) hw
    · simp
    · simp

/-- A path that names a place names it ever after. -/
theorem locate (h : Grows disk later) {path : Path} {place : Place}
    (hl : disk.locate path = .ok place) : later.locate path = .ok place := by
  unfold Disk.locate at hl ⊢
  split at hl
  · cases hl
  · split at hl
    · cases hl
    · next hnul hlong =>
      rw [if_neg hnul, if_neg hlong, h.current]
      cases hw : disk.walk (if path.root = "" then disk.current else []) path.names with
      | error fault =>
        rw [hw] at hl
        cases hl
      | ok found =>
        rw [hw] at hl
        rw [h.walk _ _ hw]
        exact hl

theorem namesAll (h : Grows disk later) {paths : List Path} (hall : disk.NamesAll paths) :
    later.NamesAll paths := fun path hpath => by
  obtain ⟨place, hplace⟩ := hall path hpath
  exact ⟨place, h.locate hplace⟩

/-- Paths that name places name the same ones ever after. -/
theorem names_iff (h : Grows disk later) {paths : List Path} (hall : disk.NamesAll paths)
    {place : Place} : later.Names paths place ↔ disk.Names paths place := by
  constructor
  · rintro ⟨path, hpath, hlater⟩
    obtain ⟨named, hnamed⟩ := hall path hpath
    obtain rfl := Except.ok.inj ((h.locate hnamed).symm.trans hlater)
    exact ⟨path, hpath, hnamed⟩
  · rintro ⟨path, hpath, hplace⟩
    exact ⟨path, hpath, h.locate hplace⟩

end Grows

/-! ## Making directories -/

/-- A later state of a disk that differs in new directories only. -/
structure AddsDirectories (disk later : Disk) : Prop extends Grows disk later where
  files : ∀ place, later.fileAt? place = disk.fileAt? place

namespace AddsDirectories

variable {disk later last : Disk}

theorem refl (disk : Disk) : AddsDirectories disk disk :=
  ⟨.refl disk, fun _ => rfl⟩

theorem trans (h : AddsDirectories disk later) (hl : AddsDirectories later last) :
    AddsDirectories disk last :=
  ⟨h.toGrows.trans hl.toGrows, fun place => (hl.files place).trans (h.files place)⟩

end AddsDirectories

theorem addsDirectories_makeDirectory (disk : Disk) (path : Path) :
    AddsDirectories disk (disk.makeDirectory path).1 := by
  unfold makeDirectory
  split
  · exact .refl disk
  · next place _ =>
    split
    · exact .refl disk
    · next hfree =>
      have hno : disk.at? place ≠ some .directory := by simp [hfree]
      refine ⟨.put hno .directory, fun other => ?_⟩
      rw [fileAt?_put disk (ne_root_of_at? hno)]
      split
      · next ho => rw [ho, fileAt?, hfree]; rfl
      · rfl

theorem toleratingDirectory_fst (outcome : Outcome) (path : Path) :
    (toleratingDirectory outcome path).1 = outcome.1 := by
  unfold toleratingDirectory
  split
  · rfl
  · rfl
  · split <;> rfl
  · rfl

theorem addsDirectories_makeDirectories (disk : Disk) (path : Path) :
    AddsDirectories disk (disk.makeDirectories path).1 := by
  have first : AddsDirectories disk
      (toleratingDirectory (disk.makeDirectory path) path).1 := by
    rw [toleratingDirectory_fst]
    exact addsDirectories_makeDirectory disk path
  rw [makeDirectories]
  split
  · next reached hreached =>
    rw [hreached] at first
    split
    · exact first
    · next hnames =>
      have above := first.trans (addsDirectories_makeDirectories reached path.parent)
      split
      · next hparent => exact hparent ▸ above
      · next hparent =>
        rw [toleratingDirectory_fst]
        exact (hparent ▸ above).trans (addsDirectories_makeDirectory _ path)
  · exact first
termination_by path.names.length
decreasing_by
  have := List.length_pos_iff.2 ‹path.names ≠ []›
  simp only [Path.parent, List.length_dropLast]
  omega

/-! ## Writing and deleting files -/

theorem writeFile_ok {disk after : Disk} {path : Path} {bytes : List UInt8}
    (h : disk.writeFile path bytes = (after, .ok ())) :
    ∃ place, disk.locate path = .ok place ∧ disk.at? place ≠ some .directory ∧
      after = disk.put place (.file bytes) := by
  unfold writeFile at h
  split at h
  · cases h
  · next place hplace =>
    split at h
    · cases h
    · next hno => exact ⟨place, hplace, hno, (congrArg Prod.fst h).symm⟩

theorem writeFile_error {disk after : Disk} {path : Path} {bytes : List UInt8} {e : DiskError}
    (h : disk.writeFile path bytes = (after, .error e)) : after = disk := by
  unfold writeFile at h
  split at h
  · exact (congrArg Prod.fst h).symm
  · split at h
    · exact (congrArg Prod.fst h).symm
    · cases h

/-- A text that was written is in the file that its path names, and no other file changed. -/
theorem writeText_ok {disk after : Disk} {path : Path} {text : String}
    (h : disk.writeText path text = (after, .ok ())) :
    Grows disk after ∧ ∃ place, after.locate path = .ok place ∧ ∀ other, after.fileAt? other =
      if other = place then some (encode text) else disk.fileAt? other := by
  unfold writeText at h
  have hadds := addsDirectories_makeDirectories disk path.parent
  split at h
  · cases h
  · next made hmade =>
    rw [hmade] at hadds
    obtain ⟨place, hplace, hno, rfl⟩ := writeFile_ok h
    have hgrows : Grows made (made.put place (.file (encode text))) := .put hno _
    refine ⟨hadds.toGrows.trans hgrows, place, hgrows.locate hplace, fun other => ?_⟩
    rw [fileAt?_put made (ne_root_of_at? hno), hadds.files]
    rfl

/-- A text that cannot be written leaves every file as it was. -/
theorem writeText_error {disk after : Disk} {path : Path} {text : String} {e : DiskError}
    (h : disk.writeText path text = (after, .error e)) : AddsDirectories disk after := by
  unfold writeText at h
  have hadds := addsDirectories_makeDirectories disk path.parent
  split at h
  · next hmade =>
    rw [hmade] at hadds
    cases h
    exact hadds
  · next hmade =>
    rw [hmade] at hadds
    exact writeFile_error h ▸ hadds

theorem grows_removeFile (disk : Disk) (path : Path) : Grows disk (disk.removeFile path) := by
  unfold removeFile
  split
  · exact .refl disk
  · split
    · next hfile => exact .erase (by simp [hfile])
    · exact .refl disk

theorem grows_foldl_removeFile : ∀ (paths : List Path) (disk : Disk),
    Grows disk (paths.foldl removeFile disk)
  | [], disk => .refl disk
  | path :: rest, disk => (grows_removeFile disk path).trans (grows_foldl_removeFile rest _)

/-- Deleting changes the file that the path names only, which is not there afterwards. -/
theorem fileAt?_removeFile {disk : Disk} {path : Path} {place : Place}
    (h : disk.locate path = .ok place) (other : Place) :
    (disk.removeFile path).fileAt? other = if other = place then none else disk.fileAt? other := by
  rw [removeFile, h]
  dsimp only
  split
  · next hfile =>
    have hno : disk.at? place ≠ some .directory := by simp [hfile]
    exact fileAt?_erase disk (ne_root_of_at? hno) other
  · next hno =>
    split
    · next ho =>
      rw [ho, fileAt?]
      cases hat : disk.at? place with
      | none => rfl
      | some entry =>
        cases entry with
        | directory => rfl
        | file bytes => exact absurd hat (hno bytes)
    · rfl

/-- Deleting the files of many paths deletes the files that these named at the start. -/
theorem fileAt?_foldl_removeFile (place : Place) : ∀ (paths : List Path) {disk : Disk},
    disk.NamesAll paths →
    (disk.Names paths place → (paths.foldl removeFile disk).fileAt? place = none) ∧
    (¬disk.Names paths place →
      (paths.foldl removeFile disk).fileAt? place = disk.fileAt? place)
  | [], _, _ => ⟨fun ⟨_, hmem, _⟩ => absurd hmem (by simp), fun _ => rfl⟩
  | path :: rest, disk, h => by
    obtain ⟨first, hfirst⟩ := h path List.mem_cons_self
    have hrest : disk.NamesAll rest := fun other ho => h other (List.mem_cons_of_mem path ho)
    have hgrows := grows_removeFile disk path
    obtain ⟨hgone, hkept⟩ := fileAt?_foldl_removeFile place rest (hgrows.namesAll hrest)
    rw [hgrows.names_iff hrest] at hgone hkept
    rw [List.foldl_cons]
    constructor
    · rintro ⟨other, hother, hnamed⟩
      by_cases hlater : disk.Names rest place
      · exact hgone hlater
      · rcases List.mem_cons.1 hother with rfl | hother
        · obtain rfl := Except.ok.inj (hfirst.symm.trans hnamed)
          rw [hkept hlater, fileAt?_removeFile hfirst, if_pos rfl]
        · exact absurd ⟨other, hother, hnamed⟩ hlater
    · intro hno
      have hother : place ≠ first := by
        rintro rfl
        exact hno ⟨path, List.mem_cons_self, hfirst⟩
      rw [hkept fun ⟨other, ho, hnamed⟩ => hno ⟨other, List.mem_cons_of_mem path ho, hnamed⟩,
        fileAt?_removeFile hfirst, if_neg hother]

/-! ## Reading -/

/-- The paths name one place. -/
def SamePlace (disk : Disk) (path other : Path) : Prop :=
  ∃ place, disk.locate path = .ok place ∧ disk.locate other = .ok place

theorem SamePlace.symm {disk : Disk} {path other : Path} (h : disk.SamePlace path other) :
    disk.SamePlace other path := by
  obtain ⟨place, hpath, hother⟩ := h
  exact ⟨place, hother, hpath⟩

theorem SamePlace.trans {disk : Disk} {path other third : Path} (h : disk.SamePlace path other)
    (hthird : disk.SamePlace other third) : disk.SamePlace path third := by
  obtain ⟨place, hpath, hother⟩ := h
  obtain ⟨named, hnamed, hlast⟩ := hthird
  obtain rfl := Except.ok.inj (hother.symm.trans hnamed)
  exact ⟨place, hpath, hlast⟩

theorem fileAt?_eq_some_iff {disk : Disk} {place : Place} {bytes : List UInt8} :
    disk.fileAt? place = some bytes ↔ disk.at? place = some (.file bytes) := by
  rw [fileAt?]
  cases disk.at? place with
  | none => simp
  | some entry => cases entry <;> simp [DiskEntry.bytes?]

/-- What is read is the file at the place that the path names. -/
theorem read_eq_ok_iff {disk : Disk} {path : Path} {bytes : List UInt8} :
    disk.read path = .ok bytes ↔
      ∃ place, disk.locate path = .ok place ∧ disk.fileAt? place = some bytes := by
  simp only [fileAt?_eq_some_iff]
  unfold read find
  cases disk.locate path with
  | error e => simp
  | ok place =>
    cases hat : disk.at? place with
    | none => simp [hat]
    | some entry => cases entry <;> simp [hat]

theorem isFile_of_read {disk : Disk} {path : Path} {bytes : List UInt8}
    (h : disk.read path = .ok bytes) : disk.isFile path = .ok true := by
  unfold read at h
  unfold isFile
  cases hfind : disk.find path with
  | error e =>
    rw [hfind] at h
    cases h
  | ok entry =>
    rw [hfind] at h
    cases entry with
    | directory => cases h
    | file found => rfl

/-- Only a path with the character NUL is none to a disk. -/
theorem locate_eq_nulInPath_iff (disk : Disk) {path : Path} :
    disk.locate path = .error .nulInPath ↔ '\x00' ∈ path.text.toList := by
  unfold locate
  split
  · next hnul => simpa using hnul
  · next hnul =>
    refine iff_of_false ?_ (by simpa using hnul)
    split
    · simp
    · cases disk.walk (if path.root = "" then disk.current else []) path.names with
      | error fault => rintro ⟨⟩
      | ok place => rintro ⟨⟩

theorem read_eq_nulInPath_iff {disk : Disk} {path : Path} :
    disk.read path = .error .nulInPath ↔ '\x00' ∈ path.text.toList := by
  rw [← locate_eq_nulInPath_iff disk]
  unfold read find
  cases disk.locate path with
  | error e => simp
  | ok place =>
    cases hat : disk.at? place with
    | none => simp [hat]
    | some entry => cases entry <;> simp [hat]

/-- Paths that name one place are read alike. -/
theorem SamePlace.read {disk : Disk} {path other : Path} (h : disk.SamePlace path other) :
    disk.read path = disk.read other := by
  obtain ⟨place, hpath, hother⟩ := h
  rw [Disk.read, Disk.read, find, find, hpath, hother]

theorem Grows.samePlace {disk later : Disk} (h : Grows disk later) {path other : Path}
    (hsame : disk.SamePlace path other) : later.SamePlace path other := by
  obtain ⟨place, hpath, hother⟩ := hsame
  exact ⟨place, h.locate hpath, h.locate hother⟩

theorem AddsDirectories.read {disk later : Disk} (h : AddsDirectories disk later) {path : Path}
    {bytes : List UInt8} (hread : disk.read path = .ok bytes) : later.read path = .ok bytes := by
  obtain ⟨place, hplace, hbytes⟩ := read_eq_ok_iff.1 hread
  exact read_eq_ok_iff.2 ⟨place, h.toGrows.locate hplace, (h.files place).trans hbytes⟩

/-- A file that was deleted is missing, whatever path leads to its place. -/
theorem read_removeFile_of_samePlace {disk : Disk} {path other : Path} {bytes : List UInt8}
    (hsame : disk.SamePlace path other) (hread : disk.read path = .ok bytes) :
    (disk.removeFile other).read path = .error (.fault .missing) := by
  obtain ⟨place, hpath, hother⟩ := hsame
  obtain ⟨named, hnamed, hbytes⟩ := read_eq_ok_iff.1 hread
  obtain rfl := Except.ok.inj (hpath.symm.trans hnamed)
  have hfile := fileAt?_eq_some_iff.1 hbytes
  have hno : disk.at? place ≠ some .directory := by simp [hfile]
  have hlater := (grows_removeFile disk other).locate hpath
  have hgone : (disk.removeFile other).at? place = none := by
    rw [removeFile, hother]
    dsimp only
    rw [hfile]
    exact (at?_erase disk (ne_root_of_at? hno) place).trans (if_pos rfl)
  rw [Disk.read, find, hlater]
  dsimp only
  rw [hgone]

/-- A file at another place stays when one is deleted. -/
theorem read_removeFile_of_not_samePlace {disk : Disk} {path other : Path} {bytes : List UInt8}
    (hother : ∃ place, disk.locate other = .ok place) (hno : ¬disk.SamePlace path other)
    (hread : disk.read path = .ok bytes) : (disk.removeFile other).read path = .ok bytes := by
  obtain ⟨removed, hremoved⟩ := hother
  obtain ⟨place, hplace, hbytes⟩ := read_eq_ok_iff.1 hread
  have hapart : place ≠ removed := by
    rintro rfl
    exact hno ⟨place, hplace, hremoved⟩
  refine read_eq_ok_iff.2 ⟨place, (grows_removeFile disk other).locate hplace, ?_⟩
  rw [fileAt?_removeFile hremoved, if_neg hapart, hbytes]

end Disk

end PageCompiler
