import PageCompiler.Proofs.Disk
import PageCompiler.Proofs.Path

/-!
# Where an output goes

Whatever is on the disk, an output path and the path of the page beside it name one place only if
the output path ends in `.html`, and then they are the same path (`samePlace_pageBeside_iff`). For
the names of the two are the same but for the last one, so the last steps of the two walks are taken
in the same directory (`walk_concat`).

When the path of the output holds no NUL, neither does that of the page (`nul_not_mem_pageBeside`),
and then nothing but a fault of the disk keeps it from being written (`writeText_ne_nul`).
-/

namespace PageCompiler

namespace Disk

/-! ## Walks -/

/-- The first step of a walk, which leads to a directory if there are more. -/
theorem walk_cons_iff {disk : Disk} {first : String} {rest : List String}
    {directory place : Place} : disk.walk directory (first :: rest) = .ok place ↔
      ∃ below, child directory first = .ok below ∧
        (rest ≠ [] → disk.at? below = some .directory) ∧ disk.walk below rest = .ok place := by
  cases rest with
  | nil => simp [walk]
  | cons next others =>
    rw [walk]
    · cases child directory first with
      | error fault => simp
      | ok below =>
        cases hat : disk.at? below with
        | none => simp [hat]
        | some entry => cases entry <;> simp [hat]
    · simp

/-- Where the last step of a walk is taken. -/
theorem walk_concat {disk : Disk} {name : String} {place : Place} :
    ∀ {names : List String} {directory : Place},
      disk.walk directory (names ++ [name]) = .ok place →
        ∃ inner, disk.walk directory names = .ok inner ∧ child inner name = .ok place
  | [], directory, h => ⟨directory, rfl, h⟩
  | first :: rest, directory, h => by
    obtain ⟨below, hfirst, hdirectory, hrest⟩ := walk_cons_iff.1 h
    obtain ⟨inner, hinner, hlast⟩ := walk_concat hrest
    exact ⟨inner, walk_cons_iff.2 ⟨below, hfirst, fun _ => hdirectory (by simp), hinner⟩, hlast⟩

theorem child_eq_ok {directory place : Place} {name : String}
    (h : child directory name = .ok place) :
    place = directory.dropLast ∨ place = directory ++ [name] := by
  unfold child at h
  split at h
  · exact .inl (Except.ok.inj h).symm
  · split at h
    · cases h
    · exact .inr (Except.ok.inj h).symm

/-- A name that does not mean "up" leads further down. -/
theorem child_eq_ok_of_ne {directory place : Place} {name : String} (hup : name ≠ Path.up)
    (h : child directory name = .ok place) : place = directory ++ [name] := by
  rw [child, if_neg hup] at h
  split at h
  · cases h
  · exact (Except.ok.inj h).symm

theorem locate_eq_ok {disk : Disk} {path : Path} {place : Place}
    (h : disk.locate path = .ok place) :
    disk.walk (if path.root = "" then disk.current else []) path.names = .ok place ∧
      '\x00' ∉ path.text.toList := by
  unfold locate at h
  split at h
  · cases h
  · next hnul =>
    split at h
    · cases h
    · cases hw : disk.walk (if path.root = "" then disk.current else []) path.names with
      | error fault =>
        rw [hw] at h
        cases h
      | ok found =>
        rw [hw] at h
        obtain rfl := Except.ok.inj h
        exact ⟨rfl, by simpa using hnul⟩

/-- Paths with the same names but for one more at most, or another last one that leads further down,
name different places. -/
theorem names_of_locate {disk : Disk} {root last : String} {names later : List String}
    {place : Place} (hlater : later.length ≤ 1) (hup : last ≠ Path.up)
    (h : disk.locate ⟨root, names ++ later⟩ = .ok place)
    (hlast : disk.locate ⟨root, names ++ [last]⟩ = .ok place) : later = [last] := by
  obtain ⟨inner, hinner, hdown⟩ := walk_concat (locate_eq_ok hlast).1
  have hplace := child_eq_ok_of_ne hup hdown
  have hwalk := (locate_eq_ok h).1
  match later, hlater with
  | [], _ =>
    rw [List.append_nil, hinner] at hwalk
    exact absurd ((Except.ok.inj hwalk).trans hplace) (by simp)
  | [name], _ =>
    obtain ⟨inner', hinner', hname⟩ := walk_concat hwalk
    obtain rfl := Except.ok.inj (hinner.symm.trans hinner')
    rcases child_eq_ok hname with hdrop | hsame
    · have hlength := congrArg List.length (hdrop.symm.trans hplace)
      simp only [List.length_dropLast, List.length_append, List.length_singleton] at hlength
      omega
    · rw [hplace] at hsame
      exact (List.append_cancel_left hsame).symm

/-! ## The page beside an output -/

/-- An output and the page beside it name one place just if the output has the extension of a page,
and then they are one path. -/
theorem samePlace_pageBeside_iff {disk : Disk} {output : String} {place : Place}
    (h : disk.locate (.ofText output) = .ok place) :
    disk.SamePlace (.ofText output) (pageBeside output) ↔ pageExtension <:+ output.toList := by
  constructor
  · rintro ⟨place, h, hbeside⟩
    obtain ⟨stem, extension, houtput, hslash, hpage⟩ := exists_extension output
    obtain ⟨root, names, last, hspelled⟩ := Path.exists_ofText_append stem
    rw [hpage, (hspelled pageExtension (by decide)).2,
      List.filter_cons_of_pos (by simpa using isName_append_pageExtension last),
      List.filter_nil] at hbeside
    rw [← String.ofList_toList (s := output), houtput, (hspelled extension hslash).2] at h
    have hsame := names_of_locate (List.length_filter_le _ _)
      (append_pageExtension_ne last (by decide)) h hbeside
    have hmem := List.mem_singleton.1
      (List.mem_filter.1 (hsame ▸ List.mem_singleton_self _)).1
    rw [String.ofList_inj, List.append_cancel_left_eq] at hmem
    exact ⟨stem, by rw [houtput, hmem]⟩
  · intro hsuffix
    rw [pageBeside_of_suffix hsuffix]
    exact ⟨place, h, h⟩

/-! ## NUL -/

theorem ne_nul_of_locate {disk : Disk} {path : Path} {e : DiskError}
    (h : '\x00' ∉ path.text.toList) (hlocate : disk.locate path = .error e) :
    e ≠ .nulInPath := by
  unfold locate at hlocate
  rw [if_neg (by simpa using h)] at hlocate
  split at hlocate
  · cases hlocate
    simp
  · cases hwalk : disk.walk (if path.root = "" then disk.current else []) path.names with
    | error fault =>
      rw [hwalk] at hlocate
      cases hlocate
      simp
    | ok place =>
      rw [hwalk] at hlocate
      cases hlocate

theorem makeDirectory_ne_nul (disk : Disk) {path : Path} (h : '\x00' ∉ path.text.toList) :
    (disk.makeDirectory path).2 ≠ .error .nulInPath := by
  unfold makeDirectory
  split
  · next hlocate => exact fun he => ne_nul_of_locate h hlocate (Except.error.inj he)
  · split <;> simp

theorem toleratingDirectory_ne_nul {outcome : Outcome} (path : Path)
    (h : outcome.2 ≠ .error .nulInPath) :
    (toleratingDirectory outcome path).2 ≠ .error .nulInPath := by
  unfold toleratingDirectory
  split
  · simp
  · exact h
  · split
    · simp
    · exact h
  · simp

theorem makeDirectories_ne_nul (disk : Disk) {path : Path} (h : '\x00' ∉ path.text.toList) :
    (disk.makeDirectories path).2 ≠ .error .nulInPath := by
  have hfirst := toleratingDirectory_ne_nul path (makeDirectory_ne_nul disk h)
  rw [makeDirectories]
  split
  · next reached hreached =>
    split
    · simp
    · next hnames =>
      have hparent : '\x00' ∉ path.parent.text.toList :=
        fun hmem => h (Path.mem_text_of_parent (by decide) (by decide) hmem)
      have habove := makeDirectories_ne_nul reached hparent
      split
      · next hfails => exact hfails ▸ habove
      · exact toleratingDirectory_ne_nul path (makeDirectory_ne_nul _ h)
  · exact hfirst
termination_by path.names.length
decreasing_by
  have := List.length_pos_iff.2 ‹path.names ≠ []›
  simp only [Path.parent, List.length_dropLast]
  omega

/-- A text can be written to a path without NUL, unless there is a fault of the disk. -/
theorem writeText_ne_nul (disk : Disk) {path : Path} (h : '\x00' ∉ path.text.toList)
    (text : String) : (disk.writeText path text).2 ≠ .error .nulInPath := by
  have hparent : '\x00' ∉ path.parent.text.toList :=
    fun hmem => h (Path.mem_text_of_parent (by decide) (by decide) hmem)
  have hdirectories := makeDirectories_ne_nul disk hparent
  unfold writeText
  split
  · next hfails => exact hfails ▸ hdirectories
  · next made _ =>
    unfold writeFile
    split
    · next hlocate => exact fun he => ne_nul_of_locate h hlocate (Except.error.inj he)
    · split <;> simp

/-- A NUL in the path of the page comes from the output path. -/
theorem nul_not_mem_pageBeside {output : String}
    (h : '\x00' ∉ (Path.ofText output).text.toList) :
    '\x00' ∉ (pageBeside output).text.toList := by
  obtain ⟨stem, extension, houtput, -, hpage⟩ := exists_extension output
  rw [Path.mem_text_ofText (by decide) (by decide), houtput, List.mem_append, not_or] at h
  rw [hpage, Path.mem_text_ofText (by decide) (by decide), String.toList_ofList, List.mem_append,
    not_or]
  exact ⟨h.1, by decide⟩

end Disk

end PageCompiler
