import PageCompiler.Proofs.Path

/-!
# The parts of an output path

An output path falls into a directory with its separator, the name of a file and an extension
(`FallsInto`). The separators tell the directory from what is behind it, and the last point there,
if there is one, the name from the extension; so this happens in one way only, and these are the
parts that the page beside the output is named by (`fallsInto_iff`). With the extension of a page
the same parts are found again.

To a file system a backslash is a character like any other. Still the output and the page beside it
are in one directory, for they differ behind the last slash at most (`parent_pageBeside`).
-/

namespace PageCompiler

/-- What can stand behind the name of a file : nothing, if the name holds no point, or a point and
then neither points nor separators. -/
inductive IsExtension (name : List Char) : List Char → Prop
  | absent (plain : '.' ∉ name) : IsExtension name []
  | present {rest : List Char} (single : ∀ c ∈ rest, c ≠ '.' ∧ isSeparator c = false) :
      IsExtension name ('.' :: rest)

/-- An output path is a directory, empty or with a separator at its end, a name without separators
and an extension. -/
structure FallsInto (output directory name : String) : Prop where
  directory_ends : ∀ c ∈ directory.toList.getLast?, isSeparator c = true
  name_plain : ∀ c ∈ name.toList, isSeparator c = false
  extension : ∃ extension, IsExtension name.toList extension ∧
    output.toList = directory.toList ++ (name.toList ++ extension)

theorem IsExtension.not_separator {name extension : List Char} (h : IsExtension name extension) :
    ∀ c ∈ extension, isSeparator c = false := by
  cases h with
  | absent plain => simp
  | present single => exact List.forall_mem_cons.2 ⟨by decide, fun c hc => (single c hc).2⟩

/-! ## One way to fall into parts -/

namespace Text

/-- A text is cut before the last character with the property, or holds none. -/
theorem splitBeforeLast?_cases (p : Char → Bool) : ∀ cs : List Char,
    (splitBeforeLast? p cs = none ∧ ∀ c ∈ cs, p c = false) ∨
      ∃ before c rest, splitBeforeLast? p cs = some (before, c :: rest) ∧ p c = true ∧
        ∀ d ∈ rest, p d = false
  | [] => .inl ⟨rfl, fun _ hc => absurd hc List.not_mem_nil⟩
  | c :: cs => by
    rw [splitBeforeLast?]
    obtain ⟨hnone, hrest⟩ | ⟨before, d, rest, hsome, hd, hrest⟩ := splitBeforeLast?_cases p cs
    · rw [hnone]
      cases hc : p c with
      | true => exact .inr ⟨[], c, cs, rfl, hc, hrest⟩
      | false => exact .inl ⟨rfl, List.forall_mem_cons.2 ⟨hc, hrest⟩⟩
    · rw [hsome]
      exact .inr ⟨c :: before, d, rest, rfl, hd, hrest⟩

/-- A name is cut before its extension. -/
theorem splitBeforeLast?_of_isExtension {name extension : List Char}
    (h : IsExtension name extension) :
    (splitBeforeLast? (· == '.') (name ++ extension) = none ∧ name ++ extension = name) ∨
      ∃ after, splitBeforeLast? (· == '.') (name ++ extension) = some (name, after) := by
  cases h with
  | absent plain =>
    have hnone : ∀ c ∈ name, (c == '.') = false := fun c hc =>
      beq_eq_false_iff_ne.2 fun he => plain (he ▸ hc)
    rw [List.append_nil]
    exact .inl ⟨splitBeforeLast?_of_none hnone, rfl⟩
  | present single =>
    have hnone : ∀ c ∈ _, (c == '.') = false := fun c hc => beq_eq_false_iff_ne.2 (single c hc).1
    exact .inr ⟨_, splitBeforeLast?_append_cons rfl hnone name⟩

end Text

section

variable {output directory name : String}

/-- The parts that an output path falls into are the ones that it is cut into. -/
theorem FallsInto.eq (h : FallsInto output directory name) :
    directoryAndBase output = (directory, name) := by
  obtain ⟨extension, hextension, houtput⟩ := h.extension
  have hplain : ∀ c ∈ (name.toList ++ extension).reverse, (!isSeparator c) = true := by
    intro c hc
    rw [Bool.not_eq_true']
    rcases List.mem_append.1 (List.mem_reverse.1 hc) with hc | hc
    · exact h.name_plain c hc
    · exact hextension.not_separator c hc
  have hends : ∀ c ∈ directory.toList.reverse.head?, (!isSeparator c) = false := by
    rw [List.head?_reverse]
    exact fun c hc => congrArg not (h.directory_ends c hc)
  have htake : (output.toList.reverse.takeWhile fun c => !isSeparator c).reverse =
      name.toList ++ extension := by
    rw [houtput, List.reverse_append, takeWhile_append hplain hends, List.reverse_reverse]
  have hdrop : (output.toList.reverse.dropWhile fun c => !isSeparator c).reverse =
      directory.toList := by
    rw [houtput, List.reverse_append, dropWhile_append hplain hends, List.reverse_reverse]
  unfold directoryAndBase
  dsimp only
  rw [htake, hdrop, String.ofList_toList]
  obtain ⟨hnone, hname⟩ | ⟨after, hsome⟩ := Text.splitBeforeLast?_of_isExtension hextension
  · simp only [hnone]
    rw [hname, String.ofList_toList]
  · simp only [hsome, String.ofList_toList]

end

/-- Every output path falls into parts. -/
theorem exists_fallsInto (output : String) : ∃ directory name, FallsInto output directory name := by
  obtain ⟨directory, back, hchars, hback, hdirectory, -⟩ := exists_split output.toList
  have hends : ∀ c ∈ directory.getLast?, isSeparator c = true := by
    intro c hc
    have hstop := List.head?_dropWhile_not (fun c => !isSeparator c) output.toList.reverse
    rw [hdirectory, List.getLast?_reverse] at hc
    rw [Option.mem_def.1 hc] at hstop
    simpa using hstop
  obtain ⟨-, hpoint⟩ | ⟨name, c, rest, hcut, hc, hrest⟩ :=
    Text.splitBeforeLast?_cases (· == '.') back
  · have hplain : '.' ∉ back := fun hmem => by cases hpoint '.' hmem
    exact ⟨String.ofList directory, String.ofList back,
      { directory_ends := by rwa [String.toList_ofList]
        name_plain := by rwa [String.toList_ofList]
        extension := ⟨[], by rw [String.toList_ofList]; exact .absent hplain, by simp [hchars]⟩ }⟩
  · obtain rfl : c = '.' := by simpa using hc
    have hall := Text.splitBeforeLast?_append hcut
    rw [← hall, List.forall_mem_append, List.forall_mem_cons] at hback
    have hsingle : ∀ d ∈ rest, d ≠ '.' ∧ isSeparator d = false := fun d hd =>
      ⟨beq_eq_false_iff_ne.1 (hrest d hd), hback.2.2 d hd⟩
    exact ⟨String.ofList directory, String.ofList name,
      { directory_ends := by rwa [String.toList_ofList]
        name_plain := by rw [String.toList_ofList]; exact hback.1
        extension := ⟨'.' :: rest, .present hsingle, by simp [hchars, ← hall]⟩ }⟩

/-- An output path falls into the parts that it is cut into, and into no others. -/
theorem fallsInto_iff {output directory name : String} :
    FallsInto output directory name ↔ (directory, name) = directoryAndBase output := by
  refine ⟨fun h => h.eq.symm, fun h => ?_⟩
  obtain ⟨someDirectory, someName, hfalls⟩ := exists_fallsInto output
  rw [hfalls.eq] at h
  obtain ⟨rfl, rfl⟩ := Prod.mk.inj h
  exact hfalls

/-- With the extension of a page a path falls into the same parts. -/
theorem FallsInto.page {output directory name : String} (h : FallsInto output directory name) :
    FallsInto (directory ++ name ++ ".html") directory name where
  directory_ends := h.directory_ends
  name_plain := h.name_plain
  extension := ⟨'.' :: "html".toList, .present (by simp [isSeparator]), by simp⟩

/-! ## One directory -/

/-- Where the output has a name behind its last slash, the page is in the directory of the
output. -/
theorem parent_pageBeside {output : String} (h : Path.IsName (Path.lastPiece output)) :
    (pageBeside output).parent = (Path.ofText output).parent := by
  obtain ⟨stem, extension, houtput, hslash, hpage⟩ := exists_extension output
  obtain ⟨root, names, last, hspelled⟩ := Path.exists_ofText_append stem
  obtain ⟨hpiece, hpath⟩ := hspelled extension hslash
  rw [← houtput, String.ofList_toList] at hpiece hpath
  rw [hpiece] at h
  rw [hpage, (hspelled pageExtension (by decide)).2, hpath,
    List.filter_cons_of_pos (by simpa using isName_append_pageExtension last),
    List.filter_cons_of_pos (by simpa using h)]
  simp [Path.parent]

/-- An output path falls into a directory, a name and an extension in one way only, and these are
the directory and the name that it is cut into. They are found again in the path of the page beside
it, which is in the same directory, if the output has a name behind its last slash. -/
theorem parts_of_output (output : String) :
    (∀ directory name, FallsInto output directory name ↔
      (directory, name) = directoryAndBase output) ∧
    directoryAndBase ((directoryAndBase output).1 ++ (directoryAndBase output).2 ++ ".html") =
      directoryAndBase output ∧
    (Path.IsName (Path.lastPiece output) →
      (pageBeside output).parent = (Path.ofText output).parent) := by
  refine ⟨fun _ _ => fallsInto_iff, ?_, parent_pageBeside⟩
  have hparts : FallsInto output (directoryAndBase output).1 (directoryAndBase output).2 :=
    fallsInto_iff.2 rfl
  exact hparts.page.eq

/-- A path with separators of both kinds and points in front of the last of them and behind. -/
theorem parts_of_output_mixed :
    FallsInto "a.b/c\\d.e.js" "a.b/c\\" "d.e" ∧ Path.IsName (Path.lastPiece "a.b/c\\d.e.js") ∧
      directoryAndBase "a.b/c\\d.e.html" = ("a.b/c\\", "d.e") ∧
      (pageBeside "a.b/c\\d.e.js").parent = .ofText "a.b" := by
  have hcut : ("a.b/c\\", "d.e") = directoryAndBase "a.b/c\\d.e.js" := by decide +kernel
  have hname : Path.IsName (Path.lastPiece "a.b/c\\d.e.js") := by decide +kernel
  have hparent : (Path.ofText "a.b/c\\d.e.js").parent = .ofText "a.b" := by decide +kernel
  obtain ⟨hfalls, hagain, hbeside⟩ := parts_of_output "a.b/c\\d.e.js"
  rw [← hcut] at hagain
  exact ⟨(hfalls _ _).2 hcut, hname, hagain, (hbeside hname).trans hparent⟩

end PageCompiler
