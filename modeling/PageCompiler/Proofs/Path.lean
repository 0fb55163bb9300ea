import Mathlib.Data.List.TakeWhile
import Mathlib.Logic.Basic
import PageCompiler.Path

/-!
# Paths as texts

Texts that begin alike and go on without a slash spell paths that differ in the last name at most
(`exists_ofText_append`). An output path and the path of the page beside it are such a pair : they
have a stem in common, behind which the one goes on with its extension and the other with `.html`
(`exists_extension`). When the extension is `.html` the two are one (`pageBeside_of_suffix`).

Apart from slashes and points a path shows the characters of the text that spells it
(`mem_text_ofText`).
-/

namespace PageCompiler

namespace Text

/-- The pieces of a text that goes on without being cut : only the last of them goes on. -/
theorem exists_pieces_append (p : Char → Bool) : ∀ stem : List Char, ∃ before last,
    ∀ tail, (∀ c ∈ tail, p c = false) → pieces p (stem ++ tail) = before ++ [last ++ tail]
  | [] => by
    refine ⟨[], [], fun tail htail => ?_⟩
    induction tail with
    | nil => rfl
    | cons c rest ih =>
      have hrest : pieces p rest = [rest] := ih fun d hd => htail d (List.mem_cons_of_mem _ hd)
      have hc : ¬p c = true := Bool.eq_false_iff.1 (htail c List.mem_cons_self)
      rw [List.nil_append, pieces, if_neg hc, hrest]
      rfl
  | c :: stem => by
    obtain ⟨before, last, h⟩ := exists_pieces_append p stem
    by_cases hc : p c = true
    · refine ⟨[] :: before, last, fun tail htail => ?_⟩
      rw [List.cons_append, pieces, if_pos hc, h tail htail]
      rfl
    · cases before with
      | nil =>
        refine ⟨[], c :: last, fun tail htail => ?_⟩
        rw [List.cons_append, pieces, if_neg hc, h tail htail]
        rfl
      | cons first others =>
        refine ⟨(c :: first) :: others, last, fun tail htail => ?_⟩
        rw [List.cons_append, pieces, if_neg hc, h tail htail]
        rfl

/-- The pieces are the text without the characters that it is cut at. -/
theorem flatten_pieces (p : Char → Bool) : ∀ cs : List Char,
    (pieces p cs).flatten = cs.filter fun c => !p c
  | [] => rfl
  | c :: rest => by
    have ih := flatten_pieces p rest
    rw [pieces, List.filter_cons]
    split
    · next hc => rw [List.flatten_cons, ih, List.nil_append, hc]; rfl
    · next hc =>
      rw [if_pos (by simpa using hc), ← ih]
      split
      · next hnone => rw [hnone]; rfl
      · next hsome => rw [hsome]; rfl

theorem splitBeforeLast?_of_none {p : Char → Bool} : ∀ {cs : List Char},
    (∀ c ∈ cs, p c = false) → splitBeforeLast? p cs = none
  | [], _ => rfl
  | c :: rest, h => by
    rw [splitBeforeLast?, splitBeforeLast?_of_none fun d hd => h d (List.mem_cons_of_mem _ hd)]
    exact if_neg (Bool.eq_false_iff.1 (h c List.mem_cons_self))

/-- The cut comes before a character with the property behind which there is none. -/
theorem splitBeforeLast?_append_cons {p : Char → Bool} {c : Char} {rest : List Char}
    (hc : p c = true) (hrest : ∀ d ∈ rest, p d = false) : ∀ before : List Char,
    splitBeforeLast? p (before ++ c :: rest) = some (before, c :: rest)
  | [] => by
    rw [List.nil_append, splitBeforeLast?, splitBeforeLast?_of_none hrest]
    exact if_pos hc
  | d :: before => by
    rw [List.cons_append, splitBeforeLast?, splitBeforeLast?_append_cons hc hrest before]

end Text

theorem takeWhile_append_of_none {p : Char → Bool} {tail : List Char}
    (h : ∀ c ∈ tail, p c = false) : ∀ stem : List Char,
    (stem ++ tail).takeWhile p = stem.takeWhile p
  | [] => by
    cases tail with
    | nil => rfl
    | cons c rest =>
      exact List.takeWhile_cons_of_neg (Bool.eq_false_iff.1 (h c List.mem_cons_self))
  | c :: stem => by
    rw [List.cons_append, List.takeWhile_cons, List.takeWhile_cons,
      takeWhile_append_of_none h stem]

namespace Path

/-! ## Spelling -/

/-- What counts as a name in the text of a path. -/
def IsName (name : String) : Prop :=
  name ≠ "" ∧ name ≠ here

instance (name : String) : Decidable (IsName name) :=
  inferInstanceAs (Decidable (_ ∧ _))

/-- What stands behind the last slash of a text. -/
def lastPiece (text : String) : String :=
  String.ofList ((Text.pieces (· == '/') text.toList).getLastD [])

/-- Texts that begin alike and go on without a slash spell the same names but for the last. -/
theorem exists_ofText_append (stem : List Char) : ∃ root names last, ∀ tail, '/' ∉ tail →
    lastPiece (String.ofList (stem ++ tail)) = String.ofList (last ++ tail) ∧
    ofText (String.ofList (stem ++ tail)) =
      ⟨root, names ++ [String.ofList (last ++ tail)].filter fun name => IsName name⟩ := by
  obtain ⟨before, last, hpieces⟩ := Text.exists_pieces_append (· == '/') stem
  refine ⟨rootOf (stem.takeWhile (· == '/')).length,
    (before.map String.ofList).filter fun name => IsName name, last, fun tail htail => ?_⟩
  have htail : ∀ c ∈ tail, (c == '/') = false :=
    fun c hc => beq_false_of_ne fun he => htail (he ▸ hc)
  constructor
  · rw [lastPiece, String.toList_ofList, hpieces tail htail, List.getLastD_concat]
  · rw [ofText, String.toList_ofList, takeWhile_append_of_none htail, hpieces tail htail,
      List.map_append, List.filter_append]
    rfl

/-! ## Characters -/

theorem mem_intercalate {c : Char} (hc : c ≠ '/') : ∀ names : List String,
    c ∈ ("/".intercalate names).toList ↔ ∃ name ∈ names, c ∈ name.toList
  | [] => by simp
  | [name] => by simp
  | name :: next :: rest => by
    have ih := mem_intercalate hc (next :: rest)
    have hslash : c ∉ "/".toList := by simpa using hc
    rw [String.intercalate_cons_cons, String.toList_append, String.toList_append, List.mem_append,
      List.mem_append, ih, or_iff_left hslash]
    simp only [List.mem_cons, exists_eq_or_imp]

/-- The characters of a path but for slashes and points. -/
theorem mem_text {c : Char} (hslash : c ≠ '/') (hpoint : c ≠ '.') (path : Path) :
    c ∈ path.text.toList ↔ c ∈ path.root.toList ∨ ∃ name ∈ path.names, c ∈ name.toList := by
  unfold text
  split
  · next hempty =>
    rw [hempty.1, hempty.2]
    simpa [here] using hpoint
  · rw [String.toList_append, List.mem_append, mem_intercalate hslash]

theorem mem_text_of_parent {c : Char} (hslash : c ≠ '/') (hpoint : c ≠ '.') {path : Path}
    (h : c ∈ path.parent.text.toList) : c ∈ path.text.toList := by
  rw [mem_text hslash hpoint] at h ⊢
  exact h.imp_right fun ⟨name, hname, hc⟩ => ⟨name, List.dropLast_subset _ hname, hc⟩

/-- Whatever is neither a slash nor a point gets from the spelling of a path into the path. -/
theorem mem_text_ofText {c : Char} (hslash : c ≠ '/') (hpoint : c ≠ '.') (spelling : String) :
    c ∈ (ofText spelling).text.toList ↔ c ∈ spelling.toList := by
  have hroot : c ∉ (ofText spelling).root.toList := by
    unfold ofText rootOf
    dsimp only
    split
    · simp
    · split <;> simpa using hslash
  have hpieces : c ∈ (Text.pieces (· == '/') spelling.toList).flatten ↔ c ∈ spelling.toList := by
    rw [Text.flatten_pieces, List.mem_filter]
    simp [hslash]
  rw [mem_text hslash hpoint, or_iff_right hroot, ← hpieces, List.mem_flatten]
  constructor
  · rintro ⟨name, hname, hc⟩
    obtain ⟨piece, hpiece, rfl⟩ := List.mem_map.1 (List.mem_filter.1 hname).1
    exact ⟨piece, hpiece, by simpa using hc⟩
  · rintro ⟨piece, hpiece, hc⟩
    have hc : c ∈ (String.ofList piece).toList := by simpa using hc
    refine ⟨String.ofList piece, List.mem_filter.2 ⟨List.mem_map_of_mem hpiece, ?_⟩, hc⟩
    have hname : IsName (String.ofList piece) := by
      constructor
      · intro he
        rw [he] at hc
        cases hc
      · intro he
        rw [he] at hc
        exact hpoint (List.mem_singleton.1 hc)
    exact decide_eq_true hname

end Path

/-! ## Output paths -/

/-- What is put in place of the extension of an output path. -/
def pageExtension : List Char :=
  ".html".toList

theorem ofList_pageExtension : String.ofList pageExtension = ".html" :=
  String.ofList_toList

/-- What ends in this extension is no shorter text. -/
theorem append_pageExtension_ne (chars : List Char) {short : String} (h : short.length < 5) :
    String.ofList (chars ++ pageExtension) ≠ short := by
  rintro rfl
  rw [String.length_ofList, List.length_append] at h
  exact absurd h (by simp [pageExtension])

theorem isName_append_pageExtension (chars : List Char) :
    Path.IsName (String.ofList (chars ++ pageExtension)) :=
  ⟨append_pageExtension_ne chars (by decide), append_pageExtension_ne chars (by decide)⟩

/-- The characters of a text from the last separator on, and those before. -/
theorem exists_split (chars : List Char) : ∃ directory name, chars = directory ++ name ∧
    (∀ c ∈ name, isSeparator c = false) ∧
    directory = (chars.reverse.dropWhile fun c => !isSeparator c).reverse ∧
    name = (chars.reverse.takeWhile fun c => !isSeparator c).reverse := by
  refine ⟨_, _, ?_, fun c hc => ?_, rfl, rfl⟩
  · rw [← List.reverse_append, List.takeWhile_append_dropWhile, List.reverse_reverse]
  · simpa using List.mem_takeWhile_imp (List.mem_reverse.1 hc)

/-- The output path and the path of the page go on behind the same stem : the one with its
extension, the other with `.html`. -/
theorem exists_extension (output : String) : ∃ stem extension,
    output.toList = stem ++ extension ∧ '/' ∉ extension ∧
      pageBeside output = .ofText (String.ofList (stem ++ pageExtension)) := by
  obtain ⟨directory, name, hchars, hname, hdirectory, htaken⟩ := exists_split output.toList
  have hslash : '/' ∉ name := fun hmem => by cases hname '/' hmem
  unfold pageBeside directoryAndBase
  dsimp only
  rw [← htaken, ← hdirectory]
  split
  · next base extension hsplit =>
    have hbase := Text.splitBeforeLast?_append hsplit
    refine ⟨directory ++ base, extension, ?_, fun hmem => hslash ?_, ?_⟩
    · rw [hchars, ← hbase, List.append_assoc]
    · exact hbase ▸ List.mem_append_right _ hmem
    · rw [String.ofList_append, String.ofList_append, ofList_pageExtension]
  · refine ⟨directory ++ name, [], ?_, List.not_mem_nil, ?_⟩
    · rw [hchars, List.append_nil]
    · rw [String.ofList_append, String.ofList_append, ofList_pageExtension]

/-- An output path with this extension is the path of the page. -/
theorem pageBeside_of_suffix {output : String} (h : pageExtension <:+ output.toList) :
    pageBeside output = .ofText output := by
  obtain ⟨stem, hstem⟩ := h
  have hnone : ∀ c ∈ pageExtension.reverse, (!isSeparator c) = true := by
    simp [pageExtension, isSeparator]
  have hpoint : ∀ c ∈ "html".toList, (c == '.') = false := by simp
  have hextension : pageExtension = '.' :: "html".toList := rfl
  unfold pageBeside directoryAndBase
  dsimp only
  rw [← hstem, List.reverse_append, List.takeWhile_append_of_pos hnone,
    List.dropWhile_append_of_pos hnone, List.reverse_append, List.reverse_reverse, hextension,
    Text.splitBeforeLast?_append_cons rfl hpoint]
  dsimp only
  -- what was cut off stands in front of the extension again
  rw [← String.ofList_append, ← List.reverse_append, List.takeWhile_append_dropWhile,
    List.reverse_reverse]
  rw [← String.ofList_toList (s := output), ← hstem, String.ofList_append, ofList_pageExtension]

end PageCompiler
