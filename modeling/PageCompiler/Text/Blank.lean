import PageCompiler.Text.Cut
import PageCompiler.Text.Spans

/-!
# Blank characters, stripping and words

The blank characters are those of Unicode's white-space property together with the four
information separators U+001C to U+001F. `strip` drops them at both ends of a text, `words` cuts a
text at every run of them, and `isBlankText` says that nothing else occurs.

A word is never empty and holds no blank (`mem_words`), so a text has no words exactly when it is
blank. Nothing is left of a text by `strip` exactly when it is blank, too (`strip_eq_empty_iff`).
-/

namespace PageCompiler.Text

/-- The code points of the blank characters. -/
def blankSpans : Spans :=
  [(0x09, 0x0D), (0x1C, 0x20), (0x85, 0x85), (0xA0, 0xA0), (0x1680, 0x1680), (0x2000, 0x200A),
   (0x2028, 0x2029), (0x202F, 0x202F), (0x205F, 0x205F), (0x3000, 0x3000)]

/-- Space, tab, line ends and the other characters that separate words. -/
def isBlank (c : Char) : Bool :=
  blankSpans.mem c

/-- The characters with the blanks at the end dropped. -/
def dropBlankEnd : List Char → List Char
  | [] => []
  | c :: rest =>
    match dropBlankEnd rest with
    | [] => if isBlank c then [] else [c]
    | kept => c :: kept

/-- The characters without the blanks at either end. -/
def stripChars (cs : List Char) : List Char :=
  dropBlankEnd (cs.dropWhile isBlank)

/-- The text without the blanks at either end. -/
def strip (text : String) : String :=
  String.ofList (stripChars text.toList)

/-- Every character of the text is blank. -/
def isBlankText (text : String) : Bool :=
  text.toList.all isBlank

/-- The words of a text, in order: its longest runs of characters that are not blank. -/
def words (text : String) : List String :=
  ((pieces isBlank text.toList).filter fun piece => !piece.isEmpty).map String.ofList

/-- A word is not empty and holds no blank. -/
theorem mem_words {text word : String} (h : word ∈ words text) :
    word ≠ "" ∧ ∀ c ∈ word.toList, isBlank c = false := by
  obtain ⟨piece, hpiece, rfl⟩ := List.mem_map.1 h
  obtain ⟨hmem, hne⟩ := List.mem_filter.1 hpiece
  refine ⟨?_, by simpa using pieces_holds_none hmem⟩
  intro he
  have : piece = [] := by simpa using congrArg String.toList he
  simp [this] at hne

theorem dropBlankEnd_eq_nil_iff : ∀ {cs : List Char},
    dropBlankEnd cs = [] ↔ ∀ c ∈ cs, isBlank c = true
  | [] => by simp [dropBlankEnd]
  | c :: rest => by
    rw [dropBlankEnd, List.forall_mem_cons, ← dropBlankEnd_eq_nil_iff]
    split
    · next hrest => simp [hrest]
    · next hrest => exact iff_of_false (List.cons_ne_nil _ _) fun h => hrest h.2

/-- Only a blank text has nothing between the blanks at its ends. -/
theorem strip_eq_empty_iff {text : String} : strip text = "" ↔ isBlankText text = true := by
  have hchars : strip text = "" ↔ stripChars text.toList = [] := by
    rw [strip, ← String.toList_inj, String.toList_ofList]
    rfl
  rw [hchars, stripChars, dropBlankEnd_eq_nil_iff, isBlankText, List.all_eq_true]
  refine ⟨fun h c hmem => ?_, fun h c hmem => h c ((List.dropWhile_suffix _).subset hmem)⟩
  rw [← List.takeWhile_append_dropWhile (p := isBlank) (l := text.toList)] at hmem
  exact (List.mem_append.1 hmem).elim (List.all_eq_true.1 List.all_takeWhile c) (h c)

end PageCompiler.Text
