import PageCompiler.Proofs.Markup.Spelling
import PageCompiler.Proofs.Markup.Tokens

/-!
# Comments, document types, instructions and data sections

A text that is one construct of these kinds is read in one step (`parse_of_step`), as a document
with that construct as its only node. A comment, a document type and an instruction come back as
they stand in the text, whatever they hold.

A data section does not. The event of a section carries what stands before its end, and it is
written with one bracket and `>`, as the end of a conditional section is; but a data section ends
in two brackets, so one of them is lost (`writtenAs_construct`, `dataSection_not_kept`).
-/

namespace PageCompiler.Markup

/-- A text can be read, and the document that it is read as has this markup. -/
def WrittenAs (text shown : String) : Prop :=
  ∃ document, parse text = .ok document ∧ document.html = shown

/-- The document whose only node is a leaf has the markup of that leaf. -/
theorem html_leaf (leaf : Leaf) :
    Element.html ⟨documentHead, .leaf leaf .nil⟩ = leaf.html := by
  simp [Element.html, Head.html, Forest.html]

/-- A text that is read in one step, as a leaf, makes that leaf the whole document. -/
theorem parse_of_step {text : List Char} {event : Event} {leaf : Leaf}
    (hleaf : event.leaf? = some leaf) (hne : text ≠ [])
    (h : step false none text = .ok (.next [event] none [])) :
    parse (String.ofList text) = .ok ⟨documentHead, .leaf leaf .nil⟩ := by
  have hround := readRound_of_next h hne
  rw [readRound_nil] at hround
  have hevents : readEvents text = .ok [event] := by
    rw [readEvents, hround]
    simp [Round.after, readRound_nil, bind, Except.bind, pure, Except.pure, Functor.map,
      Except.map]
  have hdocument : ofEvents [event] = ⟨documentHead, .leaf leaf .nil⟩ := by
    cases event <;> cases hleaf <;> rfl
  rw [parse, String.toList_ofList, hevents, ← hdocument]
  rfl

theorem writtenAs_of_step {text shown : String} {event : Event} {leaf : Leaf}
    (hleaf : event.leaf? = some leaf) (hshown : leaf.html = shown) (hne : text.toList ≠ [])
    (h : step false none (text.toList ++ []) = .ok (.next [event] none [])) :
    WrittenAs text shown := by
  rw [List.append_nil] at h
  have hparse := parse_of_step hleaf hne h
  rw [String.ofList_toList] at hparse
  exact ⟨_, hparse, (html_leaf leaf).trans hshown⟩

/-! ## Data sections -/

/-- The keyword of a data section and what opens it. -/
def dataKeyword : List Char := ['C', 'D', 'A', 'T', 'A', '[']

/-- A data section as it is written. -/
def dataSectionChars (data : List Char) : List Char :=
  '<' :: '!' :: '[' :: (dataKeyword ++ (data ++ [']', ']', '>']))

/-- A section ends as its keyword says. -/
theorem readSection_of_keyword {c d : Char} {name back : List Char} {delimiter : Delimiter}
    (hc : isLetter c) (hname : ∀ e ∈ name, isKeywordChar e) (hd : isKeywordChar d = false)
    (hb : Text.isBlank d = false)
    (hends : sectionDelimiter? (Text.lower (String.ofList (c :: name))) = some delimiter) :
    readSection ('<' :: '!' :: '[' :: c :: (name ++ d :: back)) =
      .ok (readTo delimiter .markedSection ('<' :: '!' :: '[' :: c :: (name ++ d :: back)) 3) := by
  have hend : ∀ e ∈ (d :: back).head?, isKeywordChar e = false := by
    rintro e ⟨⟩
    exact hd
  unfold readSection
  simp only [List.drop_succ_cons, List.drop_zero, hc, if_true, takeWhile_append hname hend,
    dropWhile_append hname hend, hends]
  rw [if_neg (by simp [hb])]

theorem sectionDelimiter?_data :
    sectionDelimiter? (Text.lower (String.ofList ['C', 'D', 'A', 'T', 'A'])) = some sectionEnd := by
  have hlower : Text.lower (String.ofList ['C', 'D', 'A', 'T', 'A']) = "cdata" := by decide
  rw [hlower]
  rfl

/-- A data section is read up to the first place where it can end. -/
theorem step_dataSection {final : Bool} {data : List Char} (h : ¬sectionEnd.OccursIn data)
    (rest : List Char) :
    step final none (dataSectionChars data ++ rest) =
      .ok (.next [.markedSection (String.ofList (dataKeyword ++ data))] none rest) := by
  have htext : dataSectionChars data ++ rest = '<' :: '!' :: '[' :: 'C' ::
      (['D', 'A', 'T', 'A'] ++ '[' :: (data ++ ']' :: ']' :: '>' :: rest)) := by
    simp [dataSectionChars, dataKeyword]
  have hkeyword : ∀ e ∈ ['D', 'A', 'T', 'A'], isKeywordChar e :=
    List.all_eq_true.1 (show ['D', 'A', 'T', 'A'].all isKeywordChar = true by decide)
  have hread : readSection ('<' :: '!' :: '[' :: 'C' ::
      (['D', 'A', 'T', 'A'] ++ '[' :: (data ++ ']' :: ']' :: '>' :: rest))) = .ok _ :=
    readSection_of_keyword (by decide) hkeyword (by decide) (by decide) sectionDelimiter?_data
  have hnone : ¬sectionEnd.OccursIn (dataKeyword ++ data) := by
    simpa [dataKeyword, Delimiter.occursIn_cons, sectionEnd] using h
  have hsplit : splitAt? sectionEnd ('C' ::
      (['D', 'A', 'T', 'A'] ++ '[' :: (data ++ ']' :: ']' :: '>' :: rest))) =
        some (dataKeyword ++ data, rest) := splitAt?_sectionEnd hnone rest
  rw [htext]
  apply step_of_readDeclaration (.inl rfl)
  rw [readDeclaration, hread, readTo, List.drop_succ_cons, List.drop_succ_cons,
    List.drop_succ_cons, List.drop_zero, hsplit]
  rfl

/-! ## What is written back -/

theorem writtenAs_comment {data : String} (h : ¬commentEnd.OccursIn data.toList) :
    WrittenAs ("<!--" ++ data ++ "-->") ("<!--" ++ data ++ "-->") := by
  have htext : ("<!--" ++ data ++ "-->").toList = (Token.comment data.toList).chars := by
    simp [Token.chars]
  refine writtenAs_of_step rfl ?_ (by simp) (htext ▸ step_comment h [])
  rw [Leaf.html, String.ofList_toList]

theorem writtenAs_doctype {data : String} (h : '>' ∉ data.toList) :
    WrittenAs ("<!DOCTYPE" ++ data ++ ">") ("<!DOCTYPE" ++ data ++ ">") := by
  have htext : ("<!DOCTYPE" ++ data ++ ">").toList = (Token.doctype data.toList).chars := by
    simp [Token.chars]
  refine writtenAs_of_step rfl (String.toList_injective ?_) (by simp) (htext ▸ step_doctype h [])
  simp [Leaf.html]

theorem writtenAs_instruction {data : String} (h : '>' ∉ data.toList) :
    WrittenAs ("<?" ++ data ++ ">") ("<?" ++ data ++ ">") := by
  have htext : ("<?" ++ data ++ ">").toList = (Token.instruction data.toList).chars := by
    simp [Token.chars]
  refine writtenAs_of_step rfl ?_ (by simp) (htext ▸ step_instruction h [])
  rw [Leaf.html, String.ofList_toList]

theorem writtenAs_dataSection {data : String} (h : ¬sectionEnd.OccursIn data.toList) :
    WrittenAs ("<![CDATA[" ++ data ++ "]]>") ("<![CDATA[" ++ data ++ "]>") := by
  have htext : ("<![CDATA[" ++ data ++ "]]>").toList = dataSectionChars data.toList := by
    simp [dataSectionChars, dataKeyword]
  refine writtenAs_of_step rfl (String.toList_injective ?_) (by simp)
    (htext ▸ step_dataSection h [])
  simp [Leaf.html, dataKeyword]

/-- A comment, a document type and an instruction are written back as they are read. A data section
is written back with one bracket less at its end. -/
theorem writtenAs_construct (data : String) :
    (¬commentEnd.OccursIn data.toList →
      WrittenAs ("<!--" ++ data ++ "-->") ("<!--" ++ data ++ "-->")) ∧
    ('>' ∉ data.toList → WrittenAs ("<!DOCTYPE" ++ data ++ ">") ("<!DOCTYPE" ++ data ++ ">")) ∧
    ('>' ∉ data.toList → WrittenAs ("<?" ++ data ++ ">") ("<?" ++ data ++ ">")) ∧
    (¬sectionEnd.OccursIn data.toList →
      WrittenAs ("<![CDATA[" ++ data ++ "]]>") ("<![CDATA[" ++ data ++ "]>")) :=
  ⟨writtenAs_comment, writtenAs_doctype, writtenAs_instruction, writtenAs_dataSection⟩

/-- Hyphens and brackets, so that an end seems to begin in each of them. -/
theorem writtenAs_construct_brackets :
    (¬commentEnd.OccursIn "--]] -".toList ∧ '>' ∉ "--]] -".toList ∧
      ¬sectionEnd.OccursIn "--]] -".toList) ∧
    WrittenAs "<!----]] --->" "<!----]] --->" ∧
    WrittenAs "<!DOCTYPE--]] ->" "<!DOCTYPE--]] ->" ∧ WrittenAs "<?--]] ->" "<?--]] ->" ∧
    WrittenAs "<![CDATA[--]] -]]>" "<![CDATA[--]] -]>" := by
  have hcomment : ¬commentEnd.OccursIn "--]] -".toList := by decide
  have hangle : '>' ∉ "--]] -".toList := by decide
  have hsection : ¬sectionEnd.OccursIn "--]] -".toList := by decide
  obtain ⟨h₁, h₂, h₃, h₄⟩ := writtenAs_construct "--]] -"
  exact ⟨⟨hcomment, hangle, hsection⟩, h₁ hcomment, h₂ hangle, h₃ hangle, h₄ hsection⟩

/-- A data section is not written back as it is read. -/
theorem dataSection_not_kept :
    ¬sectionEnd.OccursIn "x".toList ∧ "x".toList.getLast? ≠ some ']' ∧
      ¬WrittenAs "<![CDATA[x]]>" "<![CDATA[x]]>" := by
  have hsection : ¬sectionEnd.OccursIn "x".toList := by decide
  refine ⟨hsection, by decide, ?_⟩
  rintro ⟨document, hparse, hhtml⟩
  obtain ⟨other, hparse', hhtml'⟩ := writtenAs_dataSection hsection
  obtain rfl := Except.ok.inj (hparse.symm.trans hparse')
  exact absurd (hhtml.symm.trans hhtml') (by decide)

end PageCompiler.Markup
