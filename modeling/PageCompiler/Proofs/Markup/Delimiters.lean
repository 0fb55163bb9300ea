import Mathlib.Data.List.TakeWhile
import PageCompiler.Proofs.Markup.Names

/-!
# Where a construct ends

A construct runs to the first place where its delimiter is recognised. `splitAt?_append` finds that
place behind a text in which the delimiter does not occur, provided that no occurrence begins in the
text and ends behind it. For the delimiters of comments, data sections and raw text that cannot
happen : what stands behind the text begins with a character at which a match that is under way
breaks off (`commentEnd_append`, `sectionEnd_append`, `rawTextEnd_append`).
-/

namespace PageCompiler.Markup

/-- The delimiter is recognised somewhere in the text. -/
def Delimiter.OccursIn (delimiter : Delimiter) (text : List Char) : Prop :=
  ∃ rest, rest <:+ text ∧ delimiter rest ≠ none

theorem Delimiter.eq_none_of_not_occursIn {delimiter : Delimiter} {text rest : List Char}
    (h : ¬delimiter.OccursIn text) (hs : rest <:+ text) : delimiter rest = none :=
  Classical.byContradiction fun hne => h ⟨rest, hs, hne⟩

theorem Delimiter.occursIn_nil {delimiter : Delimiter} :
    delimiter.OccursIn [] ↔ delimiter [] ≠ none := by
  constructor
  · rintro ⟨rest, hs, h⟩
    exact List.suffix_nil.1 hs ▸ h
  · exact fun h => ⟨[], List.suffix_refl _, h⟩

theorem Delimiter.occursIn_cons {delimiter : Delimiter} {c : Char} {text : List Char} :
    delimiter.OccursIn (c :: text) ↔ delimiter (c :: text) ≠ none ∨ delimiter.OccursIn text := by
  constructor
  · rintro ⟨rest, hs, h⟩
    rcases List.suffix_cons_iff.1 hs with rfl | hs
    · exact .inl h
    · exact .inr ⟨rest, hs, h⟩
  · rintro (h | ⟨rest, hs, h⟩)
    · exact ⟨c :: text, List.suffix_refl _, h⟩
    · exact ⟨rest, hs.trans (List.suffix_cons c text), h⟩

instance Delimiter.decidableOccursIn (delimiter : Delimiter) :
    DecidablePred delimiter.OccursIn
  | [] => decidable_of_iff _ occursIn_nil.symm
  | _ :: text =>
    have := decidableOccursIn delimiter text
    decidable_of_iff _ occursIn_cons.symm

/-- The first occurrence stands behind a text in which none begins. -/
theorem splitAt?_append {delimiter : Delimiter} {c : Char} {back after : List Char}
    (hback : delimiter (c :: back) = some after) :
    ∀ {text : List Char},
      (∀ d rest, d :: rest <:+ text → delimiter (d :: (rest ++ c :: back)) = none) →
      splitAt? delimiter (text ++ c :: back) = some (text, after)
  | [], _ => by rw [List.nil_append, splitAt?, hback]
  | d :: text, h => by
    have hnone := h d text (List.suffix_refl _)
    have hrest : splitAt? delimiter (text ++ c :: back) = some (text, after) :=
      splitAt?_append hback fun e rest hs => h e rest (hs.trans (List.suffix_cons d text))
    rw [List.cons_append, splitAt?, hnone, hrest]
    rfl

theorem splitAt?_angle {text : List Char} (h : '>' ∉ text) (rest : List Char) :
    splitAt? angle (text ++ '>' :: rest) = some (text, rest) := by
  have hend : angle ('>' :: rest) = some rest := rfl
  refine splitAt?_append hend fun d more hs => ?_
  have hd : d ≠ '>' := by
    rintro rfl
    exact h (hs.subset List.mem_cons_self)
  simp [angle, hd]

/-! ## Matches that are under way -/

theorem dropWhile_append_cons {p : Char → Bool} {c : Char} (hc : p c = false) (back : List Char) :
    ∀ text : List Char, (text ++ c :: back).dropWhile p = text.dropWhile p ++ c :: back
  | [] => by simp [hc]
  | d :: text => by
    rw [List.cons_append, List.dropWhile_cons, List.dropWhile_cons]
    split
    · exact dropWhile_append_cons hc back text
    · rfl

theorem takeWhile_append_cons {p : Char → Bool} {c : Char} (hc : p c = false) (back : List Char) :
    ∀ text : List Char, (text ++ c :: back).takeWhile p = text.takeWhile p
  | [] => by simp [hc]
  | d :: text => by
    rw [List.cons_append, List.takeWhile_cons, List.takeWhile_cons]
    split
    · rw [takeWhile_append_cons hc back text]
    · rfl

/-- Before the first bracket stand blanks only, or the delimiter is not there. -/
theorem blanksAngle_append_angle {text : List Char} (h : '>' ∉ text) (rest : List Char) :
    blanksAngle (text ++ '>' :: rest) = if text.all Text.isBlank then some rest else none := by
  rw [blanksAngle, dropWhile_append_cons (by decide)]
  split
  · next hblank =>
    rw [List.dropWhile_eq_nil_iff.2 (List.all_eq_true.1 hblank)]
    rfl
  · next hblank =>
    cases hdrop : text.dropWhile Text.isBlank with
    | nil => exact absurd (List.all_eq_true.2 (List.dropWhile_eq_nil_iff.1 hdrop)) hblank
    | cons d more =>
      have hd : d ≠ '>' := by
        rintro rfl
        exact h ((List.dropWhile_suffix _).subset (hdrop ▸ List.mem_cons_self))
      simp [angle, hd]

theorem blanksAngle_append {c : Char} (hb : Text.isBlank c = false) (hc : c ≠ '>')
    {text : List Char} (h : blanksAngle text = none) (back : List Char) :
    blanksAngle (text ++ c :: back) = none := by
  rw [blanksAngle, dropWhile_append_cons hb]
  rw [blanksAngle] at h
  cases hdrop : text.dropWhile Text.isBlank with
  | nil => simp [angle, hc]
  | cons d rest =>
    have hd : d ≠ '>' := by
      rintro rfl
      rw [hdrop] at h
      simp [angle] at h
    simp [angle, hd]

/-- No comment ends in a text that does not hold the end of one, whatever hyphen follows. -/
theorem commentEnd_append {text : List Char} (h : commentEnd text = none) (hne : text ≠ [])
    (back : List Char) : commentEnd (text ++ '-' :: '-' :: back) = none := by
  have hhyphen : Text.isBlank '-' = false := by decide
  match text, hne with
  | [d], _ =>
    by_cases hd : d = '-'
    · subst hd
      simp [commentEnd, blanksAngle, hhyphen, angle]
    · simp [commentEnd, hd]
  | d :: e :: rest, _ =>
    by_cases hde : d = '-' ∧ e = '-'
    · obtain ⟨rfl, rfl⟩ := hde
      exact blanksAngle_append hhyphen (by decide) h _
    · simp only [List.cons_append]
      unfold commentEnd
      split
      · next heq => simp_all
      · rfl

theorem splitAt?_commentEnd {text : List Char} (h : ¬commentEnd.OccursIn text)
    (rest : List Char) :
    splitAt? commentEnd (text ++ '-' :: '-' :: '>' :: rest) = some (text, rest) := by
  have hend : commentEnd ('-' :: '-' :: '>' :: rest) = some rest := rfl
  refine splitAt?_append hend fun d more hs => ?_
  exact commentEnd_append (Delimiter.eq_none_of_not_occursIn h hs) (by simp) ('>' :: rest)

/-- No data section ends in a text that does not hold the end of one, whatever bracket follows. -/
theorem sectionEnd_append {text : List Char} (h : sectionEnd text = none) (hne : text ≠ [])
    (back : List Char) : sectionEnd (text ++ ']' :: ']' :: '>' :: back) = none := by
  have hbracket : Text.isBlank ']' = false := by decide
  cases text with
  | nil => exact absurd rfl hne
  | cons d rest =>
    by_cases hd : d = ']'
    · subst hd
      simp only [List.cons_append, sectionEnd, dropWhile_append_cons hbracket] at h ⊢
      cases hrest : rest.dropWhile Text.isBlank with
      | nil => rfl
      | cons e more =>
        by_cases he : e = ']'
        · subst he
          rw [hrest] at h
          exact blanksAngle_append hbracket (by decide) h _
        · simp [conditionalEnd, he]
    · simp [sectionEnd, hd]

theorem splitAt?_sectionEnd {text : List Char} (h : ¬sectionEnd.OccursIn text)
    (rest : List Char) :
    splitAt? sectionEnd (text ++ ']' :: ']' :: '>' :: rest) = some (text, rest) := by
  have hend : sectionEnd (']' :: ']' :: '>' :: rest) = some rest := rfl
  refine splitAt?_append hend fun d more hs => ?_
  exact sectionEnd_append (Delimiter.eq_none_of_not_occursIn h hs) (by simp) rest

theorem dropFolded_append {back : List Char} :
    ∀ {tag text : List Char}, '<' ∉ tag → (dropFolded tag text).bind blanksAngle = none →
      (dropFolded tag (text ++ '<' :: back)).bind blanksAngle = none
  | [], text, _, h => blanksAngle_append (by decide) (by decide) h back
  | letter :: tag, [], ht, _ => by
    have hl : letter ≠ '<' := fun he => ht (he ▸ List.mem_cons_self)
    have hfold : Text.foldsTo letter '<' = false := by
      simp [Text.foldsTo, hl.symm]
    simp [dropFolded, hfold]
  | letter :: tag, c :: text, ht, h => by
    have htail : '<' ∉ tag := fun hm => ht (List.mem_cons_of_mem _ hm)
    rw [List.cons_append, dropFolded]
    rw [dropFolded] at h
    split at h
    · next hf => rw [if_pos hf]; exact dropFolded_append htail h
    · next hf => rw [if_neg hf]; rfl

/-- No raw text ends in a text that does not hold its end tag, whatever tag follows. -/
theorem rawTextEnd_append {tag : String} (ht : '<' ∉ tag.toList) {text : List Char}
    (h : rawTextEnd tag text = none) (hne : text ≠ []) (back : List Char) :
    rawTextEnd tag (text ++ '<' :: back) = none := by
  match text, hne with
  | [d], _ =>
    by_cases hd : d = '<'
    · subst hd
      simp [rawTextEnd]
    · simp [rawTextEnd, hd]
  | d :: e :: rest, _ =>
    by_cases hde : d = '<' ∧ e = '/'
    · obtain ⟨rfl, rfl⟩ := hde
      rw [List.cons_append, List.cons_append, rawTextEnd, dropWhile_append_cons (by decide)]
      exact dropFolded_append ht h
    · simp only [List.cons_append]
      unfold rawTextEnd
      split
      · next heq => simp_all
      · rfl

theorem dropFolded_toLower : ∀ {name : List Char}, (∀ c ∈ name, c.toNat < 128) →
    ∀ rest : List Char, dropFolded (name.map Char.toLower) (name ++ rest) = some rest
  | [], _, _ => rfl
  | c :: name, h, rest => by
    have hfold : Text.foldsTo c.toLower c = true := by
      have := h c List.mem_cons_self
      simp [Text.foldsTo, this]
    rw [List.map_cons, List.cons_append, dropFolded, if_pos hfold]
    exact dropFolded_toLower (fun d hd => h d (List.mem_cons_of_mem _ hd)) rest

/-- The end tag with the name of an element ends its raw text. -/
theorem rawTextEnd_name {name : List Char} (h : IsName name) (rest : List Char) :
    rawTextEnd (Text.lower (String.ofList name)) ('<' :: '/' :: (name ++ '>' :: rest)) =
      some rest := by
  have hdrop : (name ++ '>' :: rest).dropWhile Text.isBlank = name ++ '>' :: rest := by
    obtain ⟨c, more, rfl, hc, -⟩ := h
    have hblank := (nameChar_reads (isNameChar_of_isLetter hc)).2.2.2
    rw [List.cons_append, List.dropWhile_cons_of_neg (by simp [hblank])]
  rw [rawTextEnd, hdrop, lower_ascii h.ascii, String.toList_ofList, dropFolded_toLower h.ascii]
  rfl

end PageCompiler.Markup
