import Mathlib.Data.List.TakeWhile
import PageCompiler.Proofs.Markup.ReadNames
import PageCompiler.Proofs.Markup.Tokens

/-!
# A start tag alone

What is read of a start tag does not depend on what stands behind it : a start tag that is read off
a text is read off its own spelling, with the same name and attributes
(`readStartTag_spelling_self`). Read alone, it is a document with one element (`parse_startTag`).

Readers stop at the `>` that ends the spelling, or before it, since no name and no bare value holds
one. Only a quoted value can go on behind it. But then less is left than what stands behind the
tag (`StaysIn.beyond`), and this cannot be, for a reader leaves no more than the readers before it.
-/

namespace PageCompiler.Markup

/-! ## Texts that end in `>` -/

section

variable {text rest part later : List Char} {p : Char → Bool}

theorem angle_suffix_of_suffix (h : ['>'] <:+ text) (hs : rest <:+ text) (hne : rest ≠ []) :
    ['>'] <:+ rest :=
  List.suffix_of_suffix_length_le h hs (List.length_pos_iff.2 hne)

theorem angle_suffix_tail {c : Char} (h : ['>'] <:+ c :: text) (hc : c ≠ '>') : ['>'] <:+ text :=
  (List.suffix_cons_iff.1 h).resolve_left fun heq => hc (List.cons.inj heq).1.symm

/-- A run that ends within the first part is not changed by what follows. -/
theorem span_append (h : part.dropWhile p ≠ []) (later : List Char) :
    (part ++ later).takeWhile p = part.takeWhile p ∧
      (part ++ later).dropWhile p = part.dropWhile p ++ later := by
  have hparts := congrArg List.length (List.takeWhile_append_dropWhile (p := p) (l := part))
  have hpos := List.length_pos_iff.2 h
  rw [List.length_append] at hparts
  rw [List.takeWhile_append, List.dropWhile_append, if_neg (by omega), if_neg (by simpa using h)]
  exact ⟨rfl, rfl⟩

/-- A run without `>` ends before the one at the end. -/
theorem span_of_angle (h : ['>'] <:+ part) (hp : p '>' = false) (later : List Char) :
    (part ++ later).takeWhile p = part.takeWhile p ∧
      (part ++ later).dropWhile p = part.dropWhile p ++ later ∧ ['>'] <:+ part.dropWhile p := by
  have hne : part.dropWhile p ≠ [] := fun hnil => by
    have hall := List.dropWhile_eq_nil_iff.1 hnil '>' (h.subset (List.mem_singleton_self _))
    exact Bool.false_ne_true (hp.symm.trans hall)
  obtain ⟨htake, hdrop⟩ := span_append hne later
  exact ⟨htake, hdrop, angle_suffix_of_suffix h (List.dropWhile_suffix p) hne⟩

theorem splitSeparators_of_angle (later : List Char) : ∀ {part : List Char}, ['>'] <:+ part →
    splitSeparators (part ++ later) = ((splitSeparators part).1, (splitSeparators part).2 ++ later) ∧
      ['>'] <:+ (splitSeparators part).2
  | [], h => absurd (List.suffix_nil.1 h) (List.cons_ne_nil _ _)
  | c :: part, h => by
    by_cases hc : c = '>'
    · subst hc
      have hstop : ∀ text, splitSeparators ('>' :: text) = ([], '>' :: text) := fun text => by
        simp [splitSeparators, Text.isBlank, Text.blankSpans, Text.Spans.mem]
      rw [List.cons_append, hstop, hstop]
      exact ⟨rfl, h⟩
    · have htail := angle_suffix_tail h hc
      obtain ⟨ih, hends⟩ := splitSeparators_of_angle later htail
      have hhead : (part ++ later).head? = part.head? := by
        cases part with
        | nil => cases List.suffix_nil.1 htail
        | cons d part => rfl
      rw [List.cons_append, splitSeparators, splitSeparators, hhead, ih]
      split
      · exact ⟨rfl, hends⟩
      · exact ⟨rfl, h⟩

end

/-! ## Readers that stay in a part of the text -/

/-- What is read off a text and what is read off its first part are the same, up to what stands
behind that part; or reading goes on behind it. -/
inductive StaysIn {α : Type} (later : List Char) :
    Option (α × List Char) → Option (α × List Char) → Prop
  | none : StaysIn later none none
  | within {a : α} {rest : List Char} : ['>'] <:+ rest →
      StaysIn later (some (a, rest ++ later)) (some (a, rest))
  | beyond {a : α} {rest : List Char} {found : Option (α × List Char)} :
      rest.length < later.length → StaysIn later (some (a, rest)) found

theorem staysIn_attributeValue? {part : List Char} (h : ['>'] <:+ part) (later : List Char) :
    StaysIn later (attributeValue? (part ++ later)) (attributeValue? part) := by
  have hblank : Text.isBlank '>' = false := by decide
  obtain ⟨hbefore, hafterBefore, h₁⟩ := span_of_angle h hblank later
  obtain ⟨hsigns, hafterSigns, h₂⟩ := span_of_angle (p := (· == '=')) h₁ (by decide) later
  obtain ⟨hgap, hrest, h₃⟩ := span_of_angle h₂ hblank later
  unfold attributeValue?
  dsimp only
  rw [hbefore, hafterBefore, hsigns, hafterSigns, hgap, hrest]
  generalize part.takeWhile Text.isBlank = before at *
  generalize part.dropWhile Text.isBlank = afterBefore at *
  generalize afterBefore.takeWhile (· == '=') = signs at *
  generalize afterBefore.dropWhile (· == '=') = afterSigns at *
  generalize afterSigns.takeWhile Text.isBlank = gap at *
  generalize afterSigns.dropWhile Text.isBlank = rest at *
  obtain ⟨hbare, hafterBare, hends⟩ := span_of_angle (p := isBareValueChar) h₃ (by decide) later
  by_cases hnone : signs = []
  · rw [if_pos hnone, if_pos hnone]
    exact .none
  rw [if_neg hnone, if_neg hnone]
  cases rest with
  | nil => cases List.suffix_nil.1 h₃
  | cons quote inner =>
    rw [List.cons_append] at *
    dsimp only
    rw [hbare, hafterBare]
    by_cases hquote : isQuote quote
    · rw [if_pos hquote, if_pos hquote]
      have hne : quote ≠ '>' := by
        rintro rfl
        exact absurd hquote (by decide)
      have hinner := angle_suffix_tail h₃ hne
      cases hclosed : inner.dropWhile (· != quote) with
      | cons closing after =>
        -- The value ends within the part.
        obtain ⟨hvalue, hafter⟩ := span_append (hclosed ▸ List.cons_ne_nil _ _) later
        rw [hvalue, hafter, hclosed]
        have hstop : (closing != quote) = false := by
          have := List.head?_dropWhile_not (· != quote) inner
          rwa [hclosed] at this
        have hclosing : closing ≠ '>' := (bne_eq_false_iff_eq.1 hstop).trans_ne hne
        have hends := angle_suffix_of_suffix hinner (List.dropWhile_suffix (· != quote))
          (hclosed ▸ List.cons_ne_nil _ _)
        rw [hclosed] at hends
        exact .within (angle_suffix_tail hends hclosing)
      | nil =>
        -- The value ends behind the part, or does not end.
        have hopen : (inner ++ later).dropWhile (· != quote) = later.dropWhile (· != quote) := by
          rw [List.dropWhile_append, hclosed]
          rfl
        rw [hopen]
        cases hbehind : later.dropWhile (· != quote) with
        | cons closing after =>
          have hle := length_dropWhile_le (· != quote) later
          rw [hbehind] at hle
          exact .beyond hle
        | nil =>
          dsimp only
          split
          · exact .within (h₃.trans (List.suffix_cons _ _))
          · split
            · exact .within hends
            · exact .none
    · rw [if_neg hquote, if_neg hquote]
      exact .within hends

theorem length_splitSeparators_le (text : List Char) :
    (splitSeparators text).2.length ≤ text.length := by
  have hparts := congrArg List.length (splitSeparators_append text)
  rw [List.length_append] at hparts
  omega

theorem staysIn_attribute? (previous : Char) {part : List Char} (h : ['>'] <:+ part)
    (later : List Char) :
    StaysIn later (attribute? previous (part ++ later)) (attribute? previous part) := by
  cases part with
  | nil => cases List.suffix_nil.1 h
  | cons c part =>
    rw [List.cons_append, attribute?, attribute?]
    by_cases hopens : (opensAttribute previous && isAttributeStart c) = true
    · rw [if_pos hopens, if_pos hopens]
      have hc : c ≠ '>' := by
        rintro rfl
        simp [isAttributeStart] at hopens
      obtain ⟨hname, hafter, hends⟩ := span_of_angle (p := isAttributeNameChar)
        (angle_suffix_tail h hc) (by decide) later
      rw [hname, hafter]
      dsimp only
      have hvalue := staysIn_attributeValue? hends later
      generalize attributeValue? (part.dropWhile isAttributeNameChar ++ later) = whole at *
      generalize attributeValue? (part.dropWhile isAttributeNameChar) = found at *
      cases hvalue with
      | none =>
        obtain ⟨hseparators, hends⟩ := splitSeparators_of_angle later hends
        rw [hseparators]
        exact .within hends
      | within hrest =>
        obtain ⟨hseparators, hends⟩ := splitSeparators_of_angle later hrest
        dsimp only
        rw [hseparators]
        exact .within hends
      | beyond hshort => exact .beyond (Nat.lt_of_le_of_lt (length_splitSeparators_le _) hshort)
    · rw [if_neg hopens, if_neg hopens]
      exact .none

theorem length_readAttributes_le (previous : Char) (text : List Char) :
    (readAttributes previous text).2.length ≤ text.length := by
  have hparts := congrArg List.length (readAttributes_spelling previous text)
  rw [List.length_append] at hparts
  omega

theorem length_readAttributes_le_of_attribute? {previous : Char} {text rest : List Char}
    {a : WrittenAttribute} (h : attribute? previous text = some (a, rest)) :
    (readAttributes previous text).2.length ≤ rest.length := by
  rw [readAttributes_of_attribute? h]
  exact length_readAttributes_le _ rest

/-- Attributes are read as they are without what stands behind the part, or less is left than what
stands there. -/
theorem readAttributes_of_angle (later : List Char) (previous : Char) (part : List Char)
    (h : ['>'] <:+ part) :
    (readAttributes previous (part ++ later) =
        ((readAttributes previous part).1, (readAttributes previous part).2 ++ later) ∧
      ['>'] <:+ (readAttributes previous part).2) ∨
    (readAttributes previous (part ++ later)).2.length < later.length := by
  fun_induction readAttributes previous part with
  | case1 previous part hnone =>
    have hstays := staysIn_attribute? previous h later
    generalize hwhole : attribute? previous (part ++ later) = whole at hstays
    rw [hnone] at hstays
    cases hstays with
    | none => exact .inl ⟨readAttributes_of_none hwhole, h⟩
    | beyond hshort =>
      exact .inr (Nat.lt_of_le_of_lt (length_readAttributes_le_of_attribute? hwhole) hshort)
  | case2 previous part a rest hsome _ more ih =>
    have hstays := staysIn_attribute? previous h later
    generalize hwhole : attribute? previous (part ++ later) = whole at hstays
    rw [hsome] at hstays
    cases hstays with
    | within hends =>
      rw [readAttributes_of_attribute? hwhole]
      rcases ih hends with ⟨hsame, hrest⟩ | hshort
      · rw [hsame]
        exact .inl ⟨rfl, hrest⟩
      · exact .inr hshort
    | beyond hshort =>
      exact .inr (Nat.lt_of_le_of_lt (length_readAttributes_le_of_attribute? hwhole) hshort)

/-! ## The whole tag -/

/-- A start tag that is read off a text is read off its own spelling. -/
theorem readStartTag_spelling_self {front later : List Char} {name : String}
    {values : List (String × Option String)} {selfClosing : Bool}
    (h : readStartTag ('<' :: (front ++ later)) =
      .ok (.tag ('<' :: front) name values selfClosing, later)) :
    readStartTag ('<' :: front) = .ok (.tag ('<' :: front) name values selfClosing, []) := by
  obtain ⟨hname, hvalues, hclosing, hspelling⟩ := tagReading_of_readStartTag h
  have hangle : ['>'] <:+ front := by
    refine angle_suffix_tail (c := '<') ?_ (by decide)
    rw [hspelling]
    refine List.IsSuffix.trans ?_ (List.suffix_append _ _)
    cases selfClosing
    · exact List.suffix_rfl
    · exact List.suffix_cons _ _
  obtain ⟨htake, hdrop, hends⟩ := span_of_angle (p := isTagNameChar) hangle (by decide) later
  obtain ⟨hseparators, hends⟩ := splitSeparators_of_angle later hends
  have hfront : tagFront (front ++ later) = tagFront front := by
    rw [tagFront, tagFront, htake, hdrop, hseparators]
  rw [tagAttributes, hfront, hdrop, hseparators] at hclosing hvalues hspelling
  rw [htake] at hname
  obtain ⟨hsame, -⟩ := (readAttributes_of_angle later ((tagFront front).getLastD '<') _
    hends).resolve_right fun hshort => by
      rw [hclosing, List.length_append] at hshort
      omega
  rw [hsame] at hclosing hvalues hspelling
  rw [← tagAttributes] at hclosing hvalues hspelling
  refine TagReading.readStartTag ⟨hname, hvalues, ?_, hspelling⟩
  rw [List.append_nil]
  exact List.append_cancel_right hclosing

/-! ## The document of a start tag -/

section

variable {spelling : List Char} {name : String} {values : List (String × Option String)}
  {selfClosing : Bool}

/-- A text that is a start tag is read as that tag, also where raw text would follow. -/
theorem readEvents_startTag {c : Char} {front : List Char} (hc : isLetter c)
    (h : readStartTag ('<' :: c :: front) = .ok (.tag spelling name values selfClosing, [])) :
    readEvents ('<' :: c :: front) =
      .ok [.startTag (String.ofList spelling) name values selfClosing] := by
  have hconstruct : readConstruct none ('<' :: c :: front) =
      .ok (some ([.startTag (String.ofList spelling) name values selfClosing],
        if !selfClosing && rawTextTags.contains name then some name else none, [])) := by
    simp only [readConstruct, hc, if_true, h]
  have hround : readRound false none ('<' :: c :: front) = _ :=
    readRound_of_next (step_of_readConstruct hconstruct) (List.cons_ne_nil _ _)
  rw [readRound_nil] at hround
  rw [readEvents, hround]
  simp [Round.after, readRound_nil, bind, Except.bind, pure, Except.pure, Functor.map, Except.map]

/-- The document of a single start tag has its element as the only child. -/
theorem ofEvents_startTag (spelling name : String) (values : List (String × Option String))
    (selfClosing : Bool) : ofEvents [.startTag spelling name values selfClosing] =
      ⟨documentHead,
        .element (Building.readHead 1 spelling name values selfClosing) .nil .nil⟩ := by
  have himplied : Building.start.endImplied name = .start := by
    unfold Building.endImplied
    split <;> rfl
  have hadd : ofEvents [.startTag spelling name values selfClosing] =
      (Building.start.openElement spelling name values selfClosing).finish := rfl
  rw [hadd, Building.openElement, himplied]
  dsimp only
  split
  · rfl
  · split <;> rfl

theorem parse_startTag {text : String} {c : Char} {front : List Char}
    (htext : text.toList = '<' :: c :: front) (hc : isLetter c)
    (h : readStartTag text.toList = .ok (.tag text.toList name values selfClosing, [])) :
    parse text = .ok ⟨documentHead,
      .element (Building.readHead 1 text name values selfClosing) .nil .nil⟩ := by
  rw [htext] at h
  rw [parse, htext, readEvents_startTag hc h, ← htext, String.ofList_toList, ← ofEvents_startTag]
  rfl

end

end PageCompiler.Markup
