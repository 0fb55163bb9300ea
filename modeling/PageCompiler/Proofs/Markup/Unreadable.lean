import PageCompiler.Proofs.Markup.LongReferences
import PageCompiler.Proofs.Markup.TokenSequences
import PageCompiler.Proofs.Markup.WrittenTags

/-!
# Markup that cannot be read

Three constructs cannot be read (`Unreadable`) : a marked section without a keyword, a marked
section with a keyword that is none, and a start tag one of whose values has a decimal reference
with too many digits. A text that cannot be read has such a construct where its reading stops
(`unreadable_of_parse`), and one that has such a construct behind plain tokens cannot be read
(`exists_parse_eq_error`).
-/

namespace PageCompiler.Markup

/-- A text begins with a construct that cannot be read, for this error. -/
inductive Unreadable : List Char → Error → Prop
  | noKeyword {c : Char} {more : List Char} (hc : isLetter c = false) :
      Unreadable ('<' :: '!' :: '[' :: c :: more) (.sectionWithoutKeyword
        (String.ofList (('<' :: '!' :: '[' :: c :: more).take excerptLength)))
  | unknownSection {c d : Char} {keyword blanks more : List Char} (hc : isLetter c)
      (hkeyword : ∀ k ∈ keyword, isKeywordChar k) (hblanks : ∀ b ∈ blanks, Text.isBlank b)
      (hstop : ∀ k ∈ (blanks ++ d :: more).head?, isKeywordChar k = false)
      (hd : Text.isBlank d = false)
      (hnone : sectionDelimiter? (Text.lower (String.ofList (c :: keyword))) = none) :
      Unreadable ('<' :: '!' :: '[' :: c :: (keyword ++ (blanks ++ d :: more)))
        (.unknownSection (String.ofList (c :: (keyword ++ blanks))))
  | longReference {c : Char} {more value back rest : List Char} {selfClosing : Bool}
      {a : WrittenAttribute} {n : Nat} (hc : isLetter c)
      (hend : (tagAttributes (c :: more)).2 = tagClosing selfClosing ++ rest)
      (ha : a ∈ (tagAttributes (c :: more)).1) (hvalue : a.value = some value)
      (hback : back <:+ value) (hlong : LongReference back n) :
      Unreadable ('<' :: c :: more) (.referenceTooLong n)

/-! ## Sections -/

theorem unreadable_of_readSection {rest : List Char} {e : Error}
    (h : readSection ('<' :: '!' :: '[' :: rest) = .error e) :
    Unreadable ('<' :: '!' :: '[' :: rest) e := by
  unfold readSection at h
  split at h
  · cases h
  · next c more heq =>
    obtain rfl : rest = c :: more := heq
    split at h
    · next hc =>
      dsimp only at h
      split at h
      · cases h
      · next hbehind =>
        split at h
        · cases h
        · next hnone =>
          obtain ⟨d, later, hlater⟩ := List.exists_cons_of_ne_nil hbehind
          obtain rfl := Except.error.inj h
          have hd : Text.isBlank d = false :=
            forall_head?_dropWhile Text.isBlank (more.dropWhile isKeywordChar) d
              (by rw [hlater]; rfl)
          have hsplit : more.dropWhile isKeywordChar =
              (more.dropWhile isKeywordChar).takeWhile Text.isBlank ++ d :: later := by
            rw [← hlater, List.takeWhile_append_dropWhile]
          have hstop := forall_head?_dropWhile isKeywordChar more
          rw [hsplit] at hstop
          have hunknown := Unreadable.unknownSection hc
            (fun k hk => List.mem_takeWhile_imp hk) (fun b hb => List.mem_takeWhile_imp hb)
            hstop hd hnone
          rwa [← hsplit, List.takeWhile_append_dropWhile] at hunknown
    · next hc =>
      obtain rfl := Except.error.inj h
      exact .noKeyword (by simpa using hc)

theorem readSection_of_noKeyword {c : Char} {more : List Char} (hc : isLetter c = false) :
    readSection ('<' :: '!' :: '[' :: c :: more) = .error (.sectionWithoutKeyword
      (String.ofList (('<' :: '!' :: '[' :: c :: more).take excerptLength))) := by
  simp only [readSection, List.drop_succ_cons, List.drop_zero, hc, Bool.false_eq_true, if_false]

theorem readSection_of_unknown {c d : Char} {keyword blanks more : List Char} (hc : isLetter c)
    (hkeyword : ∀ k ∈ keyword, isKeywordChar k) (hblanks : ∀ b ∈ blanks, Text.isBlank b)
    (hstop : ∀ k ∈ (blanks ++ d :: more).head?, isKeywordChar k = false)
    (hd : Text.isBlank d = false)
    (hnone : sectionDelimiter? (Text.lower (String.ofList (c :: keyword))) = none) :
    readSection ('<' :: '!' :: '[' :: c :: (keyword ++ (blanks ++ d :: more))) =
      .error (.unknownSection (String.ofList (c :: (keyword ++ blanks)))) := by
  have hbehind : ∀ b ∈ (d :: more).head?, Text.isBlank b = false := by
    rintro b ⟨⟩
    exact hd
  simp only [readSection, List.drop_succ_cons, List.drop_zero, hc, if_true,
    takeWhile_append hkeyword hstop, dropWhile_append hkeyword hstop,
    takeWhile_append hblanks hbehind, dropWhile_append hblanks hbehind, hnone, reduceCtorEq,
    if_false, List.cons_append]

theorem unreadable_of_readDeclaration {text : List Char} {e : Error}
    (h : readDeclaration text = .error e) : Unreadable text e := by
  unfold readDeclaration at h
  split at h
  · cases h
  · exact unreadable_of_readSection h
  · cases h
  · split at h <;> cases h

/-! ## Start tags -/

/-- A start tag cannot be read if it ends and its attributes cannot be. -/
theorem readStartTag_eq_error_iff {text : List Char} {e : Error} :
    readStartTag ('<' :: text) = .error e ↔ attributesOf (tagAttributes text).1 = .error e ∧
      ∃ selfClosing rest, (tagAttributes text).2 = tagClosing selfClosing ++ rest := by
  unfold readStartTag
  simp only [List.drop_succ_cons, List.drop_zero, List.take_succ_cons, List.take_zero]
  rw [← tagFront, ← tagAttributes]
  constructor
  · intro h
    split at h
    · cases h
    · next rest heq =>
      rcases bind_eq_error h with hvalues | ⟨values, -, h⟩
      · exact ⟨hvalues, false, rest, heq⟩
      · cases h
    · next rest heq =>
      rcases bind_eq_error h with hvalues | ⟨values, -, h⟩
      · exact ⟨hvalues, true, rest, heq⟩
      · cases h
    · split at h <;> cases h
  · rintro ⟨hvalues, selfClosing, rest, hend⟩
    rw [hend, hvalues]
    cases selfClosing <;> rfl

theorem unreadable_of_readStartTag {c : Char} {more : List Char} {e : Error} (hc : isLetter c)
    (h : readStartTag ('<' :: c :: more) = .error e) : Unreadable ('<' :: c :: more) e := by
  obtain ⟨hvalues, selfClosing, rest, hend⟩ := readStartTag_eq_error_iff.1 h
  obtain ⟨a, ha, value, hvalue, hexpand⟩ := exists_expand_eq_error hvalues
  obtain ⟨back, n, hback, hlong, rfl⟩ := longReference_of_expandFrom hexpand
  exact .longReference hc hend ha hvalue hback hlong

theorem exists_readStartTag_eq_error {c : Char} {more value back rest : List Char}
    {selfClosing : Bool} {a : WrittenAttribute} {n : Nat}
    (hend : (tagAttributes (c :: more)).2 = tagClosing selfClosing ++ rest)
    (ha : a ∈ (tagAttributes (c :: more)).1) (hvalue : a.value = some value)
    (hback : back <:+ value) (hlong : LongReference back n) :
    ∃ e, readStartTag ('<' :: c :: more) = .error e := by
  cases hvalues : attributesOf (tagAttributes (c :: more)).1 with
  | error e => exact ⟨e, readStartTag_eq_error_iff.2 ⟨hvalues, selfClosing, rest, hend⟩⟩
  | ok values =>
    obtain hread := exists_expand_eq_ok hvalues a ha value hvalue
    exact absurd ⟨back, n, hback, hlong⟩ (exists_expand_eq_ok_iff.1 hread)

/-! ## Where values stand -/

theorem value_infix_of_attributeValue? {text rest : List Char} {written : WrittenValue}
    (h : attributeValue? text = some (written, rest)) : written.value <:+: written.spelling := by
  have hequals : ∀ c ∈ (text.dropWhile Text.isBlank).takeWhile (· == '='), c = '=' :=
    fun c hc => by simpa using List.mem_takeWhile_imp hc
  simp only [attributeValue?] at h
  generalize (text.dropWhile Text.isBlank).takeWhile (· == '=') = signs at *
  split at h
  · cases h
  · next hsigns =>
    split at h
    · obtain ⟨rfl, -⟩ := Prod.mk.inj (Option.some.inj h)
      exact List.nil_infix
    · next quote inner _ =>
      split at h
      · split at h
        · obtain ⟨rfl, -⟩ := Prod.mk.inj (Option.some.inj h)
          exact ((List.suffix_cons quote _).trans (List.suffix_append _ _)).isInfix.trans
            (List.prefix_append _ _).isInfix
        · split at h
          · obtain ⟨rfl, -⟩ := Prod.mk.inj (Option.some.inj h)
            exact List.nil_infix
          · split at h
            · -- the last of the signs is taken into the value
              obtain ⟨rfl, -⟩ := Prod.mk.inj (Option.some.inj h)
              have hsplit := List.dropLast_concat_getLast hsigns
              rw [hequals _ (List.getLast_mem hsigns)] at hsplit
              dsimp only
              rw [← hsplit, ← List.append_assoc, List.append_assoc _ ['=']]
              exact (List.suffix_append _ _).isInfix
            · cases h
      · obtain ⟨rfl, -⟩ := Prod.mk.inj (Option.some.inj h)
        exact (List.suffix_append _ _).isInfix

theorem value_infix_of_attribute? {previous : Char} {text rest value : List Char}
    {a : WrittenAttribute} (h : attribute? previous text = some (a, rest))
    (ha : a.value = some value) : value <:+: a.spelling := by
  cases text with
  | nil => cases h
  | cons c text =>
    simp only [attribute?] at h
    split at h
    · split at h
      · next written after hvalue =>
        obtain ⟨rfl, -⟩ := Prod.mk.inj (Option.some.inj h)
        obtain rfl := Option.some.inj ha
        exact (value_infix_of_attributeValue? hvalue).trans
          ((List.suffix_append _ _).isInfix.trans (List.prefix_append _ _).isInfix)
      · obtain ⟨rfl, -⟩ := Prod.mk.inj (Option.some.inj h)
        cases ha
    · cases h

theorem value_infix_of_mem_readAttributes {previous : Char} {text value : List Char}
    {a : WrittenAttribute} (h : a ∈ (readAttributes previous text).1) (ha : a.value = some value) :
    value <:+: text := by
  fun_induction readAttributes previous text with
  | case1 => cases h
  | case2 previous text b rest hb _ more ih =>
    obtain ⟨hspelling, -⟩ := attribute?_spelling hb
    rw [← hspelling]
    rcases List.mem_cons.1 h with rfl | hmem
    · exact (value_infix_of_attribute? hb ha).trans (List.prefix_append _ _).isInfix
    · exact (ih hmem).trans (List.suffix_append _ _).isInfix

/-- The value of an attribute stands in the tag. -/
theorem value_infix_of_mem_tagAttributes {text value : List Char} {a : WrittenAttribute}
    (h : a ∈ (tagAttributes text).1) (ha : a.value = some value) : value <:+: text := by
  have hbehind : (splitSeparators (text.dropWhile isTagNameChar)).2 <:+ text :=
    List.IsSuffix.trans ⟨_, splitSeparators_append _⟩ (List.dropWhile_suffix _)
  exact (value_infix_of_mem_readAttributes h ha).trans hbehind.isInfix

/-- What cannot be read is the opening of a section, or holds a reference with too many digits. -/
theorem Unreadable.opens_or_hasLongReference {text : List Char} {e : Error}
    (h : Unreadable text e) : ['<', '!', '['] <+: text ∨ HasLongReference text := by
  cases h with
  | noKeyword => exact .inl ⟨_, rfl⟩
  | unknownSection => exact .inl ⟨_, rfl⟩
  | longReference hc hend ha hvalue hback hlong =>
    exact .inr (.of_inside ⟨_, _, hback, hlong⟩
      ((value_infix_of_mem_tagAttributes ha hvalue).trans (List.suffix_cons _ _).isInfix))

/-! ## Steps and rounds -/

theorem unreadable_of_readConstruct {raw : RawText} {text : List Char} {e : Error}
    (h : readConstruct raw text = .error e) : Unreadable text e := by
  unfold readConstruct at h
  split at h
  · split at h
    · next hc =>
      split at h
      · next hread => exact Except.error.inj h ▸ unreadable_of_readStartTag hc hread
      · cases h
      · cases h
      · cases h
    · split at h
      · cases h
      · split at h
        · split at h
          · next hread => exact Except.error.inj h ▸ unreadable_of_readDeclaration hread
          · cases h
        · cases h
  · cases h

theorem readConstruct_of_readSection {raw : RawText} {rest : List Char} {e : Error}
    (h : readSection ('<' :: '!' :: '[' :: rest) = .error e) :
    readConstruct raw ('<' :: '!' :: '[' :: rest) = .error e := by
  have hmark : isLetter '!' = false := by decide
  simp [readConstruct, readDeclaration, hmark, h]

/-- Outside raw text a construct that cannot be read is not read. -/
theorem Unreadable.step {text : List Char} {e : Error} (h : Unreadable text e) (final : Bool) :
    ∃ found, Markup.step final none text = .error found := by
  suffices hconstruct : ∃ c more found, text = '<' :: c :: more ∧
      readConstruct none text = .error found by
    obtain ⟨c, more, found, rfl, hfound⟩ := hconstruct
    exact ⟨found, by simp [Markup.step, stepConstruct, hfound]⟩
  cases h with
  | noKeyword hc =>
    exact ⟨_, _, _, rfl, readConstruct_of_readSection (readSection_of_noKeyword hc)⟩
  | unknownSection hc hkeyword hblanks hstop hd hnone =>
    exact ⟨_, _, _, rfl, readConstruct_of_readSection
      (readSection_of_unknown hc hkeyword hblanks hstop hd hnone)⟩
  | longReference hc hend ha hvalue hback hlong =>
    obtain ⟨found, hfound⟩ := exists_readStartTag_eq_error hend ha hvalue hback hlong
    exact ⟨_, _, found, rfl, by simp [readConstruct, hc, hfound]⟩

theorem unreadable_of_step {final : Bool} {raw : RawText} {text : List Char} {e : Error}
    (h : step final raw text = .error e) : Unreadable text e := by
  have construct (h : stepConstruct final raw text = .error e) : Unreadable text e := by
    unfold stepConstruct at h
    split at h
    · cases h
    · split at h
      · next hread => exact Except.error.inj h ▸ unreadable_of_readConstruct hread
      · cases h
      · split at h <;> cases h
  unfold step at h
  split at h
  · split at h
    · cases h
    · exact construct h
    · cases h
  · split at h
    · exact construct h
    · cases h
    · cases h

theorem unreadable_of_readRound {final : Bool} {raw : RawText} {text : List Char} {e : Error}
    (h : readRound final raw text = .error e) : ∃ back, back <:+ text ∧ Unreadable back e := by
  fun_induction readRound final raw text with
  | case1 raw => cases h
  | case2 raw c more found hstep =>
    obtain rfl := Except.error.inj h
    exact ⟨_, List.suffix_refl _, unreadable_of_step hstep⟩
  | case3 raw c more events rest hstep => cases h
  | case4 raw c more events opened rest hstep ih =>
    obtain ⟨back, hback, hunreadable⟩ := ih (map_eq_error h)
    exact ⟨back, hback.trans (readIn_of_step hstep).suffix, hunreadable⟩

/-- A text that cannot be read has a construct that cannot be. -/
theorem unreadable_of_parse {text : String} {e : Error} (h : parse text = .error e) :
    ∃ back, back <:+ text.toList ∧ Unreadable back e := by
  rcases bind_eq_error (map_eq_error h) with hfirst | ⟨first, hfirst, h⟩
  · exact unreadable_of_readRound hfirst
  rcases bind_eq_error h with hlast | ⟨last, -, h⟩
  · obtain ⟨back, hback, hunreadable⟩ := unreadable_of_readRound hlast
    exact ⟨back, hback.trans (readIn_of_readRound hfirst).suffix, hunreadable⟩
  · cases h

/-- A text in which no marked section opens and no decimal reference has too many digits can be
read. -/
theorem exists_parse_eq_ok {text : String} (hopening : ¬['<', '!', '['] <:+: text.toList)
    (hlong : ¬HasLongReference text.toList) : ∃ document, parse text = .ok document := by
  cases h : parse text with
  | ok document => exact ⟨document, rfl⟩
  | error e =>
    obtain ⟨back, hback, hunreadable⟩ := unreadable_of_parse h
    rcases hunreadable.opens_or_hasLongReference with hopens | hholds
    · exact absurd (hopens.isInfix.trans hback.isInfix) hopening
    · exact absurd (hholds.of_inside hback.isInfix) hlong

/-! ## Behind plain tokens -/

theorem Unreadable.head?_eq {text : List Char} {e : Error} (h : Unreadable text e) :
    text.head? = some '<' := by
  cases h <;> rfl

/-- Whatever follows it, a construct that cannot be read makes a text unreadable if plain tokens
stand before it. -/
theorem exists_parse_eq_error {tokens : List Token} {back : List Char} {e : Error}
    (h : ∀ token ∈ tokens, token.IsPlain) (hback : Unreadable back e) :
    ∃ found, parse (String.ofList (Token.charsOf tokens ++ back)) = .error found := by
  have hhead : ∀ c ∈ back.head?, isPlain c = false := by
    rw [hback.head?_eq]
    rintro c ⟨⟩
    decide
  have hne : back ≠ [] := by
    rintro rfl
    cases hback.head?_eq
  obtain ⟨e', hstep⟩ := hback.step false
  have hround := readRound_charsOf_append hhead h [] (by simp)
  rw [List.nil_append, readRound_of_error hstep hne] at hround
  obtain ⟨found, hfound⟩ : ∃ found,
      readRound false none (Token.charsOf tokens ++ back) = .error found := by
    rw [hround]
    cases Token.joined [] tokens with
    | error found => exact ⟨found, rfl⟩
    | ok events => exact ⟨e', rfl⟩
  refine ⟨found, ?_⟩
  rw [parse, String.toList_ofList, readEvents, hfound]
  rfl

end PageCompiler.Markup
